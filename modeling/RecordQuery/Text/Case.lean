import RecordQuery.Text.Case.Table

/-! # Letter case

Upper case, lower case and simple case folding of Unicode. One character may map to several, and a
capital sigma at the end of a word has its own lower case. -/

namespace RecordQuery.Text

namespace Case

/-- The code point that a run maps `n` to. -/
def shift? (runs : List (Nat × Nat × Nat × Int)) (n : Nat) : Option Nat :=
  (runs.find? fun (first, last, step, _) =>
    first ≤ n && n ≤ last && (n - first) % step == 0).map fun (_, _, _, delta) =>
      ((n : Int) + delta).toNat

/-- The code point that a run maps to `n`. -/
def unshift? (n : Nat) (run : Nat × Nat × Nat × Int) : Option Nat :=
  let (first, last, step, delta) := run
  let source := ((n : Int) - delta).toNat
  if first ≤ source && source ≤ last && (source - first) % step == 0 then some source else none

def inRanges (ranges : List (Nat × Nat)) (n : Nat) : Bool :=
  ranges.any fun (first, last) => first ≤ n && n ≤ last

def isCased (c : Char) : Bool := inRanges casedRanges c.toNat

def isIgnorable (c : Char) : Bool := inRanges ignorableRanges c.toNat

/-- The first character that counts in a context has a case. -/
def nextIsCased (context : List Char) : Bool :=
  ((context.dropWhile isIgnorable).head?.map isCased).getD false

/-- The simple case folding of a code point. -/
def fold (n : Nat) : Nat := (shift? foldRuns n).getD n

/-- Every code point whose simple case folding is another one, with that one. -/
def foldPairs : List (Nat × Nat) :=
  foldRuns.flatMap fun (first, last, step, delta) =>
    (List.range ((last - first) / step + 1)).map fun i =>
      let source := first + step * i
      (source, ((source : Int) + delta).toNat)

/-- The code points that have the same case folding. -/
def variants (n : Nat) : List Nat := fold n :: foldRuns.filterMap (unshift? (fold n))

end Case

/-- The upper case of a character. -/
def upperChar (c : Char) : List Char :=
  match (Case.upperSequences.find? (·.1 == c.toNat)).map (·.2) with
  | some codes => codes.map Char.ofNat
  | none => [((Case.shift? Case.upperRuns c.toNat).map Char.ofNat).getD c]

/-- The lower case of a character outside any word. -/
def lowerChar (c : Char) : List Char :=
  if c.toNat = 0x130 then ['i', '\u0307']
  else [((Case.shift? Case.lowerRuns c.toNat).map Char.ofNat).getD c]

def upperChars (cs : List Char) : List Char := cs.flatMap upperChar

/-- The lower case of characters after a context, which is given last character first. -/
def lowerCharsAfter (before : List Char) : List Char → List Char
  | [] => []
  | c :: after =>
    (if c = 'Σ' then [if Case.nextIsCased before && !Case.nextIsCased after then 'ς' else 'σ']
      else lowerChar c) ++ lowerCharsAfter (c :: before) after

/-- The text in upper case. -/
def upper (text : String) : String := String.ofList (upperChars text.toList)

/-- The text in lower case. -/
def lower (text : String) : String := String.ofList (lowerCharsAfter [] text.toList)

end RecordQuery.Text
