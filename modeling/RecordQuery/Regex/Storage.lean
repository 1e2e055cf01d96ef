import RecordQuery.Regex.Assembly
import RecordQuery.Regex.Encoding

/-! # Storage of regular expressions

What an expression takes when it is laid out as an automaton over bytes, forwards and backwards. An
expression whose automata would take too much is refused. Counted repetitions are written out, so
that their counts tell in the storage. -/

namespace RecordQuery.Regex.Storage

/-- The bytes of one state. -/
def state : Nat := 32

/-- The bytes of each range of bytes that a state accepts. -/
def accepted : Nat := 8

/-- The bytes of each alternative that a state leads to. -/
def alternative : Nat := 4

/-- What one automaton may take: ten mebibytes. -/
def limit : Nat := 10485760

/-- The storage of a class of characters. Forwards, classes share what they end with; backwards,
what they begin with. -/
def ofRanges (backwards : Bool) (ranges : List (Nat × Nat)) : Nat :=
  if ranges.all fun (_, last) => last < 128 then 2 * state + accepted * ranges.length
  else
    let sequences := ranges.flatMap Encoding.ofRange
    if backwards then
      2 * state + alternative * sequences.length + state * Encoding.beginnings sequences
    else
      (Encoding.states sequences).foldl (fun n s => n + state + accepted * s.length) state

/-- The bytes of a literal. -/
def literalBytes (text : List Char) : List UInt8 := text.flatMap String.utf8EncodeChar

/-- Divides words at those that are empty. -/
def segments : List (List UInt8) → List (List (List UInt8))
  | [] => [[]]
  | [] :: rest => [] :: segments rest
  | word :: rest =>
    match segments rest with
    | first :: others => (word :: first) :: others
    | [] => [[word]]

/-- Leaves one of several empty segments at the beginning. -/
def dropRepeatedStart : List (List (List UInt8)) → List (List (List UInt8))
  | [] :: [] :: rest => dropRepeatedStart ([] :: rest)
  | segments => segments

/-- The storage of a tree of words that share what they begin with; `fuel` bounds their length. A
word that ends divides the words before it from those after it. -/
def ofWords : Nat → List (List UInt8) → Nat
  | 0, _ => 0
  | fuel + 1, words =>
    if words.all List.isEmpty then 0
    else
      let segments := dropRepeatedStart (segments words)
      segments.foldl
        (fun n segment =>
          let firsts := (segment.filterMap List.head?).eraseDups
          let own :=
            match firsts with
            | [] => 0
            | [_] => state + alternative
            | _ => state + accepted * firsts.length + alternative
          firsts.foldl
            (fun n first =>
              let rests := (segment.filter fun word => word.head? == some first).map List.tail
              n + ofWords fuel rests)
            (n + own))
        (state + alternative * (segments.length - 1))

/-- The text of an expression that is a literal. -/
def text? : Regex → Option (List Char)
  | literal text => some text
  | _ => none

/-- The shortest match, if there is any; only whether it is empty matters. -/
def shortest? : Regex → Option Nat
  | empty | assertion _ => some 0
  | literal text => some text.length
  | chars ranges => if ranges.isEmpty then none else some 1
  | seq first rest => do return (← shortest? first) + (← shortest? rest)
  | alt first rest => do return min (← shortest? first) (← shortest? rest)
  | group inner => shortest? inner
  | repetition inner least _ => (shortest? inner).map (least * ·)

/-- The storage of a repetition of an expression that takes `inner` itself. -/
def ofRepetition (inner : Nat) (mayBeEmpty : Bool) (least : Nat) (most : Option Nat) : Nat :=
  match least, most with
  | 0, none =>
    if mayBeEmpty then inner + 3 * state + 4 * alternative else inner + state + 2 * alternative
  | least, none => least * inner + state + 2 * alternative
  | 0, some 1 => inner + 2 * state + 2 * alternative
  | least, some most =>
    if least = most then least * inner
    else
      (if least = 0 then state else least * inner) + state +
        (most - least) * (inner + state + 2 * alternative)

/-- The storage of an expression on its own, and of its branches where it ends a list of
branches. -/
def parts (backwards : Bool) : Regex → Nat × Nat
  | empty => (state, state + alternative)
  | literal text =>
    let own := state * (literalBytes text).length
    (own, own + alternative)
  | chars ranges =>
    let own := ofRanges backwards ranges
    (own, own + alternative)
  | assertion _ => (state, state + alternative)
  | seq first rest =>
    let own := (parts backwards first).1 + (parts backwards rest).1
    (own, own + alternative)
  | alt first rest =>
    let both := (parts backwards first).1 + alternative + (parts backwards rest).2
    let own :=
      match (branches (alt first rest)).mapM text? with
      | some texts =>
        let words := texts.map fun text =>
          if backwards then (literalBytes text).reverse else literalBytes text
        state + ofWords ((words.map List.length).foldl max 0 + 1) words
      | none => 2 * state + both
    (own, both)
  | group inner =>
    let own := (parts backwards inner).1 + if backwards then 0 else 2 * state
    (own, own + alternative)
  | repetition inner least most =>
    let own := ofRepetition (parts backwards inner).1 (shortest? inner |>.getD 0 |> (· == 0)) least
      most
    (own, own + alternative)

/-- Every match begins at the beginning of the text; backwards, it ends at the end. -/
def isAnchored (backwards : Bool) : Regex → Bool
  | assertion condition => condition == if backwards then .textEnd else .textStart
  | seq first rest =>
    if backwards then isAnchored backwards rest || (isBlank rest && isAnchored backwards first)
    else isAnchored backwards first || (isBlank first && isAnchored backwards rest)
  | alt first rest => isAnchored backwards first && isAnchored backwards rest
  | group inner => isAnchored backwards inner
  | repetition inner least _ => 0 < least && isAnchored backwards inner
  | _ => false

/-- The storage of a whole automaton. One that is not anchored begins with any number of bytes;
forwards, the place of the match is kept. -/
def total (backwards : Bool) (regex : Regex) : Nat :=
  (if isAnchored backwards regex then state else 3 * state + 2 * alternative + accepted) +
    (parts backwards regex).1 + state + if backwards then 0 else 2 * state

/-- The automata of an expression stay within the limit. -/
def isWithinLimit (regex : Regex) : Bool :=
  total false regex ≤ limit && total true regex ≤ limit

end RecordQuery.Regex.Storage
