import RecordQuery.Regex.Basic

/-! # Assembling regular expressions

Expressions put together from parts and brought into a simple form on the way: neighbouring literals
are one literal, what can be one class of characters is one, branches share what they begin with,
and nothing is repeated in vain. The simple form matches what the parts as they stand would
match. -/

namespace RecordQuery.Regex

open Text (CharSet)

/-- A literal of one character. -/
def char (c : Char) : Regex := literal [c]

/-- One character of a set. -/
def ofSet (set : CharSet) : Regex :=
  match set.charRanges with
  | [(first, last)] => if first = last then char (Char.ofNat first) else chars [(first, last)]
  | ranges => chars ranges

/-- The parts of an expression that follow each other. -/
def parts : Regex → List Regex
  | empty => []
  | seq first rest => first :: parts rest
  | regex => [regex]

/-- The branches of an expression. -/
def branches : Regex → List Regex
  | alt first rest => first :: branches rest
  | regex => [regex]

/-- Puts a part before others; a literal joins a literal. -/
def consPart : Regex → List Regex → List Regex
  | literal before, literal after :: rest => literal (before ++ after) :: rest
  | part, rest => part :: rest

def ofParts : List Regex → Regex
  | [] => empty
  | [part] => part
  | part :: rest => seq part (ofParts rest)

/-- Expressions one after the other. -/
def concat (regexes : List Regex) : Regex :=
  ofParts ((regexes.flatMap parts).foldr consPart [])

/-- The expression matches in one way at most: without any character. -/
def isBlank : Regex → Bool
  | empty | assertion _ => true
  | literal _ | chars _ => false
  | seq first rest | alt first rest => isBlank first && isBlank rest
  | group inner | repetition inner _ _ => isBlank inner

/-- An expression a number of times. -/
def repeated (inner : Regex) (least : Nat) (most : Option Nat) : Regex :=
  let least := if isBlank inner then min least 1 else least
  let most := if isBlank inner then some (min (most.getD 1) 1) else most
  if most = some 0 then empty
  else if least = 1 ∧ most = some 1 then inner
  else repetition inner least most

/-- The ranges of an expression that is one class of characters. -/
def ranges? : Regex → Option (List (Nat × Nat))
  | chars ranges => some ranges
  | _ => none

/-- The range of an expression that is one given character. -/
def singleRange? : Regex → Option (Nat × Nat)
  | literal [c] => some (c.toNat, c.toNat)
  | _ => none

/-- What two lists begin with alike. -/
def commonStart : List Regex → List Regex → List Regex
  | a :: as, b :: bs => if a = b then a :: commonStart as bs else []
  | _, _ => []

def isSeq : Regex → Bool
  | seq _ _ => true
  | _ => false

def ofBranches : List Regex → Regex
  | [] => chars []
  | [branch] => branch
  | branch :: rest => alt branch (ofBranches rest)

/-- Branches to choose from; `fuel` bounds how often what they begin with is taken out of them. -/
def choiceWithin : Nat → List Regex → Regex
  | 0, regexes => ofBranches regexes
  | fuel + 1, regexes =>
    let all := regexes.flatMap branches
    match all with
    | [] => chars []
    | [branch] => branch
    | first :: rest =>
      match all.mapM singleRange? with
      | some ranges => ofSet (.ranges ranges)
      | none =>
        match all.mapM ranges? with
        | some ranges => ofSet (.ranges ranges.flatten)
        | none =>
          let start := rest.foldl (fun start branch => commonStart start branch.parts) first.parts
          if all.all isSeq && !start.isEmpty then
            let ends := all.map fun branch => concat (branch.parts.drop start.length)
            concat (start ++ [choiceWithin fuel ends])
          else ofBranches all

/-- Branches to choose from. -/
def choice (regexes : List Regex) : Regex :=
  choiceWithin ((regexes.flatMap branches).foldl (fun n branch => n + branch.parts.length + 1) 0)
    regexes

end RecordQuery.Regex
