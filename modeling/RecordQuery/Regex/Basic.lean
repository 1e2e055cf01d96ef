import RecordQuery.Regex.Class

/-! # Regular expressions

Regular expressions over characters with assertions about positions, and the search for a match in a
text. A set of positions is a number whose bit `i` says that position `i` is in the set; an
expression maps the positions where a match may start to those where it may end. -/

namespace RecordQuery

/-- A condition on a position of a text. -/
inductive Regex.Assertion where
  | textStart
  | textEnd
  | lineStart
  | lineEnd
  /-- The start of a line that ends in a carriage return, a line feed or both. -/
  | lineStartCrlf
  | lineEndCrlf
  | wordBoundary (ascii : Bool)
  | notWordBoundary (ascii : Bool)
  | wordStart (ascii : Bool)
  | wordEnd (ascii : Bool)
  | wordStartHalf (ascii : Bool)
  | wordEndHalf (ascii : Bool)
deriving DecidableEq, Repr

/-- A regular expression. -/
inductive Regex where
  | empty
  /-- The given characters one after the other. -/
  | literal (text : List Char)
  /-- One character out of ranges of code points. -/
  | chars (ranges : List (Nat × Nat))
  | assertion (condition : Regex.Assertion)
  | seq (first rest : Regex)
  | alt (first rest : Regex)
  /-- A part whose match is kept apart. -/
  | group (inner : Regex)
  /-- At least `least` and, if bounded, at most `most` matches after each other. -/
  | repetition (inner : Regex) (least : Nat) (most : Option Nat)
deriving DecidableEq, Repr

namespace Regex

/-- The condition holds between the characters before and after a position. -/
def Assertion.holds (before after : Option Char) : Assertion → Bool
  | textStart => before.isNone
  | textEnd => after.isNone
  | lineStart => before.isNone || before == some '\n'
  | lineEnd => after.isNone || after == some '\n'
  | lineStartCrlf =>
    before.isNone || before == some '\n' || (before == some '\r' && after != some '\n')
  | lineEndCrlf =>
    after.isNone || after == some '\r' || (after == some '\n' && before != some '\r')
  | wordBoundary ascii => isWord ascii before != isWord ascii after
  | notWordBoundary ascii => isWord ascii before == isWord ascii after
  | wordStart ascii => !isWord ascii before && isWord ascii after
  | wordEnd ascii => isWord ascii before && !isWord ascii after
  | wordStartHalf ascii => !isWord ascii before
  | wordEndHalf ascii => !isWord ascii after
where
  isWord (ascii : Bool) (c : Option Char) : Bool :=
    (c.map fun c => (if ascii then asciiWords else words).contains c.toNat).getD false

/-- The set of the positions below a bound that have a property. -/
def positions (bound : Nat) (property : Nat → Bool) : Nat :=
  match bound with
  | 0 => 0
  | n + 1 => positions n property ||| (if property n then 1 <<< n else 0)

/-- The character before a position. -/
def before? (text : Array Char) (i : Nat) : Option Char := if i = 0 then none else text[i - 1]?

/-- The positions of a text where a condition holds. -/
def assertionPositions (text : Array Char) (condition : Assertion) : Nat :=
  positions (text.size + 1) fun i => condition.holds (before? text i) text[i]?

/-- The positions of the characters that have a property. -/
def charPositions (text : Array Char) (property : Char → Bool) : Nat :=
  positions text.size fun i => (text[i]?.map property).getD false

/-- Applies a step a number of times, no further than to a set that the step keeps. -/
def iterate (step : Nat → Nat) : Nat → Nat → Nat
  | 0, starts => starts
  | n + 1, starts => if step starts = starts then starts else iterate step n (step starts)

/-- Adds what is reached by a step up to a number of times. -/
def closure (step : Nat → Nat) : Nat → Nat → Nat
  | 0, starts => starts
  | n + 1, starts =>
    if starts ||| step starts = starts then starts else closure step n (starts ||| step starts)

/-- The positions where matches end that start at one of the given positions. -/
def ends (text : Array Char) : Regex → Nat → Nat
  | empty, starts => starts
  | literal cs, starts =>
    cs.foldl (fun starts c => (starts &&& charPositions text (· == c)) <<< 1) starts
  | chars ranges, starts =>
    (starts &&& charPositions text fun c => Text.Case.inRanges ranges c.toNat) <<< 1
  | assertion condition, starts => starts &&& assertionPositions text condition
  | seq first rest, starts => ends text rest (ends text first starts)
  | alt first rest, starts => ends text first starts ||| ends text rest starts
  | group inner, starts => ends text inner starts
  | repetition inner least most, starts =>
    closure (ends text inner) ((most.map (· - least)).getD (text.size + 1))
      (iterate (ends text inner) least starts)

/-- Some part of the text matches. -/
def isMatch (regex : Regex) (text : String) : Bool :=
  let chars := text.toList.toArray
  ends chars regex (Nat.pow 2 (chars.size + 1) - 1) != 0

end Regex

end RecordQuery
