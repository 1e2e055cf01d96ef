import RecordQuery.Value.Basic

/-! # Comparing values

Equality and order of values as queries see them: nothing is known about null, and numbers compare
across their kinds. -/

namespace RecordQuery.Value

/-- The order of two values; unknown if one is null or the two are not comparable. -/
def compare? : Value → Value → Option Ordering
  | boolean x, boolean y => some (Ord.compare x y)
  | integer x, integer y => some (Ord.compare x y)
  | float x, float y => x.compare? y
  | decimal x, decimal y => some (x.compareValues y)
  | integer x, float y => (Binary64.ofInt x.toInt).compare? y
  | float x, integer y => x.compare? (Binary64.ofInt y.toInt)
  | integer x, decimal y => some ((Decimal.ofInt64 x).compareValues y)
  | decimal x, integer y => some (x.compareValues (Decimal.ofInt64 y))
  | float x, decimal y => x.compare? y.toBinary64
  | decimal x, float y => x.toBinary64.compare? y
  | string x, string y => some (Ord.compare x y)
  | date x, date y => some (x.compare y)
  | dateTime x, dateTime y => some (x.compare y)
  | date x, dateTime y => some (x.compare y.date)
  | dateTime x, date y => some (x.date.compare y)
  | time x, time y => some (x.compare y)
  | _, _ => none

mutual

/-- Equality of two values; unknown if one is null or the two are not comparable. Members of
enumerations equal their names, lists are equal item by item. -/
def equals? : Value → Value → Option Bool
  | null, _ => none
  | _, null => none
  | enumMember x, enumMember y => some (x == y)
  | enumMember x, string y => some (x.member == y)
  | string x, enumMember y => some (y.member == x)
  | period x, period y => some (x == y)
  | list xs, list ys => if xs.length = ys.length then equalItems? xs ys else some false
  | x, y => (compare? x y).map (· == .eq)

/-- Equality of two lists of one length: false if two items differ, else unknown if nothing is known
about two items. -/
def equalItems? : List Value → List Value → Option Bool
  | x :: xs, y :: ys =>
    match equals? x y with
    | some false => some false
    | some true => equalItems? xs ys
    | none => if equalItems? xs ys == some false then some false else none
  | _, _ => some true

end

/-- The order for sorting: null is first, values that are not comparable tie. -/
def sortCompare (x y : Value) : Ordering :=
  match x.isNull, y.isNull with
  | true, true => .eq
  | true, false => .lt
  | false, true => .gt
  | false, false => (x.compare? y).getD .eq

end RecordQuery.Value
