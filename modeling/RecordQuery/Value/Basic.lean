import RecordQuery.Binary64.Basic
import RecordQuery.Decimal.Basic
import RecordQuery.Calendar.Time
import RecordQuery.Period

/-! # Values

The typed values that fields hold and filters compare. -/

namespace RecordQuery

/-- A member of a declared enumeration. -/
structure EnumMember where
  typeName : String
  member : String
deriving DecidableEq, Repr

/-- A typed value. -/
inductive Value where
  | null
  | boolean (value : Bool)
  | integer (value : Int64)
  | float (value : Binary64)
  | decimal (value : Decimal)
  | string (value : String)
  | date (value : Date)
  | dateTime (value : Instant)
  | time (value : TimeOfDay)
  | period (value : Period)
  | enumMember (value : EnumMember)
  | list (items : List Value)
deriving Repr, Inhabited

namespace Value

/-- The integer of sixty-four bits that a whole number is. -/
def int64? (n : Int) : Option Int64 :=
  if Int64.minValue.toInt ≤ n ∧ n ≤ Int64.maxValue.toInt then some (Int64.ofInt n) else none

/-- The name of the kind of a value. -/
def kindName : Value → String
  | null => "Null"
  | boolean _ => "Boolean"
  | integer _ => "Integer"
  | float _ => "Float"
  | decimal _ => "Decimal"
  | string _ => "String"
  | date _ => "Date"
  | dateTime _ => "DateTime"
  | time _ => "Time"
  | period _ => "Period"
  | enumMember _ => "Enum"
  | list _ => "List"

def isNull : Value → Bool
  | null => true
  | _ => false

/-- The text of a string value. -/
def asText? : Value → Option String
  | string s => some s
  | _ => none

/-- The truth value of a boolean value. -/
def asBool? : Value → Option Bool
  | boolean b => some b
  | _ => none

mutual

/-- Equality of values as data. Numbers of one kind are equal if their values are: a NaN differs
from itself, both zeros are equal, and so are decimals that differ in scale only. -/
def sameAs : Value → Value → Bool
  | null, null => true
  | boolean x, boolean y => x == y
  | integer x, integer y => x == y
  | float x, float y => x.equals y
  | decimal x, decimal y => x.compareValues y == .eq
  | string x, string y => x == y
  | date x, date y => x == y
  | dateTime x, dateTime y => x == y
  | time x, time y => x == y
  | period x, period y => x == y
  | enumMember x, enumMember y => x == y
  | list xs, list ys => sameItems xs ys
  | _, _ => false

def sameItems : List Value → List Value → Bool
  | [], [] => true
  | x :: xs, y :: ys => sameAs x y && sameItems xs ys
  | _, _ => false

end

end Value

end RecordQuery
