import RecordQuery.Value.Text
import RecordQuery.Json.Writer
import RecordQuery.Fault

/-! # Values as JSON

JSON scalars and arrays are values, objects are none. Kinds of values that JSON does not have are
written as their texts. -/

namespace RecordQuery.Value

/-- A whole number of sixty-four bits is an integer; one beyond them is a binary number. -/
def ofInteger (n : Int) : Value :=
  match int64? n with
  | some integral => integer integral
  | none => float (Binary64.ofInt n)

mutual

/-- The value that a JSON tree stands for. -/
def ofJson : Json → Except Fault Value
  | .null => .ok null
  | .bool b => .ok (boolean b)
  | .integer n => .ok (ofInteger n)
  | .float x => .ok (float x)
  | .string s => .ok (string s)
  | .array items => (ofJsonItems items).map list
  | .object members =>
    .error (.coercion (Json.object members).compact "literal" "objects are not literal values")

def ofJsonItems : List Json → Except Fault (List Value)
  | [] => .ok []
  | item :: rest => do return (← ofJson item) :: (← ofJsonItems rest)

end

mutual

/-- The JSON tree that stands for a value; a number that is not finite becomes null. -/
def toJson : Value → Json
  | null => .null
  | boolean b => .bool b
  | integer n => .integer n.toInt
  | float x => if x.isFinite then .float x else .null
  | decimal d => .string d.text
  | string s => .string s
  | date d => .string d.text
  | dateTime i => .string i.text
  | time t => .string t.text
  | period p => .string p.text
  | enumMember e => .string e.member
  | list items => .array (toJsonItems items)

def toJsonItems : List Value → List Json
  | [] => []
  | item :: rest => toJson item :: toJsonItems rest

end

end RecordQuery.Value
