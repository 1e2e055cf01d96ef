import RecordQuery.Coercion
import RecordQuery.Record.Basic
import RecordQuery.Value.Json

/-! # Records as JSON

A record is written as an object with its fields, its type under a key of its own, and the records
that it leads to inside. Values are converted to the types of their fields when they are read. -/

namespace RecordQuery

namespace Record

/-- The key of the type of a record. -/
def typeKey : String := "$type"

mutual

/-- The record as an object with sorted members. -/
def toJson : Record → Json
  | ⟨entity, fields⟩ =>
    .object (Json.sortMembers ((typeKey, .string entity) :: fieldsToJson fields))

def fieldsToJson : List (String × Datum) → List (String × Json)
  | [] => []
  | (name, datum) :: rest => (name, datumToJson datum) :: fieldsToJson rest

def datumToJson : Datum → Json
  | .value v => v.toJson
  | .embedded record => toJson record
  | .one none => .null
  | .one (some record) => toJson record
  | .many records => .array (listToJson records)

def listToJson : List Record → List Json
  | [] => []
  | record :: rest => toJson record :: listToJson rest

end

/-- The type that an object says it has, which is to be the expected one or a subtype of it. -/
def typeOfMembers (schema : Schema) (entity : String) (members : List (String × Json)) :
    Except Fault String :=
  match Json.member? typeKey members with
  | none => .ok entity
  | some (.string name) =>
    if schema.isAssignable entity name then .ok name
    else .error (.invalidSchema entity ((Json.string name).compact ++ " is not a subtype"))
  | some other => .error (.invalidSchema entity (other.compact ++ " is not a subtype"))

mutual

/-- Reads a record of an entity, or of the subtype that its type says. -/
def ofJson (schema : Schema) (entity : String) : Json → Except Fault Record
  | .object members => do
    let concrete ← typeOfMembers schema entity members
    let _ ← schema.entity concrete
    return { entity := concrete, fields := ← fieldsOfJson schema concrete members }
  | other =>
    .error (.invalidSchema entity ("expected a JSON object, got " ++ other.compact))

/-- Reads the fields of a record one by one; the first fault is reported. -/
def fieldsOfJson (schema : Schema) (entity : String) :
    List (String × Json) → Except Fault (List (String × Datum))
  | [] => .ok []
  | (key, json) :: rest =>
    if key = typeKey then fieldsOfJson schema entity rest
    else
      match schema.findField? entity key with
      | none => .error (.invalidSchema entity s!"unknown field '{key}'")
      | some (_, field) => do
        match ← datumOfJson schema entity key field.kind json with
        | some datum => return (key, datum) :: (← fieldsOfJson schema entity rest)
        | none => fieldsOfJson schema entity rest

/-- Reads what a field of a kind holds; an embedded value that is null is left out. -/
def datumOfJson (schema : Schema) (entity key : String) :
    FieldKind → Json → Except Fault (Option Datum)
  | .scalar type, json => do
    return some (.value (← Value.convertNative type (← Value.ofJson json)))
  | .embedded _, .null => .ok none
  | .embedded type, json => return some (.embedded (← ofJson schema type json))
  | .relation _ .one, .null => .ok (some (.one none))
  | .relation target .one, json => return some (.one (some (← ofJson schema target json)))
  | .relation _ .many, .null => .ok (some (.many []))
  | .relation target .many, .array items => return some (.many (← listOfJson schema target items))
  | .relation _ .many, other =>
    .error (.invalidSchema entity s!"relation '{key}' expects an array, got {other.compact}")

def listOfJson (schema : Schema) (entity : String) : List Json → Except Fault (List Record)
  | [] => .ok []
  | json :: rest => return (← ofJson schema entity json) :: (← listOfJson schema entity rest)

end

end Record

end RecordQuery
