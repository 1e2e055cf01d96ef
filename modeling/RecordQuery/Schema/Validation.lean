import RecordQuery.Schema.Inheritance
import RecordQuery.Regex.Reader

/-! # Validation of schemas

A schema is accepted if its references are registered, names of fields are unique within a type,
patterns are well formed and no chain of base types is cyclic. -/

namespace RecordQuery

/-- The expression of a field's pattern, which is meant to match a whole text. -/
def Regex.ofFieldPattern? (pattern : String) : Option Regex :=
  Regex.ofText? ("^(?:" ++ pattern ++ ")$")

namespace Schema

/-- The base type of an entity is registered. -/
def checkBase (schema : Schema) (entity : Entity) : Except Fault Unit :=
  match entity.base with
  | none => .ok ()
  | some base =>
    if schema.contains base then .ok ()
    else .error (.invalidSchema entity.name s!"base type '{base}' is not registered")

/-- The pattern of a field is well formed. -/
def checkPattern (entity : Entity) (field : Field) : Except Fault Unit :=
  match field.searchable.bind (·.regexPattern) with
  | none => .ok ()
  | some pattern =>
    if (Regex.ofFieldPattern? pattern).isSome then .ok ()
    else .error (.invalidSchema entity.name s!"field '{field.name}' has an invalid pattern")

/-- The type that a field leads to is registered. -/
def checkTarget (schema : Schema) (entity : Entity) (field : Field) : Except Fault Unit :=
  match field.kind.target? with
  | none => .ok ()
  | some target =>
    if schema.contains target then .ok ()
    else .error (.invalidSchema entity.name
      s!"field '{field.name}' references unknown type '{target}'")

/-- Checks fields in order after fields with the given names. -/
def checkFields (schema : Schema) (entity : Entity) (seen : List String) :
    List Field → Except Fault Unit
  | [] => .ok ()
  | field :: rest => do
    if seen.contains field.name then
      .error (.invalidSchema entity.name s!"field '{field.name}' is declared twice")
    else
      checkPattern entity field
      schema.checkTarget entity field
      checkFields schema entity (field.name :: seen) rest

/-- Checks an entity; the first problem is reported. -/
def checkEntity (schema : Schema) (entity : Entity) : Except Fault Unit := do
  schema.checkBase entity
  schema.checkFields entity [] entity.fields
  if schema.isCyclic entity.name then
    .error (.invalidSchema entity.name "inheritance chain is cyclic")

/-- Checks the entities in the order of their registration. -/
def validate (schema : Schema) : Except Fault Unit := schema.entities.forM schema.checkEntity

/-- Reads the entities of a schema from JSON text. -/
def entitiesOfText? (text : String) : Option (List Entity) :=
  (Json.ofTextRaw? text).bind (Json.list? (Entity.ofJson? .text))

/-- Reads, registers and checks a schema. -/
def ofText (text : String) : Except Fault Schema :=
  match entitiesOfText? text with
  | none => .error (.invalidSchema "<json>" "the text does not describe a list of entities")
  | some entities => do
    let schema ← empty.registerAll entities
    schema.validate
    return schema

end Schema

end RecordQuery
