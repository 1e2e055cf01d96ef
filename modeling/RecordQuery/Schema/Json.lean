import RecordQuery.Schema.Type
import RecordQuery.Json.Shape

/-! # Schemas as JSON

Reading and writing types, directives, fields and entities. -/

namespace RecordQuery

namespace ValueType

/-- Reads a type; the bound limits how deep lists nest. -/
def decode? (form : Json.Form) : Nat → Json → Option ValueType
  | 0, _ => none
  | depth + 1, json =>
    match json.alternative? with
    | some ("enum", some content) =>
      match content.contentFields? form ["name", "members"] with
      | some [name, members] => do
        return enumeration (← Json.required? Json.text? name)
          (← Json.required? (Json.list? Json.text?) members)
      | _ => none
    | some ("list", some content) => (decode? form depth content).map list
    | _ =>
      match json.plainAlternative? with
      | some "boolean" => some boolean
      | some "integer" => some integer
      | some "float" => some float
      | some "decimal" => some decimal
      | some "string" => some string
      | some "date" => some date
      | some "dateTime" => some dateTime
      | some "time" => some time
      | some "period" => some period
      | _ => none

def ofJson? (form : Json.Form) (json : Json) : Option ValueType :=
  decode? form (json.depth + 1) json

def toJson : ValueType → Json
  | boolean => .string "boolean"
  | integer => .string "integer"
  | float => .string "float"
  | decimal => .string "decimal"
  | string => .string "string"
  | date => .string "date"
  | dateTime => .string "dateTime"
  | time => .string "time"
  | period => .string "period"
  | enumeration name members =>
    .object [("enum", .object [("name", .string name), ("members", .array (members.map .string))])]
  | list item => .object [("list", item.toJson)]

end ValueType

namespace Target

def ofJson? (json : Json) : Option Target :=
  match json.plainAlternative? with
  | some "untyped" => some untyped
  | some "string" => some string
  | some "integer" => some integer
  | some "float" => some float
  | some "decimal" => some decimal
  | some "boolean" => some boolean
  | some "date" => some date
  | some "dateTime" => some dateTime
  | some "time" => some time
  | some "period" => some period
  | some "enum" => some enumeration
  | _ => none

def toJson : Target → Json
  | untyped => .string "untyped"
  | string => .string "string"
  | integer => .string "integer"
  | float => .string "float"
  | decimal => .string "decimal"
  | boolean => .string "boolean"
  | date => .string "date"
  | dateTime => .string "dateTime"
  | time => .string "time"
  | period => .string "period"
  | enumeration => .string "enum"

end Target

namespace Cardinality

def ofJson? (json : Json) : Option Cardinality :=
  match json.plainAlternative? with
  | some "one" => some one
  | some "many" => some many
  | _ => none

def toJson : Cardinality → Json
  | one => .string "one"
  | many => .string "many"

end Cardinality

namespace Directives

/-- Reads directives; what is missing keeps its default. -/
def ofJson? (json : Json) : Option Directives := do
  match ← json.fields? ["targetType", "datePattern", "maxSize", "minSize", "regexPattern",
    "maxDigits", "minDigits", "decimalFormat", "sortable", "trim"] with
  | [target, datePattern, maxSize, minSize, regexPattern, maxDigits, minDigits, decimalFormat,
      sortable, trim] =>
    return {
      target := ← Json.defaulted? .untyped Target.ofJson? target
      datePattern := ← Json.optional? Json.text? datePattern
      maxSize := ← Json.optional? Json.size? maxSize
      minSize := ← Json.optional? Json.size? minSize
      regexPattern := ← Json.optional? Json.text? regexPattern
      maxDigits := ← Json.optional? Json.size? maxDigits
      minDigits := ← Json.optional? Json.size? minDigits
      decimalFormat := ← Json.optional? Json.text? decimalFormat
      sortable := ← Json.defaulted? true Json.truth? sortable
      trim := ← Json.defaulted? false Json.truth? trim }
  | _ => none

def toJson (directives : Directives) : Json :=
  let text (value : Option String) : Json := (value.map Json.string).getD .null
  let size (value : Option Nat) : Json := (value.map fun n => Json.integer n).getD .null
  .object [("targetType", directives.target.toJson), ("datePattern", text directives.datePattern),
    ("maxSize", size directives.maxSize), ("minSize", size directives.minSize),
    ("regexPattern", text directives.regexPattern), ("maxDigits", size directives.maxDigits),
    ("minDigits", size directives.minDigits), ("decimalFormat", text directives.decimalFormat),
    ("sortable", .bool directives.sortable), ("trim", .bool directives.trim)]

end Directives

namespace Field

/-- Reads a field. It has exactly one of the three kinds; a relation is to one record unless it says
otherwise. -/
def ofJson? (form : Json.Form) (json : Json) : Option Field := do
  match ← json.fields? ["name", "type", "embedded", "relation", "cardinality", "searchable",
    "nested"] with
  | [name, type, embedded, relation, cardinality, searchable, nested] =>
    let name ← Json.required? Json.text? name
    let type ← Json.optional? (ValueType.ofJson? form) type
    let embedded ← Json.optional? Json.text? embedded
    let relation ← Json.optional? Json.text? relation
    let cardinality ← Json.optional? Cardinality.ofJson? cardinality
    let searchable ← Json.optional? Directives.ofJson? searchable
    let nested ← Json.defaulted? false Json.truth? nested
    let kind ←
      match type, embedded, relation with
      | some type, none, none => some (FieldKind.scalar type)
      | none, some type, none => some (.embedded type)
      | none, none, some target => some (.relation target (cardinality.getD .one))
      | _, _, _ => none
    return { name, kind, searchable, nested }
  | _ => none

/-- The members that say what a field holds. -/
def kindMembers : FieldKind → List (String × Json)
  | .scalar type => [("type", type.toJson)]
  | .embedded type => [("embedded", .string type)]
  | .relation target cardinality =>
    [("relation", .string target), ("cardinality", cardinality.toJson)]

/-- Writes a field without the members that have their defaults. -/
def toJson (field : Field) : Json :=
  .object (("name", .string field.name) :: (kindMembers field.kind ++
    (field.searchable.map fun directives => ("searchable", directives.toJson)).toList ++
    if field.nested then [("nested", .bool true)] else []))

end Field

namespace Entity

def ofJson? (form : Json.Form) (json : Json) : Option Entity := do
  match ← json.fields? ["name", "extends", "fields"] with
  | [name, base, fields] =>
    return {
      name := ← Json.required? Json.text? name
      base := ← Json.optional? Json.text? base
      fields := ← Json.defaulted? [] (Json.list? (Field.ofJson? form)) fields }
  | _ => none

def toJson (entity : Entity) : Json :=
  .object (("name", .string entity.name) ::
    (entity.base.map fun base => ("extends", Json.string base)).toList ++
      [("fields", .array (entity.fields.map Field.toJson))])

end Entity

end RecordQuery
