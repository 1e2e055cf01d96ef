import RecordQuery.Json.Shape

/-! # Configuration

Limits of discovery, filters and pages, and what happens when the name of an operator is taken. -/

namespace RecordQuery

/-- What happens when an operator is registered under a name that is taken. -/
inductive CollisionPolicy where
  /-- The new operator replaces the old one. -/
  | override
  /-- The new operator is refused. -/
  | reject
deriving DecidableEq, Repr

structure Config where
  /-- How many relations and embedded values a searchable path may cross. -/
  maxDiscoveryDepth : Nat := 4
  /-- How deep a filter may nest. -/
  maxExpressionDepth : Nat := 64
  defaultPageSize : Nat := 20
  maxPageSize : Nat := 1000
  collisionPolicy : CollisionPolicy := .override
deriving DecidableEq, Repr

namespace CollisionPolicy

def ofJson? (json : Json) : Option CollisionPolicy :=
  match json.plainAlternative? with
  | some "override" => some override
  | some "reject" => some reject
  | _ => none

def toJson : CollisionPolicy → Json
  | override => .string "override"
  | reject => .string "reject"

end CollisionPolicy

namespace Config

/-- Sets both page sizes. The greatest size is at least one, and the default lies between one and
it. -/
def withPageSizes (config : Config) (defaultSize maxSize : Nat) : Config :=
  let maxSize := max maxSize 1
  { config with maxPageSize := maxSize, defaultPageSize := min (max defaultSize 1) maxSize }

/-- Reads a configuration; what is missing keeps its default. -/
def ofJson? (json : Json) : Option Config := do
  match ← json.fields? ["maxDiscoveryDepth", "maxExpressionDepth", "defaultPageSize",
    "maxPageSize", "collisionPolicy"] with
  | [discovery, expression, defaultSize, maxSize, policy] =>
    let standard : Config := {}
    return {
      maxDiscoveryDepth := ← Json.defaulted? standard.maxDiscoveryDepth Json.size? discovery
      maxExpressionDepth := ← Json.defaulted? standard.maxExpressionDepth Json.size? expression
      defaultPageSize := ← Json.defaulted? standard.defaultPageSize Json.size? defaultSize
      maxPageSize := ← Json.defaulted? standard.maxPageSize Json.size? maxSize
      collisionPolicy := ←
        Json.defaulted? standard.collisionPolicy CollisionPolicy.ofJson? policy }
  | _ => none

def toJson (config : Config) : Json :=
  .object [("maxDiscoveryDepth", .integer config.maxDiscoveryDepth),
    ("maxExpressionDepth", .integer config.maxExpressionDepth),
    ("defaultPageSize", .integer config.defaultPageSize),
    ("maxPageSize", .integer config.maxPageSize),
    ("collisionPolicy", config.collisionPolicy.toJson)]

end Config

end RecordQuery
