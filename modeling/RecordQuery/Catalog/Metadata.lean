import RecordQuery.Catalog.Descriptor

/-! # Searchable fields

The searchable fields of an entity, found by following its nested fields up to a number of steps. -/

namespace RecordQuery

/-- The searchable fields of an entity, each under its canonical path. -/
structure Metadata where
  entity : String
  fields : List (String × Descriptor)
deriving Repr

namespace Metadata

/-- The descriptor of a field itself, if it is searchable. -/
def ownDescriptor (leading : List Segment) (owner : String) (field : Field) : List Descriptor :=
  match field.searchable with
  | some directives =>
    [{ leading, terminal := ⟨field.name, owner, .attr⟩, kind := field.kind, directives }]
  | none => []

/-- The segment that a nested field adds to a path, with the type that it leads to. -/
def nestedSegment? (owner : String) (field : Field) : Option (Segment × String) :=
  if field.nested then
    match field.kind with
    | .scalar _ => none
    | .embedded type => some (⟨field.name, owner, .embedded type⟩, type)
    | .relation target cardinality =>
      some (⟨field.name, owner, .relation target cardinality⟩, target)
  else none

/-- The searchable fields that are reached from a type by at most a number of segments, each field
before those that are reached through it. -/
def discoverFrom (schema : Schema) : Nat → List Segment → String → List Descriptor
  | 0, leading, type =>
    (schema.visibleFields type).flatMap fun (owner, field) => ownDescriptor leading owner field
  | depth + 1, leading, type =>
    (schema.visibleFields type).flatMap fun (owner, field) =>
      ownDescriptor leading owner field ++
        match nestedSegment? owner field with
        | some (segment, target) => discoverFrom schema depth (leading ++ [segment]) target
        | none => []

/-- Of fields with one path keeps the first. -/
def firstByPath : List (String × Descriptor) → List (String × Descriptor)
  | [] => []
  | field :: rest => field :: (firstByPath rest).filter fun other => other.1 != field.1

/-- Discovers the searchable fields of a registered entity. -/
def discover (schema : Schema) (depth : Nat) (entity : String) : Except Fault Metadata := do
  let _ ← schema.entity entity
  return {
    entity
    fields := firstByPath ((discoverFrom schema depth [] entity).map fun d => (d.path, d)) }

def paths (metadata : Metadata) : List String := metadata.fields.map (·.1)

def descriptors (metadata : Metadata) : List Descriptor := metadata.fields.map (·.2)

/-- The names of a path in one text. -/
def namesKey (names : List String) : String :=
  names.foldl (fun key name => (if key.isEmpty then key else key ++ ".") ++ name) ""

/-- The fields whose paths have the names of a key. -/
def named (metadata : Metadata) (key : String) : List Descriptor :=
  metadata.descriptors.filter fun d => namesKey (d.segments.map (·.name)) == key

/-- The field that a written path means: the one with this canonical path, or else one that accepts
the spelling among those whose paths have the names. -/
def get? (metadata : Metadata) (path : String) : Option Descriptor :=
  ((metadata.fields.find? (·.1 == path)).map (·.2)).or do
    let parts ← PathPart.ofText? path
    let key := namesKey (parts.map fun part => String.ofList part.name)
    (metadata.named key).find? (·.accepts path)

/-- The field that a written path means, which has to be there. -/
def field (metadata : Metadata) (path : String) : Except Fault Descriptor :=
  match metadata.get? path with
  | some descriptor => .ok descriptor
  | none => .error (.unknownField metadata.entity path)

/-- The enumeration of a field whose name is the given one, or ends in it after a point. -/
def findEnum? (metadata : Metadata) (name : String) : Option ValueType :=
  (metadata.descriptors.filterMap fun d => d.valueType?.map ValueType.itemOrSelf).find? fun type =>
    match type.enumName? with
    | some full => full == name || ('.' :: name.toList).isSuffixOf full.toList
    | none => false

end Metadata

end RecordQuery
