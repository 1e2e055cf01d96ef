import RecordQuery.Catalog.Metadata

/-! # The catalog

A catalog remembers the searchable fields of the entities that it has been asked for. -/

namespace RecordQuery

structure Catalog where
  schema : Schema
  maxDepth : Nat
  /-- What has been discovered, the latest first. -/
  known : List Metadata := []

namespace Catalog

/-- The searchable fields of an entity, and the catalog that knows them. -/
def discover (catalog : Catalog) (entity : String) : Except Fault (Metadata × Catalog) :=
  match catalog.known.find? (·.entity == entity) with
  | some metadata => .ok (metadata, catalog)
  | none => do
    let metadata ← Metadata.discover catalog.schema catalog.maxDepth entity
    return (metadata, { catalog with known := metadata :: catalog.known })

end Catalog

end RecordQuery
