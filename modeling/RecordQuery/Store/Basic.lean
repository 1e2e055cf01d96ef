import RecordQuery.Record.Json

/-! # Stores

A store holds the records of all entities of a schema in the order in which they came. -/

namespace RecordQuery

structure Store where
  schema : Schema
  records : List Record := []

namespace Store

/-- Adds a record of a registered entity. -/
def insert (store : Store) (record : Record) : Except Fault Store := do
  let _ ← store.schema.entity record.entity
  return { store with records := store.records ++ [record] }

/-- Adds records from JSON one by one. What was added before a fault stays. -/
def loadItems (store : Store) (entity : String) : List Json → Store × Except Fault Unit
  | [] => (store, .ok ())
  | json :: rest =>
    match Record.ofJson store.schema entity json >>= store.insert with
    | .ok larger => loadItems larger entity rest
    | .error fault => (store, .error fault)

/-- The records of a document: the items of an array, or the document itself. -/
def itemsOf : Json → List Json
  | .array items => items
  | single => [single]

/-- Adds the records of a document; the answer is their number. -/
def load (store : Store) (entity : String) (json : Json) : Store × Except Fault Nat :=
  let items := itemsOf json
  let (larger, result) := store.loadItems entity items
  (larger, result.map fun _ => items.length)

end Store

end RecordQuery
