import RecordQuery.Proofs.Record.Typing
import RecordQuery.Store.Basic

/-! # Loaded stores

A store that has been filled by loading documents holds typed records only, also where loading has
stopped at a fault. -/

namespace RecordQuery.Store

open Fallible

/-- All records of a store are typed. -/
def Typed (store : Store) : Prop := ∀ record ∈ store.records, record.Typed store.schema

/-- A store over a schema that has been filled by loading documents. -/
inductive Loaded (schema : Schema) : Store → Prop where
  | empty : Loaded schema { schema }
  | load {store : Store} (before : Loaded schema store) (entity : String) (json : Json) :
      Loaded schema (store.load entity json).1

variable {store : Store}

/-- Inserting a record leaves the schema as it is. -/
theorem schema_of_insert {record : Record} {larger : Store}
    (inserted : store.insert record = .ok larger) : larger.schema = store.schema := by
  obtain ⟨_, _, inserted⟩ := bind_eq_ok_iff.mp inserted
  cases inserted
  rfl

/-- Inserting a typed record keeps a store typed. -/
theorem Typed.insert (typed : store.Typed) {record : Record} (typedToo : record.Typed store.schema)
    {larger : Store} (inserted : store.insert record = .ok larger) : larger.Typed := by
  obtain ⟨_, _, inserted⟩ := bind_eq_ok_iff.mp inserted
  cases inserted
  intro other member
  rcases List.mem_append.mp member with earlier | last
  · exact typed other earlier
  · cases List.mem_singleton.mp last
    exact typedToo

/-- Loading documents into a typed store leaves it typed, and its schema as it is. -/
theorem loadItems_typed (typed : store.Typed) (entity : String) (items : List Json) :
    (store.loadItems entity items).1.schema = store.schema ∧
      (store.loadItems entity items).1.Typed := by
  induction items generalizing store with
  | nil => exact ⟨rfl, typed⟩
  | cons json rest ih =>
    rw [loadItems]
    split
    · rename_i larger added
      obtain ⟨record, read, inserted⟩ := bind_eq_ok_iff.mp added
      obtain ⟨same, kept⟩ := ih (typed.insert (Record.typed_of_ofJson read).2 inserted)
      exact ⟨same.trans (schema_of_insert inserted), kept⟩
    · exact ⟨rfl, typed⟩

/-- A loaded store is typed, with the schema that it began with. -/
theorem Loaded.typed {schema : Schema} (loaded : Loaded schema store) :
    store.schema = schema ∧ store.Typed := by
  induction loaded with
  | empty => exact ⟨rfl, fun record member => by cases member⟩
  | load _ entity json ih =>
    obtain ⟨same, kept⟩ := loadItems_typed ih.2 entity (itemsOf json)
    exact ⟨same.trans ih.1, kept⟩

end RecordQuery.Store
