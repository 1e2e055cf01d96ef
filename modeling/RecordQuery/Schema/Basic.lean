import RecordQuery.Fault
import RecordQuery.Schema.Json
import RecordQuery.Json.Reader

/-! # Schemas

A schema is the list of its entities in the order of their registration. No two have one name. -/

namespace RecordQuery

structure Schema where
  entities : List Entity
  names_nodup : (entities.map (·.name)).Nodup

namespace Schema

def empty : Schema := ⟨[], by simp⟩

def names (schema : Schema) : List String := schema.entities.map (·.name)

/-- The entity with a name. -/
def get? (schema : Schema) (name : String) : Option Entity :=
  schema.entities.find? (·.name == name)

def contains (schema : Schema) (name : String) : Bool := (schema.get? name).isSome

theorem name_notMem_of_get?_eq_none {schema : Schema} {name : String}
    (absent : schema.get? name = none) : name ∉ schema.entities.map (·.name) := by
  intro member
  obtain ⟨entity, registered, rfl⟩ := List.mem_map.mp member
  exact (List.find?_eq_none.mp absent entity registered) (by simp)

/-- Adds an entity whose name is not taken. -/
def register (schema : Schema) (entity : Entity) : Except Fault Schema :=
  match absent : schema.get? entity.name with
  | some _ => .error (.invalidSchema entity.name "entity is already registered")
  | none => .ok
    { entities := schema.entities ++ [entity]
      names_nodup := by
        simp only [List.map_append, List.map_cons, List.map_nil]
        refine List.nodup_append.mpr ⟨schema.names_nodup, by simp, ?_⟩
        intro name member other single same
        rw [List.mem_singleton] at single
        subst single same
        exact name_notMem_of_get?_eq_none absent member }

/-- Adds entities in order. -/
def registerAll (schema : Schema) (entities : List Entity) : Except Fault Schema :=
  entities.foldlM register schema

/-- The entity with a name, which has to be registered. -/
def entity (schema : Schema) (name : String) : Except Fault Entity :=
  match schema.get? name with
  | some entity => .ok entity
  | none => .error (.unknownEntity name)

/-- The base type of an entity. -/
def base? (schema : Schema) (name : String) : Option String :=
  (schema.get? name).bind (·.base)

end Schema

end RecordQuery
