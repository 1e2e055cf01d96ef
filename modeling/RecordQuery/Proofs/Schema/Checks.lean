import Mathlib.Data.List.Nodup
import RecordQuery.Proofs.Fallible
import RecordQuery.Schema.Validation

/-! # What the checks of a schema find

Each check of a schema passes exactly if what it looks at is in order. Fields are checked one after
the other, each against the names before it, so together they pass exactly if their names differ and
each of them passes alone. -/

namespace RecordQuery.Schema

open Fallible

variable {schema : Schema} {entity : Entity}

/-- The base of an entity passes exactly if it is registered. -/
theorem checkBase_eq_ok_iff : schema.checkBase entity = .ok () ↔
    ∀ base, entity.base = some base → schema.contains base = true := by
  unfold checkBase
  cases entity.base with
  | none => simp
  | some base => cases registered : schema.contains base <;> simp [registered]

/-- The pattern of a field passes exactly if it is a regular expression. -/
theorem checkPattern_eq_ok_iff {field : Field} : checkPattern entity field = .ok () ↔
    ∀ pattern, field.searchable.bind (·.regexPattern) = some pattern →
      (Regex.ofFieldPattern? pattern).isSome = true := by
  unfold checkPattern
  cases field.searchable.bind (·.regexPattern) with
  | none => simp
  | some pattern => cases formed : (Regex.ofFieldPattern? pattern).isSome <;> simp [formed]

/-- The target of a field passes exactly if it is registered. -/
theorem checkTarget_eq_ok_iff {field : Field} : schema.checkTarget entity field = .ok () ↔
    ∀ target, field.kind.target? = some target → schema.contains target = true := by
  unfold checkTarget
  cases field.kind.target? with
  | none => simp
  | some target => cases registered : schema.contains target <;> simp [registered]

/-- Fields after others pass if their names are new and differ, and if each passes alone. -/
theorem checkFields_eq_ok_iff {seen : List String} {fields : List Field} :
    schema.checkFields entity seen fields = .ok () ↔
      (fields.map (·.name)).Nodup ∧ (∀ field ∈ fields, field.name ∉ seen) ∧
        ∀ field ∈ fields, checkPattern entity field = .ok () ∧
          schema.checkTarget entity field = .ok () := by
  induction fields generalizing seen with
  | nil => simp [checkFields]
  | cons field rest ih =>
    rw [checkFields]
    by_cases known : seen.contains field.name = true
    · have listed : field.name ∈ seen := by simpa using known
      rw [if_pos known]
      simp [listed]
    · have fresh : field.name ∉ seen := by simpa using known
      rw [if_neg known, bind_unit_eq_ok_iff, bind_unit_eq_ok_iff, ih, List.map_cons,
        List.nodup_cons, List.forall_mem_cons, List.forall_mem_cons]
      constructor
      · rintro ⟨pattern, target, nodup, apart, each⟩
        refine ⟨⟨fun member => ?_, nodup⟩, ⟨fresh, fun other later seenBefore => ?_⟩,
          ⟨pattern, target⟩, each⟩
        · obtain ⟨twin, later, same⟩ := List.mem_map.mp member
          exact apart twin later (same ▸ List.mem_cons_self)
        · exact apart other later (List.mem_cons_of_mem _ seenBefore)
      · rintro ⟨⟨differs, nodup⟩, ⟨_, apart⟩, ⟨pattern, target⟩, each⟩
        refine ⟨pattern, target, nodup, fun other later seenBefore => ?_, each⟩
        rcases List.mem_cons.mp seenBefore with same | before
        · exact differs (List.mem_map.mpr ⟨other, later, same⟩)
        · exact apart other later before

/-- An entity passes exactly if its base and its fields do and no circle is found. -/
theorem checkEntity_eq_ok_iff : schema.checkEntity entity = .ok () ↔
    schema.checkBase entity = .ok () ∧ schema.checkFields entity [] entity.fields = .ok () ∧
      schema.isCyclic entity.name = false := by
  unfold checkEntity
  rw [bind_unit_eq_ok_iff, bind_unit_eq_ok_iff]
  cases schema.isCyclic entity.name <;> simp

/-- A schema passes exactly if each of its entities does. -/
theorem validate_eq_ok_iff_forall :
    schema.validate = .ok () ↔ ∀ entity ∈ schema.entities, schema.checkEntity entity = .ok () := by
  unfold validate
  generalize schema.entities = entities
  induction entities with
  | nil => simp
  | cons entity rest ih =>
    rw [List.forM_eq_forM] at ih ⊢
    rw [List.forM_cons, bind_unit_eq_ok_iff, ih, List.forall_mem_cons]

/-! ## Refusals -/

/-- The fault does not say what is wrong with a type of a schema. -/
@[simp]
def IsUnrelated : Fault → Prop
  | .invalidSchema _ _ => False
  | _ => True

/-- A refused base is a fault of the schema. -/
theorem avoids_checkBase : Avoids IsUnrelated (schema.checkBase entity) := by
  unfold checkBase
  split
  · simp
  · split <;> simp

theorem avoids_checkPattern (field : Field) : Avoids IsUnrelated (checkPattern entity field) := by
  unfold checkPattern
  split
  · simp
  · split <;> simp

theorem avoids_checkTarget (field : Field) :
    Avoids IsUnrelated (schema.checkTarget entity field) := by
  unfold checkTarget
  split
  · simp
  · split <;> simp

theorem avoids_checkFields (seen : List String) (fields : List Field) :
    Avoids IsUnrelated (schema.checkFields entity seen fields) := by
  induction fields generalizing seen with
  | nil => exact avoids_ok ()
  | cons field rest ih =>
    rw [checkFields]
    split
    · simp
    · exact (avoids_checkPattern field).bind fun _ => (avoids_checkTarget field).bind fun _ => ih _

theorem avoids_checkEntity (entity : Entity) :
    Avoids IsUnrelated (schema.checkEntity entity) := by
  refine avoids_checkBase.bind fun _ => (avoids_checkFields [] entity.fields).bind fun _ => ?_
  split <;> simp

/-- A schema that is not accepted is refused for one of its types. -/
theorem exists_invalid_of_refused (refused : schema.validate ≠ .ok ()) :
    ∃ type reason, schema.validate = .error (.invalidSchema type reason) := by
  have avoids : Avoids IsUnrelated schema.validate := by
    unfold validate
    generalize schema.entities = entities
    induction entities with
    | nil => exact avoids_ok ()
    | cons entity rest ih =>
      rw [List.forM_eq_forM] at ih ⊢
      rw [List.forM_cons]
      exact (avoids_checkEntity entity).bind fun _ => ih
  cases judged : schema.validate with
  | ok => exact absurd judged refused
  | error fault =>
    cases fault with
    | invalidSchema type reason => exact ⟨type, reason, rfl⟩
    | _ => exact absurd trivial (avoids _ judged)

end RecordQuery.Schema
