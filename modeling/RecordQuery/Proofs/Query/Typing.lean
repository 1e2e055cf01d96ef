import RecordQuery.Proofs.Query.Assignment
import RecordQuery.Proofs.Record.Typing

/-! # Types of sources

A source that follows declared fields has a type: from a typed record of the entity it leads to
typed records of its type. An attribute that is declared there as a scalar field has a value of the
type of the field, or none. -/

namespace RecordQuery

variable {schema : Schema} {entity : String} {root : Record}

/-- From records of an entity a source leads to records of a type, or of a type below it. -/
inductive Source.HasType (schema : Schema) (entity : String) : Source → String → Prop where
  | root : HasType schema entity (.root entity) entity
  | narrow {source : Source} {current sub : String} (typed : HasType schema entity source current) :
      HasType schema entity (.narrow source sub) sub
  | embedded {source : Source} {current owner type : String} {field : Field}
      (typed : HasType schema entity source current)
      (above : schema.isAssignable owner current = true) (declares : schema.Declares owner field)
      (kind : field.kind = .embedded type) :
      HasType schema entity (.embedded source field.name) type
  | join {source : Source} {current owner target : String} {field : Field}
      {cardinality : Cardinality} {joinKind : JoinKind}
      (typed : HasType schema entity source current)
      (above : schema.isAssignable owner current = true) (declares : schema.Declares owner field)
      (kind : field.kind = .relation target cardinality) :
      HasType schema entity (.join source field.name joinKind) target

/-- A relation of a typed record leads to typed records of its target. -/
theorem Record.Typed.target (valid : schema.Valid) (once : schema.DeclaresOnce) {record : Record}
    (typed : record.Typed schema) {owner : String} {field : Field}
    (assignable : schema.isAssignable owner record.entity = true)
    (declares : schema.Declares owner field) {type : String} {cardinality : Cardinality}
    (kind : field.kind = .relation type cardinality) {target : Record}
    (step : record.LeadsTo field.name target) :
    schema.isAssignable type target.entity = true ∧ target.Typed schema := by
  cases step with
  | one held =>
    have datum := typed.datum valid once assignable declares held
    rw [kind] at datum
    cases datum with
    | one assignable typed => exact ⟨assignable, typed⟩
  | many held member =>
    have datum := typed.datum valid once assignable declares held
    rw [kind] at datum
    cases datum with
    | many assignable typed => exact ⟨assignable _ member, typed _ member⟩

/-- From a typed record of the entity a typed source leads to typed records of its type. -/
theorem Source.typed_of_reaches (valid : schema.Valid) (once : schema.DeclaresOnce)
    (rootAssignable : schema.isAssignable entity root.entity = true)
    (rootTyped : root.Typed schema) {source : Source} {type : String}
    (sourceType : source.HasType schema entity type) {record : Record}
    (reached : source.Reaches schema root record) :
    schema.isAssignable type record.entity = true ∧ record.Typed schema := by
  induction sourceType generalizing record with
  | root =>
    cases reached
    exact ⟨rootAssignable, rootTyped⟩
  | narrow _ ih =>
    cases reached with
    | narrow before subtype => exact ⟨subtype, (ih before).2⟩
  | embedded _ above declares kind ih =>
    cases reached with
    | embedded before held =>
      obtain ⟨assignable, typed⟩ := ih before
      have datum := typed.datum valid once (Schema.isAssignable_trans valid above assignable)
        declares held
      rw [kind] at datum
      cases datum with
      | embedded assignable typed => exact ⟨assignable, typed⟩
  | join _ above declares kind ih =>
    cases reached with
    | join before step =>
      obtain ⟨assignable, typed⟩ := ih before
      exact typed.target valid once (Schema.isAssignable_trans valid above assignable) declares
        kind step

/-- Under every assignment that respects its joins the expression has a value of the type, or
none. -/
def Expr.HasType (schema : Schema) (root : Record) (expr : Expr) (type : ValueType) : Prop :=
  ∀ assignment : Assignment, (∀ j ∈ expr.joins, assignment.Respects schema root j) →
    ∃ value, expr.value schema root assignment = .ok value ∧ value.HasType type

/-- An attribute that a source of a fitting type has as a scalar field has the type of the field. -/
theorem Expr.hasType_attr (valid : schema.Valid) (once : schema.DeclaresOnce)
    (rootAssignable : schema.isAssignable entity root.entity = true)
    (rootTyped : root.Typed schema) {source : Source} {current owner : String} {field : Field}
    (sourceType : source.HasType schema entity current)
    (above : schema.isAssignable owner current = true) (declares : schema.Declares owner field)
    {type : ValueType} (kind : field.kind = .scalar type) :
    (Expr.attr source field.name).HasType schema root type := by
  intro assignment respects
  cases held : source.datum? schema root assignment field.name with
  | none => exact ⟨.null, by simp [value, held, Datum.toValue?], .null⟩
  | some datum =>
    obtain ⟨record, found, present⟩ := Option.bind_eq_some_iff.mp held
    obtain ⟨assignable, typed⟩ := Source.typed_of_reaches valid once rootAssignable rootTyped
      sourceType (Source.reaches_of_record? respects found)
    have datumTyped := typed.datum valid once (Schema.isAssignable_trans valid above assignable)
      declares present
    rw [kind] at datumTyped
    cases datumTyped with
    | value valueTyped => exact ⟨_, by simp [value, held, Datum.toValue?], valueTyped⟩

end RecordQuery
