import RecordQuery.Proofs.Catalog.Discovery
import RecordQuery.Proofs.Query.Typing
import RecordQuery.Compilation.Context

/-! # Ways to fields

The steps to a discovered field are a way without attributes and the attribute at its end. The
source that the way leads to has a type on which the field is declared. -/

namespace RecordQuery

open Fallible

/-- The source that a step leads to from another one; an attribute stays there. -/
def Step.lead (source : Source) (step : Step) : Source := (step.source? source).getD source

/-- The source that steps lead to from another one. -/
def Source.through (source : Source) (steps : Traversal) : Source := steps.foldl Step.lead source

/-- Going through steps in two pieces goes through the pieces. -/
theorem Source.through_append (source : Source) (steps more : Traversal) :
    source.through (steps ++ more) = (source.through steps).through more :=
  List.foldl_append

theorem Source.through_single (source : Source) (step : Step) :
    source.through [step] = step.lead source := rfl

/-- The step leads along a declared field, or narrows to a type that declares one. -/
inductive Step.Follows (schema : Schema) : Step → Prop where
  | narrow {owner : String} {field : Field} (declares : schema.Declares owner field) :
      Follows schema (.narrow owner)
  | join {owner : String} {field : Field} (declares : schema.Declares owner field) :
      Follows schema (.join field.name)
  | embedded {owner : String} {field : Field} (declares : schema.Declares owner field) :
      Follows schema (.embedded field.name)

/-- Steps between sources read no attribute. -/
theorem Step.Follows.ne_attr {schema : Schema} {step : Step} (follows : step.Follows schema)
    (name : String) : step ≠ .attr name := by
  intro same
  subst same
  cases follows

/-- The steps lead from source to source. -/
def Traversal.IsWay (schema : Schema) (steps : Traversal) : Prop :=
  ∀ step ∈ steps, step.Follows schema

namespace Traversal

variable {schema : Schema} {entity : String}

theorem isWay_nil : IsWay schema [] := fun step none => by cases none

theorem isWay_single {step : Step} (follows : step.Follows schema) : IsWay schema [step] := by
  intro other member
  rwa [List.mem_singleton.mp member]

/-- Two ways one after the other are a way. -/
theorem IsWay.append {steps more : Traversal} (way : IsWay schema steps)
    (further : IsWay schema more) : IsWay schema (steps ++ more) := by
  intro step member
  rcases List.mem_append.mp member with first | later
  · exact way step first
  · exact further step later

/-- A way begins with a step between sources. -/
theorem IsWay.head {step : Step} {rest : Traversal} (way : IsWay schema (step :: rest)) :
    step.Follows schema := way step List.mem_cons_self

/-- Behind the first step, a way goes on as a way. -/
theorem IsWay.tail {step : Step} {rest : Traversal} (way : IsWay schema (step :: rest)) :
    IsWay schema rest := fun other later => way other (List.mem_cons_of_mem _ later)

/-- The beginning of a way is a way. -/
theorem IsWay.of_start {way steps : Traversal} (isWay : IsWay schema way) (start : steps <+: way) :
    IsWay schema steps := fun step member => isWay step (start.subset member)

/-- Narrowing leads to a type on which the field of a related type is declared. -/
theorem exists_narrowing {source : Source} {current owner : String} {field : Field}
    (typed : source.HasType schema entity current) (related : schema.Related owner current)
    (declares : schema.Declares owner field) :
    ∃ narrowing, narrowing? schema current owner = some narrowing ∧ IsWay schema narrowing ∧
      let reached := if narrowing.isEmpty then current else owner
      (source.through narrowing).HasType schema entity reached ∧
        schema.isAssignable owner reached = true := by
  unfold narrowing?
  by_cases above : schema.isAssignable owner current = true
  · rw [if_pos above]
    exact ⟨[], rfl, isWay_nil, typed, above⟩
  · rw [if_neg above, if_pos (related.resolve_left above)]
    refine ⟨[.narrow owner], rfl, isWay_single (.narrow declares), .narrow typed, ?_⟩
    exact schema.isAssignable_self owner

/-- The step of a nested field leads to the type of the field. -/
theorem hasType_of_nestedSegment? {source : Source} {reached owner target : String} {field : Field}
    {segment : Segment} (typed : source.HasType schema entity reached)
    (above : schema.isAssignable owner reached = true) (declares : schema.Declares owner field)
    (nested : Metadata.nestedSegment? owner field = some (segment, target)) :
    segment.declaringType = owner ∧ ∃ step, segmentStep reached segment = (step, target) ∧
      step.Follows schema ∧ (step.lead source).HasType schema entity target := by
  unfold Metadata.nestedSegment? at nested
  split at nested
  · split at nested
    · cases nested
    · rename_i kind
      cases nested
      exact ⟨rfl, _, rfl, .embedded declares, .embedded typed above declares kind⟩
    · rename_i kind
      cases nested
      exact ⟨rfl, _, rfl, .join declares, .join typed above declares kind⟩
  · cases nested

/-- The steps of segments that lead to a field are a way to a source that has the field, and the
attribute there. -/
theorem exists_way {path current last owner : String} {leading : List Segment} {field : Field}
    (leads : Segment.Leads schema current leading last) (related : schema.Related owner last)
    (declares : schema.Declares owner field) {steps : Traversal}
    (resolved : ofSegments schema path current (leading ++ [⟨field.name, owner, .attr⟩]) =
      .ok steps)
    {source : Source} (typed : source.HasType schema entity current) :
    ∃ way reached, steps = way ++ [.attr field.name] ∧ IsWay schema way ∧
      (source.through way).HasType schema entity reached ∧
        schema.isAssignable owner reached = true := by
  induction leads generalizing source steps with
  | here =>
    obtain ⟨narrowing, narrows, way, reachedType, above⟩ := exists_narrowing typed related declares
    simp only [List.nil_append, ofSegments, narrows, segmentStep, ok_bind, pure_eq_ok] at resolved
    cases resolved
    exact ⟨narrowing, _, rfl, way, reachedType, above⟩
  | step relatedHere declaresHere nested _ ih =>
    obtain ⟨narrowing, narrows, way, reachedType, above⟩ :=
      exists_narrowing typed relatedHere declaresHere
    obtain ⟨rfl, step, isStep, follows, stepType⟩ :=
      hasType_of_nestedSegment? reachedType above declaresHere nested
    simp only [List.cons_append, ofSegments, narrows, isStep] at resolved
    obtain ⟨others, further, resolved⟩ := bind_eq_ok_iff.mp resolved
    cases resolved
    obtain ⟨rest, reached, rfl, restWay, restType, restAbove⟩ := ih related further stepType
    refine ⟨narrowing ++ [step] ++ rest, reached, by simp, ?_, ?_, restAbove⟩
    · exact (way.append (isWay_single follows)).append restWay
    · rw [Source.through_append, Source.through_append]
      exact restType

end Traversal

/-- The expression reads a field of the kind of a descriptor from a source of a type on which the
field is declared. -/
def Descriptor.IsReadBy (schema : Schema) (entity : String) (d : Descriptor) (expr : Expr) : Prop :=
  ∃ source reached owner field, expr = .attr source field.name ∧
    source.HasType schema entity reached ∧ schema.isAssignable owner reached = true ∧
      schema.Declares owner field ∧ d.kind = field.kind

/-- The expression that a descriptor's own steps lead to. -/
def Descriptor.ownExpr? (schema : Schema) (entity : String) (d : Descriptor) : Option Expr := do
  let steps ← (Traversal.resolve schema entity d).toOption
  match steps.getLast? with
  | some (.attr name) => some (.attr ((Source.root entity).through steps.dropLast) name)
  | _ => none

/-- The own expression of a field reads its attribute at the end of its way. -/
theorem Descriptor.ownExpr?_of_resolve {schema : Schema} {entity name : String} {d : Descriptor}
    {way : Traversal} (resolved : Traversal.resolve schema entity d = .ok (way ++ [.attr name])) :
    d.ownExpr? schema entity = some (.attr ((Source.root entity).through way) name) := by
  simp [ownExpr?, resolved, Except.toOption]

/-- The steps to a field that starts at an entity are a way and an attribute, which is read from the
source that the way leads to. -/
theorem Descriptor.StartsAt.exists_way {schema : Schema} {entity : String} {d : Descriptor}
    (starts : d.StartsAt schema entity) {steps : Traversal}
    (resolved : Traversal.resolve schema entity d = .ok steps) :
    ∃ way name, steps = way ++ [.attr name] ∧ Traversal.IsWay schema way ∧
      d.IsReadBy schema entity (.attr ((Source.root entity).through way) name) := by
  obtain ⟨last, owner, field, leads, related, declares, terminal, kind⟩ := starts
  rw [Traversal.resolve, segments, terminal] at resolved
  obtain ⟨way, reached, rfl, isWay, typed, above⟩ :=
    Traversal.exists_way leads related declares resolved .root
  exact ⟨way, field.name, rfl, isWay, _, reached, owner, field, rfl, typed, above, declares, kind⟩

/-- The expression that a field's own steps lead to reads a field of its kind. -/
theorem Descriptor.StartsAt.isReadBy {schema : Schema} {entity : String} {d : Descriptor}
    (starts : d.StartsAt schema entity) {expr : Expr}
    (own : d.ownExpr? schema entity = some expr) : d.IsReadBy schema entity expr := by
  cases resolved : Traversal.resolve schema entity d with
  | error fault => simp [ownExpr?, resolved, Except.toOption] at own
  | ok steps =>
    obtain ⟨way, name, rfl, _, reads⟩ := starts.exists_way resolved
    rw [ownExpr?_of_resolve resolved] at own
    cases own
    exact reads

end RecordQuery
