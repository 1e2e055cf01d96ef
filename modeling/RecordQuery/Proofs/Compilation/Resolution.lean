import RecordQuery.Proofs.Catalog.Steps
import RecordQuery.Proofs.Compilation.Agreement
import RecordQuery.Searcher

/-! # Every field can be resolved

The walk to the fields of an entity and the resolution of their steps go through the same types. So
each field that is discovered has steps, these end in its attribute, and no request is refused
because a field is out of reach. -/

namespace RecordQuery

open Fallible

namespace Context

variable {context : Context}

/-- A field that starts at the entity is compiled to its attribute, whatever has been compiled
before. -/
theorem exists_expr (valid : context.schema.Valid) {d : Descriptor}
    (starts : d.StartsAt context.schema context.entity) : ∃ source after,
      context.expr d = .ok (.attr source d.name, after) ∧
        after.schema = context.schema ∧ after.metadata = context.metadata := by
  obtain ⟨way, resolved, isWay, _⟩ := starts.exists_along valid
  obtain ⟨source, after, followed, same⟩ := exists_follow isWay "" context.root d.name
  exact ⟨source, after, expr_eq_ok_iff.mpr ⟨_, resolved, followed⟩, same⟩

/-- Where different steps have different texts, a path is compiled to the attribute that the steps
along its field end in. -/
theorem Keeps.exists_field {schema : Schema} {metadata : Metadata} {ways : List Traversal}
    (keeps : context.Keeps schema metadata ways) (apart : Traversal.Unambiguous ways)
    (valid : schema.Valid) (starts : metadata.Starts schema) {path : String} {d : Descriptor}
    (meant : metadata.get? path = some d) (covered : metadata.ways schema [path] ⊆ ways) :
    ∃ way after, context.field path =
        .ok ((.attr ((Source.root metadata.entity).through way) d.name, d), after) ∧
      after.Keeps schema metadata ways ∧ way.IsWay schema ∧
      Traversal.resolve schema metadata.entity d = .ok (way ++ [.attr d.name]) ∧
      Traversal.Along schema metadata.entity d.segments (way ++ [.attr d.name]) := by
  obtain ⟨way, resolved, isWay, along⟩ := (starts meant).exists_along valid
  have listed : way ∈ ways := covered (Metadata.mem_ways_iff.mpr
    ⟨path, List.mem_cons_self, d, meant, _, resolved, List.dropLast_concat⟩)
  obtain ⟨after, made, keepsAfter⟩ := keeps.exists_expr apart resolved isWay listed
  rw [← keeps.sameMetadata] at meant
  exact ⟨way, after, field_eq_ok_iff.mpr ⟨meant, made⟩, keepsAfter, isWay, resolved, along⟩

end Context

/-- The context compiles requests over a schema for some fields. -/
def Context.IsFor (schema : Schema) (metadata : Metadata) (context : Context) : Prop :=
  context.schema = schema ∧ context.metadata = metadata

/-- Where fields start at the entity, the operators that are built in are compiled without a fault
of search. -/
theorem Registry.builtin_agrees_isFor {schema : Schema} {metadata : Metadata}
    (valid : schema.Valid) (starts : metadata.Starts schema) :
    builtin.AgreesOnRequests Eq
      (fun context other => context = other ∧ context.IsFor schema metadata)
      (fun fault _ => ¬ fault.IsOfSearch) where
  toAgrees := by
    refine builtin_agrees (fun related => by rw [related.1]) (fun {path other} same => ?_) id
    subst same
    rintro context _ ⟨rfl, rfl, rfl⟩
    dsimp only
    cases meant : context.metadata.get? path with
    | none =>
      rw [Context.field_of_unknown meant]
      exact .error (by simp)
    | some d =>
      obtain ⟨source, after, made, isFor⟩ := Context.exists_expr valid (starts meant)
      rw [Context.field_eq_ok_iff.mpr ⟨meant, made⟩]
      exact .ok ⟨rfl, rfl, isFor⟩
  quotes operator reason other := by simp
  counts related := by rw [related.1]

namespace Searcher

variable {schema : Schema} {config : Config} {entity : String}

/-- Over a valid schema each field that is discovered for an entity has steps: the steps of its
segments, with a narrowing before exactly those segments that are declared strictly below the type
reached, and no attribute but that of the field at the end. No request fails because a field is out
of reach or its steps do not end in an attribute. -/
theorem exists_steps (validated : schema.validate = .ok ())
    (registered : schema.contains entity = true) (config : Config) :
    ∃ metadata, ({ schema, config } : Searcher).metadata entity = .ok metadata ∧
      (∀ d ∈ metadata.descriptors, ∃ steps, Traversal.resolve schema entity d = .ok steps ∧
        (∃ way, steps = way ++ [.attr d.name] ∧ ∀ name, .attr name ∉ way) ∧
        steps.filter (fun step => !step.isNarrow) = d.segments.map Segment.step ∧
        Traversal.Along schema entity d.segments steps) ∧
      ∀ request fault, ({ schema, config } : Searcher).compile entity request = .error fault →
        ¬ fault.IsOfSearch := by
  have valid := Schema.valid_of_validate validated
  obtain ⟨metadata, discovered⟩ := Metadata.exists_discover registered config.maxDiscoveryDepth
  refine ⟨metadata, discovered, fun d listed => ?_, fun request fault refused => ?_⟩
  · obtain ⟨way, resolved, isWay, along⟩ :=
      (Metadata.startsAt_of_mem_descriptors discovered listed).exists_along valid
    refine ⟨_, resolved, ⟨way, rfl, fun name member => ?_⟩, along.erase, along⟩
    exact (isWay _ member).ne_attr name rfl
  · obtain ⟨rfl, starts⟩ := Metadata.startsAt_of_discover discovered
    have alike := Request.compile_agree (Registry.builtin_agrees_isFor valid starts)
      config.maxExpressionDepth ⟨rfl, rfl, rfl⟩ (Request.Respelled.refl (fun _ => rfl) request)
    rw [compile, Searcher.metadata, discovered, ok_bind] at refused
    rw [refused] at alike
    cases alike with
    | error harmless => exact harmless

end Searcher

namespace Sample

/-- Dogs, which are animals, have an age and an owner. -/
def owners : Schema where
  entities := [
    { name := "Animal"
      fields := [{ name := "name", kind := .scalar .string, searchable := some {} }] },
    { name := "Dog"
      base := some "Animal"
      fields := [
        { name := "age", kind := .scalar .integer, searchable := some {} },
        { name := "owner", kind := .relation "Person" .one, nested := true }] },
    { name := "Person"
      fields := [
        { name := "name", kind := .scalar .string, searchable := some {} },
        { name := "pets", kind := .relation "Animal" .many, nested := true }] }]
  names_nodup := by decide

end Sample

namespace Searcher

open Sample in
/-- The owners of animals are reached where these are dogs. -/
theorem exists_steps_owners :
    (owners.validate = .ok () ∧ owners.contains "Animal" = true) ∧
    ∃ metadata, ({ schema := owners, config := {} } : Searcher).metadata "Animal" = .ok metadata ∧
      (∀ d ∈ metadata.descriptors, ∃ steps, Traversal.resolve owners "Animal" d = .ok steps ∧
        (∃ way, steps = way ++ [.attr d.name] ∧ ∀ name, .attr name ∉ way) ∧
        steps.filter (fun step => !step.isNarrow) = d.segments.map Segment.step ∧
        Traversal.Along owners "Animal" d.segments steps) ∧
      ∀ request fault, ({ schema := owners, config := {} } : Searcher).compile "Animal" request =
        .error fault → ¬ fault.IsOfSearch := by
  have validated : owners.validate = .ok () := by decide +kernel
  exact ⟨⟨validated, rfl⟩, exists_steps validated rfl {}⟩

end Searcher

end RecordQuery
