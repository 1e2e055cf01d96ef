import Mathlib.Data.List.Dedup
import RecordQuery.Proofs.Compilation.Reuse

/-! # Joins that are counted

A join is made once for a text of steps. If different steps have different texts, there are as many
joins as different steps that end in one. -/

namespace RecordQuery

open Fallible

/-- The source is reached over a join. -/
def Source.isJoin : Source → Bool
  | join _ _ _ => true
  | _ => false

/-- The last step is a join. -/
def Traversal.endsInJoin (steps : Traversal) : Bool := steps.getLast?.any Step.isJoin

/-- The starts of some ways that end in a join, each one once. -/
def Traversal.joinStarts (ways : List Traversal) : List Traversal :=
  ((ways.flatMap List.inits).filter endsInJoin).dedup

/-- A step leads over a join exactly if it is one. -/
theorem Step.Follows.isJoin_lead {schema : Schema} {step : Step} (follows : step.Follows schema)
    (source : Source) : (step.lead source).isJoin = step.isJoin := by
  cases follows <;> rfl

namespace Traversal

variable {ways : List Traversal}

/-- The joins of some ways are the beginnings of them that end in a join. -/
theorem mem_joinStarts_iff {steps : Traversal} :
    steps ∈ joinStarts ways ↔ (∃ way ∈ ways, steps <+: way) ∧ steps.endsInJoin = true := by
  simp [joinStarts, List.mem_flatMap]

/-- The source that a way leads to is a join exactly if the way ends in one. -/
theorem IsWay.isJoin_through {schema : Schema} {entity : String} {way : Traversal}
    (isWay : way.IsWay schema) :
    ((Source.root entity).through way).isJoin = way.endsInJoin := by
  induction way using List.reverseRecOn with
  | nil => rfl
  | append_singleton rest last _ =>
    rw [Source.through_append, Source.through_single, (isWay last (by simp)).isJoin_lead]
    simp [endsInJoin]

end Traversal

namespace Context

variable {context after : Context}

/-- No two sources are under one key, and the joins among them are counted. -/
structure Counts (context : Context) : Prop where
  distinct : (context.sources.map (·.1)).Nodup
  joins : context.joinCount = context.sources.countP (·.2.isJoin)

/-- A context without sources has counted right. -/
theorem counts_initial {schema : Schema} {metadata : Metadata} :
    ({ schema, metadata } : Context).Counts := ⟨List.nodup_nil, rfl⟩

/-- In a context that has counted right, each source is found under its key. -/
theorem Counts.mem_sources_iff (counts : context.Counts) {key : String} {source : Source} :
    (key, source) ∈ context.sources ↔ context.sources.lookup key = some source := by
  constructor
  · intro member
    obtain ⟨before, behind, split⟩ := List.append_of_mem member
    refine List.lookup_eq_some_iff.mpr ⟨before, behind, split, fun entry earlier => ?_⟩
    have distinct := counts.distinct
    rw [split, List.map_append, List.map_cons, List.nodup_middle, List.nodup_cons] at distinct
    refine bne_iff_ne.mpr fun same => distinct.1 (List.mem_append_left _ ?_)
    exact List.mem_map.mpr ⟨entry, earlier, same.symm⟩
  · intro found
    obtain ⟨before, behind, split, _⟩ := List.lookup_eq_some_iff.mp found
    rw [split]
    exact List.mem_append_right _ List.mem_cons_self

/-- Making a source keeps the count right. -/
theorem Counts.enter (counts : context.Counts) (key : String) (made : Source) :
    (context.enter key made.isJoin made).2.Counts := by
  unfold Context.enter
  cases known : context.sources.lookup key with
  | some source => exact counts
  | none =>
    refine ⟨List.nodup_cons.mpr ⟨fun taken => ?_, counts.distinct⟩, ?_⟩
    · obtain ⟨⟨_, source⟩, member, rfl⟩ := List.mem_map.mp taken
      cases known.symm.trans (counts.mem_sources_iff.mp member)
    · simp [counts.joins, List.countP_cons]

/-- Following a way keeps the count right. -/
theorem Counts.follow {schema : Schema} (counts : context.Counts) {way : Traversal}
    (isWay : way.IsWay schema) (key : String) (reached : Source) (name : String) :
    (context.follow key reached (way ++ [.attr name])).2.Counts := by
  induction way generalizing context key reached with
  | nil => exact counts
  | cons step rest ih =>
    rw [List.cons_append, follow_cons isWay.head.ne_attr]
    have entered := counts.enter (key ++ step.text) (step.lead reached)
    rw [isWay.head.isJoin_lead] at entered
    exact ih entered isWay.tail _ _

/-- Compiling a path keeps the count right. -/
theorem Counts.field (counts : context.Counts) (starts : context.metadata.Starts context.schema)
    {path : String} {made : Expr × Descriptor} (compiled : context.field path = .ok (made, after)) :
    after.Counts ∧ after.schema = context.schema ∧ after.metadata = context.metadata := by
  obtain ⟨meant, reached⟩ := field_eq_ok_iff.mp compiled
  obtain ⟨steps, resolved, followed⟩ := expr_eq_ok_iff.mp reached
  obtain ⟨way, name, rfl, isWay, _⟩ := (starts meant).exists_way resolved
  have counted := counts.follow isWay "" context.root name
  obtain ⟨source, last, followedToo, same⟩ := exists_follow isWay "" context.root name
  obtain rfl : after = last := congrArg Prod.snd (followed.symm.trans followedToo)
  rw [followed] at counted
  exact ⟨counted, same⟩

/-- Compiling several paths keeps the count right. -/
theorem Counts.fields (counts : context.Counts) (starts : context.metadata.Starts context.schema)
    {paths : List String} {found : List (Expr × Descriptor)}
    (compiled : context.fields paths = .ok (found, after)) : after.Counts := by
  induction paths generalizing context found with
  | nil =>
    cases compiled
    exact counts
  | cons path rest ih =>
    obtain ⟨first, middle, others, head, tail, rfl⟩ := fields_cons compiled
    obtain ⟨counted, sameSchema, sameFields⟩ := counts.field starts head
    refine ih counted ?_ tail
    rwa [sameSchema, sameFields]

variable {schema : Schema} {metadata : Metadata} {ways : List Traversal}

/-- If the sources are those that some ways lead through, and each stands under the text of its own
steps, there are as many joins as different starts of the ways that end in one. -/
theorem Counts.joinCount_eq (counts : context.Counts) (layered : context.Layered)
    (keeps : context.Keeps schema metadata ways) (areWays : ∀ way ∈ ways, way.IsWay schema)
    (reached : ∀ way ∈ ways, context.source? way.text = some (context.root.through way)) :
    context.joinCount = (Traversal.joinStarts ways).length := by
  have isWay_of_start {steps : Traversal} (member : ∃ way ∈ ways, steps <+: way) :
      steps.IsWay schema := by
    obtain ⟨way, listed, start⟩ := member
    exact (areWays way listed).of_start start
  -- The joins among the sources, with their keys, are those at the different starts.
  have same : (context.sources.filter (·.2.isJoin)).Perm ((Traversal.joinStarts ways).map
      fun steps => (steps.text, (Source.root metadata.entity).through steps)) := by
    refine (List.perm_ext_iff_of_nodup ?_ ?_).mpr fun ⟨key, source⟩ => ?_
    · exact (counts.distinct.of_map _).filter _
    · refine (List.nodup_dedup _).map_on fun steps member others memberToo same => ?_
      exact Source.through_injective (isWay_of_start (Traversal.mem_joinStarts_iff.mp member).1)
        (isWay_of_start (Traversal.mem_joinStarts_iff.mp memberToo).1) (congrArg Prod.snd same)
    · rw [List.mem_filter, counts.mem_sources_iff, List.mem_map]
      constructor
      · rintro ⟨found, isJoin⟩
        obtain ⟨way, listed, steps, start, rfl, rfl⟩ := keeps.sources found
        rw [(isWay_of_start ⟨way, listed, start⟩).isJoin_through] at isJoin
        exact ⟨steps, Traversal.mem_joinStarts_iff.mpr ⟨⟨way, listed, start⟩, isJoin⟩, rfl⟩
      · rintro ⟨steps, member, same⟩
        cases same
        obtain ⟨⟨way, listed, start⟩, ends⟩ := Traversal.mem_joinStarts_iff.mp member
        have isWay := areWays way listed
        refine ⟨?_, ((isWay.of_start start).isJoin_through).trans ends⟩
        have holds := layered.prefixes isWay (reached way listed) start
        rw [root, entity, keeps.sameMetadata] at holds
        cases steps with
        | nil => cases ends
        | cons step rest => rwa [source?, if_neg (Traversal.text_cons_ne_empty step rest)] at holds
  rw [counts.joins, List.countP_eq_length_filter, same.length_eq, List.length_map]

/-- After fields whose ways have different texts have been compiled, there are as many joins as
different starts of the ways that end in one. -/
theorem joinCount_of_fields (starts : metadata.Starts schema) {paths : List String}
    (apart : Traversal.Unambiguous (metadata.ways schema paths)) {found : List (Expr × Descriptor)}
    (compiled : ({ schema, metadata } : Context).fields paths = .ok (found, after)) :
    after.joinCount = (Traversal.joinStarts (metadata.ways schema paths)).length := by
  obtain ⟨own, keeps⟩ := keeps_initial.fields apart starts (List.Subset.refl _) compiled
  obtain ⟨layered, _, reached⟩ := layered_initial.fields starts compiled
  exact (counts_initial.fields starts compiled).joinCount_eq layered keeps
    (fun _ member => Metadata.isWay_of_mem_ways starts member) (reached own)

end Context

end RecordQuery
