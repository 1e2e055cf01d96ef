import RecordQuery.Proofs.Compilation.Sources

/-! # Sources that are made for other steps

A source is made once for a text and stays. If each field is compiled to its own expression, the
sources under the texts of its steps are the ones that these steps lead to, so that different steps
have different texts: the condition under which no source is taken for another one is exact. -/

namespace RecordQuery

open Fallible

/-! ## Steps back from sources -/

/-- Two steps that lead to one source are the same step from the same source. -/
theorem Step.Follows.lead_inj {schema : Schema} {step other : Step} {source parent : Source}
    (follows : step.Follows schema) (noAttr : ∀ name, other ≠ .attr name)
    (same : step.lead source = other.lead parent) : step = other ∧ source = parent := by
  cases other with
  | attr name => exact absurd rfl (noAttr name)
  | _ => cases follows <;> simp_all [lead, source?]

/-- No step leads back to a root. -/
theorem Step.Follows.lead_ne_root {schema : Schema} {step : Step} {source : Source}
    (follows : step.Follows schema) (entity : String) : step.lead source ≠ .root entity := by
  cases follows <;> simp [lead, source?]

/-- A source has one way to it. -/
theorem Source.through_injective {schema : Schema} {entity : String} {way other : Traversal}
    (isWay : way.IsWay schema) (isWayToo : other.IsWay schema)
    (same : (root entity).through way = (root entity).through other) : way = other := by
  induction way using List.reverseRecOn generalizing other with
  | nil =>
    cases other using List.reverseRecOn with
    | nil => rfl
    | append_singleton before last =>
      rw [through_append] at same
      exact absurd same.symm ((isWayToo last (by simp)).lead_ne_root entity)
  | append_singleton steps step ih =>
    have follows := isWay step (by simp)
    cases other using List.reverseRecOn with
    | nil =>
      rw [through_append] at same
      exact absurd same (follows.lead_ne_root entity)
    | append_singleton before last =>
      rw [through_append, through_append] at same
      obtain ⟨sameStep, sameSource⟩ := follows.lead_inj (isWayToo last (by simp)).ne_attr same
      rw [sameStep, ih (isWay.of_start (List.prefix_append _ _))
        (isWayToo.of_start (List.prefix_append _ _)) sameSource]

namespace Context

variable {context middle after : Context}

/-! ## Sources that stay -/

/-- The source that a key stands for; the root is reached by no steps. -/
def source? (context : Context) (key : String) : Option Source :=
  if key = "" then some context.root else context.sources.lookup key

/-- Under a text that ends with a step, only a source that has been made is found. -/
theorem source?_step {key : String} (step : Step) :
    context.source? (key ++ step.text) = context.sources.lookup (key ++ step.text) :=
  if_neg fun empty => step.text_ne_empty (String.append_eq_empty_iff.mp empty).2

/-- Each source that has been made was led to by a step with the end of its key from the source that
the rest of the key stands for. -/
def Layered (context : Context) : Prop :=
  ∀ {key : String} {source : Source}, context.sources.lookup key = some source →
    ∃ (before : String) (step : Step) (parent : Source), key = before ++ step.text ∧
      (∀ name, step ≠ .attr name) ∧ source = step.lead parent ∧
        context.source? before = some parent

/-- What has been made stays. -/
structure Grows (before after : Context) : Prop where
  sameSchema : after.schema = before.schema
  sameMetadata : after.metadata = before.metadata
  retains {key : String} {source : Source} (found : before.source? key = some source) :
    after.source? key = some source

theorem Grows.refl (context : Context) : context.Grows context := ⟨rfl, rfl, id⟩

theorem Grows.trans (first : context.Grows middle) (second : middle.Grows after) :
    context.Grows after where
  sameSchema := second.sameSchema.trans first.sameSchema
  sameMetadata := second.sameMetadata.trans first.sameMetadata
  retains found := second.retains (first.retains found)

theorem layered_initial {schema : Schema} {metadata : Metadata} :
    ({ schema, metadata } : Context).Layered := by
  intro key source found
  cases found

/-- A new source under a key that is not taken leaves all others as they are. -/
theorem grows_of_lookup_eq_none {key : String} (free : context.sources.lookup key = none)
    (made : Source) (joinCount : Nat) :
    context.Grows { context with sources := (key, made) :: context.sources, joinCount } where
  sameSchema := rfl
  sameMetadata := rfl
  retains {other source} found := by
    unfold source? at found ⊢
    split at found
    · rename_i empty
      rwa [if_pos empty]
    · rename_i nonempty
      have differs : (other == key) = false := by
        rw [beq_eq_false_iff_ne]
        rintro rfl
        cases free.symm.trans found
      rwa [if_neg nonempty, List.lookup_cons, differs]

/-- Entering a step finds or makes the source under its key. -/
theorem Layered.enter (layered : context.Layered) {key : String} {reached : Source} {step : Step}
    (follows : ∀ name, step ≠ .attr name) (holds : context.source? key = some reached)
    (isJoin : Bool) :
    ∃ source after, context.enter (key ++ step.text) isJoin (step.lead reached) = (source, after) ∧
      after.source? (key ++ step.text) = some source ∧ after.Layered ∧ context.Grows after := by
  unfold Context.enter
  cases known : context.sources.lookup (key ++ step.text) with
  | some source => exact ⟨source, context, rfl, (source?_step step).trans known, layered, .refl _⟩
  | none =>
    have grows := grows_of_lookup_eq_none known (step.lead reached)
      (context.joinCount + if isJoin then 1 else 0)
    refine ⟨_, _, rfl, (source?_step step).trans List.lookup_cons_self, ?_, grows⟩
    intro other source found
    rw [List.lookup_cons] at found
    split at found
    · rename_i isKey
      cases found
      exact ⟨key, step, reached, beq_iff_eq.mp isKey, follows, rfl, grows.retains holds⟩
    · obtain ⟨before, last, parent, isKey, noAttr, made, above⟩ := layered found
      exact ⟨before, last, parent, isKey, noAttr, made, grows.retains above⟩

/-- Following a way and an attribute ends at the attribute of the source that the text of the way
stands for afterwards. -/
theorem Layered.follow {schema : Schema} (layered : context.Layered) {key : String}
    {reached : Source} {way : Traversal} (isWay : way.IsWay schema)
    (holds : context.source? key = some reached) (name : String) :
    ∃ last after,
      context.follow key reached (way ++ [.attr name]) = (some (.attr last name), after) ∧
        after.source? (key ++ way.text) = some last ∧ after.Layered ∧ context.Grows after := by
  induction way generalizing context key reached with
  | nil => exact ⟨reached, context, rfl, by simpa [Traversal.text] using holds, layered, .refl _⟩
  | cons step rest ih =>
    have follows := isWay.head.ne_attr
    obtain ⟨source, middle, entered, found, layeredMiddle, grows⟩ :=
      layered.enter follows holds step.isJoin
    obtain ⟨last, after, followed, reachedLast, layeredAfter, growsMore⟩ :=
      ih layeredMiddle isWay.tail found
    refine ⟨last, after, ?_, ?_, layeredAfter, grows.trans growsMore⟩
    · rw [List.cons_append, follow_cons follows]
      simp only [entered]
      exact followed
    · rw [Traversal.text_cons, ← String.append_assoc]
      exact reachedLast

/-! ## Steps back -/

/-- If a key stands for the source that a step leads to, the rest of the key stands for the source
that it leads from. -/
theorem Layered.parent {schema : Schema} (layered : context.Layered) {key : String} {step : Step}
    {source : Source} (follows : step.Follows schema)
    (holds : context.source? (key ++ step.text) = some (step.lead source)) :
    context.source? key = some source := by
  rw [source?_step] at holds
  obtain ⟨before, last, parent, isKey, noAttr, made, above⟩ := layered holds
  obtain ⟨rfl, rfl⟩ := follows.lead_inj noAttr made
  have sameKey : key = before := String.append_left_inj _ |>.mp isKey
  rwa [sameKey]

/-- If the text of a way stands for the source that the way leads to, this is so at its start. -/
theorem Layered.prefixes {schema : Schema} (layered : context.Layered) {way steps : Traversal}
    (isWay : way.IsWay schema)
    (holds : context.source? way.text = some (context.root.through way)) (start : steps <+: way) :
    context.source? steps.text = some (context.root.through steps) := by
  induction way using List.reverseRecOn with
  | nil =>
    rw [List.prefix_nil.mp start]
    rfl
  | append_singleton rest last ih =>
    rcases List.prefix_concat_iff.mp start with rfl | shorter
    · exact holds
    · rw [Traversal.text_append, Traversal.text_single, Source.through_append] at holds
      have before := layered.parent (isWay last (by simp)) holds
      exact ih (isWay.of_start (List.prefix_append _ _)) before shorter

/-! ## The fields of a request -/

variable {schema : Schema} {metadata : Metadata}

/-- After a field has been compiled to its own expression, the text of its way stands for the source
that the way leads to. -/
theorem Layered.expr (layered : context.Layered)
    (starts : context.metadata.Starts context.schema) {path : String} {d : Descriptor}
    (meant : context.metadata.get? path = some d) {expr : Expr}
    (compiled : context.expr d = .ok (expr, after)) :
    after.Layered ∧ context.Grows after ∧
      (d.ownExpr? context.schema context.entity = some expr →
        ∀ way ∈ context.metadata.ways context.schema [path],
          after.source? way.text = some (after.root.through way)) := by
  obtain ⟨steps, resolved, reached⟩ := expr_eq_ok_iff.mp compiled
  obtain ⟨way, name, rfl, isWay, _⟩ := (starts meant).exists_way resolved
  have rootHolds : context.source? "" = some context.root := rfl
  obtain ⟨last, final, followed, holds, layeredFinal, grows⟩ := layered.follow isWay rootHolds name
  rw [followed] at reached
  cases reached
  refine ⟨layeredFinal, grows, fun own other member => ?_⟩
  rw [Descriptor.ownExpr?_of_resolve resolved] at own
  cases own
  obtain ⟨_, listed, _, meantToo, _, resolvedToo, rfl⟩ := Metadata.mem_ways_iff.mp member
  rw [List.mem_singleton.mp listed] at meantToo
  cases meant.symm.trans meantToo
  cases resolved.symm.trans resolvedToo
  rw [List.dropLast_concat, root, entity, grows.sameMetadata]
  rwa [String.empty_append] at holds

/-- After fields have been compiled to their own expressions, the texts of their ways stand for the
sources that the ways lead to. -/
theorem Layered.fields (layered : context.Layered)
    (starts : context.metadata.Starts context.schema) {paths : List String}
    {found : List (Expr × Descriptor)} (compiled : context.fields paths = .ok (found, after)) :
    after.Layered ∧ context.Grows after ∧
      ((∀ field ∈ found, field.2.ownExpr? context.schema context.entity = some field.1) →
        ∀ way ∈ context.metadata.ways context.schema paths,
          after.source? way.text = some (after.root.through way)) := by
  induction paths generalizing context found with
  | nil =>
    cases compiled
    exact ⟨layered, .refl _, fun _ way none => by cases none⟩
  | cons path rest ih =>
    obtain ⟨⟨expr, d⟩, middle, others, first, later, rfl⟩ := fields_cons compiled
    obtain ⟨meant, made⟩ := field_eq_ok_iff.mp first
    obtain ⟨layeredMiddle, grows, holdsFirst⟩ := layered.expr starts meant made
    have startsMiddle : middle.metadata.Starts middle.schema := by
      rw [grows.sameMetadata, grows.sameSchema]
      exact starts
    obtain ⟨layeredAfter, growsMore, holdsRest⟩ := ih layeredMiddle startsMiddle later
    refine ⟨layeredAfter, grows.trans growsMore, fun own way member => ?_⟩
    obtain ⟨ownFirst, ownRest⟩ := List.forall_mem_cons.mp own
    obtain ⟨meaning, listed, known⟩ := Metadata.mem_ways_iff.mp member
    rcases List.mem_cons.mp listed with rfl | further
    · have holds := holdsFirst ownFirst way
        (Metadata.mem_ways_iff.mpr ⟨_, List.mem_cons_self, known⟩)
      rw [root, entity, growsMore.sameMetadata]
      exact growsMore.retains holds
    · rw [entity, grows.sameMetadata, grows.sameSchema] at holdsRest
      exact holdsRest ownRest way (Metadata.mem_ways_iff.mpr ⟨_, further, known⟩)

/-- The fields of a request are compiled to their own expressions exactly if different steps to them
have different texts. -/
theorem own_iff_unambiguous (starts : metadata.Starts schema) {paths : List String}
    {found : List (Expr × Descriptor)}
    (compiled : ({ schema, metadata } : Context).fields paths = .ok (found, after)) :
    (∀ field ∈ found, field.2.ownExpr? schema metadata.entity = some field.1) ↔
      Traversal.Unambiguous (metadata.ways schema paths) := by
  constructor
  · intro own first listed second listedToo steps start others startToo same
    obtain ⟨layered, _, holds⟩ := layered_initial.fields starts compiled
    have isWay := Metadata.isWay_of_mem_ways starts listed
    have isWayToo := Metadata.isWay_of_mem_ways starts listedToo
    have start := (List.mem_inits _ _).mp start
    have startToo := (List.mem_inits _ _).mp startToo
    have one := layered.prefixes isWay (holds own first listed) start
    have two := layered.prefixes isWayToo (holds own second listedToo) startToo
    rw [same] at one
    have sameSource := Option.some.inj (one.symm.trans two)
    exact Source.through_injective (isWay.of_start start) (isWayToo.of_start startToo) sameSource
  · intro apart
    exact (keeps_initial.fields apart starts (List.Subset.refl _) compiled).1

end Context

end RecordQuery
