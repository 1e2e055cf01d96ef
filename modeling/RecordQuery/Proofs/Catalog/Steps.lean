import RecordQuery.Proofs.Catalog.Way
import RecordQuery.Proofs.Schema.Nearest

/-! # Steps along segments

The steps to a discovered field are the steps of its segments. Before a segment the records are
narrowed exactly if the type that declares it is strictly below the type reached. -/

namespace RecordQuery

open Fallible

/-- A type is below another one and is not the same. -/
def Schema.StrictlyBelow (schema : Schema) (sub base : String) : Prop :=
  schema.isAssignable base sub = true ∧ sub ≠ base

/-- The step narrows records to a type. -/
def Step.isNarrow : Step → Bool
  | narrow _ => true
  | _ => false

namespace Segment

/-- The step that a segment is taken by. -/
def step (segment : Segment) : Step :=
  match segment.kind with
  | .relation _ _ => .join segment.name
  | .embedded _ => .embedded segment.name
  | .attr => .attr segment.name

/-- The type reached behind a segment from another type; an attribute stays there. -/
def reached (current : String) (segment : Segment) : String := segment.target?.getD current

end Segment

namespace Traversal

variable {schema : Schema}

/-- The steps along segments from a type on. A segment that is declared strictly below the type
reached comes after a narrowing to the declaring type, which is the type reached then; any other
segment comes without. -/
inductive Along (schema : Schema) : String → List Segment → Traversal → Prop where
  | here {current : String} : Along schema current [] []
  | straight {current : String} {segment : Segment} {segments : List Segment} {steps : Traversal}
      (notBelow : ¬ schema.StrictlyBelow segment.declaringType current)
      (further : Along schema (segment.reached current) segments steps) :
      Along schema current (segment :: segments) (segment.step :: steps)
  | narrowed {current : String} {segment : Segment} {segments : List Segment} {steps : Traversal}
      (below : schema.StrictlyBelow segment.declaringType current)
      (further : Along schema (segment.reached segment.declaringType) segments steps) :
      Along schema current (segment :: segments)
        (.narrow segment.declaringType :: segment.step :: steps)

/-- The step of a segment is no narrowing. -/
theorem isNarrow_step (segment : Segment) : segment.step.isNarrow = false := by
  unfold Segment.step
  split <;> rfl

/-- Without the narrowings the steps along segments are the steps of the segments. -/
theorem Along.erase {current : String} {segments : List Segment} {steps : Traversal}
    (along : Along schema current segments steps) :
    steps.filter (fun step => !step.isNarrow) = segments.map Segment.step := by
  induction along with
  | here => rfl
  | straight _ _ ih => rw [List.filter_cons_of_pos (by simp [isNarrow_step]), ih, List.map_cons]
  | narrowed _ _ ih =>
    rw [List.filter_cons_of_neg (by simp [Step.isNarrow]),
      List.filter_cons_of_pos (by simp [isNarrow_step]), ih, List.map_cons]

/-- A segment is taken by its own step, to the type that it reaches. -/
theorem segmentStep_eq (current : String) (segment : Segment) :
    segmentStep current segment = (segment.step, segment.reached current) := by
  unfold segmentStep Segment.step Segment.reached Segment.target?
  cases segment.kind <;> rfl

/-- To take a segment that is declared on a related type is to narrow if the declaring type is
strictly below, and to go on from there. -/
theorem exists_along_cons (valid : schema.Valid) {path current : String} {segment : Segment}
    {rest : List Segment} (related : schema.Related segment.declaringType current)
    (further : ∀ reached, ∃ steps,
      ofSegments schema path (segment.reached reached) rest = .ok steps ∧
        Along schema (segment.reached reached) rest steps) :
    ∃ steps, ofSegments schema path current (segment :: rest) = .ok steps ∧
      Along schema current (segment :: rest) steps := by
  simp only [ofSegments, narrowing?, segmentStep_eq]
  by_cases above : schema.isAssignable segment.declaringType current = true
  · obtain ⟨steps, resolved, along⟩ := further current
    refine ⟨segment.step :: steps, ?_, .straight (fun below => ?_) along⟩
    · simp [above, resolved]
    · exact below.2 (Schema.isAssignable_antisymm valid above below.1)
  · have below := related.resolve_left above
    obtain ⟨steps, resolved, along⟩ := further segment.declaringType
    refine ⟨.narrow segment.declaringType :: segment.step :: steps, ?_, .narrowed ⟨below, ?_⟩ along⟩
    · simp [above, below, resolved]
    · rintro rfl
      exact above (schema.isAssignable_self _)

/-- Segments that lead to a field can be resolved, with steps along them. -/
theorem exists_along (valid : schema.Valid) (path : String) {current last owner : String}
    {leading : List Segment} (leads : Segment.Leads schema current leading last)
    (related : schema.Related owner last) (name : String) :
    ∃ steps, ofSegments schema path current (leading ++ [⟨name, owner, .attr⟩]) = .ok steps ∧
      Along schema current (leading ++ [⟨name, owner, .attr⟩]) steps := by
  induction leads with
  | here => exact exists_along_cons valid related fun _ => ⟨[], rfl, .here⟩
  | @step _ owner target _ field segment _ relatedHere _ nested _ ih =>
    have ofNested : segment.declaringType = owner ∧ segment.target? = some target := by
      unfold Metadata.nestedSegment? at nested
      split at nested
      · split at nested <;> cases nested <;> exact ⟨rfl, rfl⟩
      · cases nested
    refine exists_along_cons valid (ofNested.1 ▸ relatedHere) fun reached => ?_
    rw [Segment.reached, ofNested.2]
    exact ih related

end Traversal

/-- Resolving a field that starts at an entity gives steps along its segments: a way and the
attribute at its end. -/
theorem Descriptor.StartsAt.exists_along {schema : Schema} (valid : schema.Valid) {entity : String}
    {d : Descriptor} (starts : d.StartsAt schema entity) :
    ∃ way, Traversal.resolve schema entity d = .ok (way ++ [.attr d.name]) ∧
      Traversal.IsWay schema way ∧
        Traversal.Along schema entity d.segments (way ++ [.attr d.name]) := by
  obtain ⟨last, owner, field, leads, related, _, terminal, _⟩ := id starts
  obtain ⟨steps, resolved, along⟩ := Traversal.exists_along valid d.path leads related field.name
  rw [← terminal] at resolved along
  obtain ⟨way, name, rfl, isWay, _⟩ := starts.exists_way resolved
  have erased := along.erase
  rw [List.filter_append, List.map_append] at erased
  obtain ⟨-, same⟩ := List.append_inj' erased rfl
  have named : Step.attr name = d.terminal.step := (List.cons.inj same).1
  have ends : d.terminal.step = .attr d.name := by
    rw [Descriptor.name, terminal]
    rfl
  rw [named, ends] at resolved along
  exact ⟨way, resolved, isWay, along⟩

end RecordQuery
