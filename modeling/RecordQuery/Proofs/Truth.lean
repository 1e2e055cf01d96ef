import RecordQuery.Truth

/-! # Laws of truth

When the connectives are true and when they are false. As nothing else matters, the order of what
they connect does not, and negation turns one of them into the other. -/

namespace RecordQuery.Truth

/-- A conjunction of two is true exactly if both are. -/
theorem and_eq_true_iff {first second : Truth} :
    and first second = some true ↔ first = some true ∧ second = some true := by
  rcases first with _ | _ | _ <;> rcases second with _ | _ | _ <;> simp [and]

/-- A disjunction of two is true exactly if one of them is. -/
theorem or_eq_true_iff {first second : Truth} :
    or first second = some true ↔ first = some true ∨ second = some true := by
  rcases first with _ | _ | _ <;> rcases second with _ | _ | _ <;> simp [or]

/-- A conjunction is true exactly if all of its members are. -/
theorem all_eq_true_iff {truths : List Truth} :
    all truths = some true ↔ ∀ truth ∈ truths, truth = some true := by
  induction truths with
  | nil => simp [all]
  | cons truth rest ih =>
    rw [all, List.foldr_cons, and_eq_true_iff, ← all, ih, List.forall_mem_cons]

/-- A disjunction is true exactly if one of its members is. -/
theorem any_eq_true_iff {truths : List Truth} :
    any truths = some true ↔ ∃ truth ∈ truths, truth = some true := by
  induction truths with
  | nil => simp [any]
  | cons truth rest ih =>
    rw [any, List.foldr_cons, or_eq_true_iff, ← any, ih]
    simp only [List.mem_cons, exists_eq_or_imp]

theorem any_cons (truth : Truth) (rest : List Truth) : any (truth :: rest) = or truth (any rest) :=
  rfl

theorem false_or (truth : Truth) : or (some false) truth = truth := by
  rcases truth with _ | _ | _ <;> rfl

/-! ## Falsity -/

/-- A conjunction of two is false exactly if one of them is. -/
theorem and_eq_false_iff {first second : Truth} :
    and first second = some false ↔ first = some false ∨ second = some false := by
  rcases first with _ | _ | _ <;> rcases second with _ | _ | _ <;> simp [and]

/-- A disjunction of two is false exactly if both are. -/
theorem or_eq_false_iff {first second : Truth} :
    or first second = some false ↔ first = some false ∧ second = some false := by
  rcases first with _ | _ | _ <;> rcases second with _ | _ | _ <;> simp [or]

/-- A conjunction is false exactly if one of its members is. -/
theorem all_eq_false_iff {truths : List Truth} :
    all truths = some false ↔ ∃ truth ∈ truths, truth = some false := by
  induction truths with
  | nil => simp [all]
  | cons truth rest ih =>
    rw [all, List.foldr_cons, and_eq_false_iff, ← all, ih]
    simp only [List.mem_cons, exists_eq_or_imp]

/-- A disjunction is false exactly if all of its members are. -/
theorem any_eq_false_iff {truths : List Truth} :
    any truths = some false ↔ ∀ truth ∈ truths, truth = some false := by
  induction truths with
  | nil => simp [any]
  | cons truth rest ih =>
    rw [any, List.foldr_cons, or_eq_false_iff, ← any, ih, List.forall_mem_cons]

/-! ## What lists connect -/

/-- Truths that are true together and false together are unknown together. -/
theorem eq_of_iff {first second : Truth} (whenTrue : first = some true ↔ second = some true)
    (whenFalse : first = some false ↔ second = some false) : first = second := by
  rcases first with _ | _ | _ <;> rcases second with _ | _ | _ <;> simp_all

section Members

variable {truths others : List Truth} (same : ∀ truth, truth ∈ truths ↔ truth ∈ others)
include same

/-- Only what is connected matters, neither in which order nor how often. -/
theorem all_congr : all truths = all others := by
  refine eq_of_iff ?_ ?_
  · simp only [all_eq_true_iff, same]
  · simp only [all_eq_false_iff, same]

theorem any_congr : any truths = any others := by
  refine eq_of_iff ?_ ?_
  · simp only [any_eq_true_iff, same]
  · simp only [any_eq_false_iff, same]

end Members

/-! ## Negation -/

/-- Denying twice changes nothing, not even what is unknown. -/
theorem not_not (truth : Truth) : not (not truth) = truth := by
  rcases truth with _ | _ | _ <;> rfl

/-- A denied conjunction of two is the disjunction of the denied members. -/
theorem not_and (first second : Truth) : not (and first second) = or (not first) (not second) := by
  rcases first with _ | _ | _ <;> rcases second with _ | _ | _ <;> rfl

/-- A denied conjunction is the disjunction of its denied members. -/
theorem not_all (truths : List Truth) : not (all truths) = any (truths.map not) := by
  induction truths with
  | nil => rfl
  | cons truth rest ih =>
    rw [all, List.foldr_cons, not_and, ← all, ih]
    rfl

/-- A denied disjunction is the conjunction of its denied members. -/
theorem not_any (truths : List Truth) : not (any truths) = all (truths.map not) := by
  have twice : (truths.map not).map not = truths := by
    rw [List.map_map, show not ∘ not = id from funext not_not, List.map_id]
  calc not (any truths)
      = not (any ((truths.map not).map not)) := by rw [twice]
    _ = not (not (all (truths.map not))) := by rw [not_all]
    _ = all (truths.map not) := not_not _

/-! ## Two truths -/

theorem all_pair (first second : Truth) : all [first, second] = and first second := by
  rcases first with _ | _ | _ <;> rcases second with _ | _ | _ <;> rfl

end RecordQuery.Truth
