import RecordQuery.Proofs.Value.Constraints
import RecordQuery.Proofs.Value.Order

/-! # Equality of values

Equality is the same from both sides, across all kinds of values that are compared with each other.
Two lists are equal if their items are, place by place. -/

namespace RecordQuery.Value

/-! ## Both sides -/

/-- Lists whose items are compared alike from both sides are compared alike from both sides. -/
theorem equalItems?_swap {xs : List Value}
    (each : ∀ x ∈ xs, ∀ y : Value, y.equals? x = x.equals? y) (ys : List Value) :
    equalItems? ys xs = equalItems? xs ys := by
  induction xs generalizing ys with
  | nil => cases ys <;> rfl
  | cons x rest ih =>
    obtain ⟨first, later⟩ := List.forall_mem_cons.mp each
    cases ys with
    | nil => rfl
    | cons y others => rw [equalItems?, equalItems?, first y, ih later others]

/-- Equality is the same from both sides. -/
theorem equals?_swap (x y : Value) : y.equals? x = x.equals? y := by
  induction x using inductionOn generalizing y with
  | null => cases y <;> rfl
  | single x isSingle =>
    have compared : (y.compare? x).map (· == .eq) = (x.compare? y).map (· == .eq) := by
      rw [compare?_swap]
      rcases x.compare? y with _ | _ | _ | _ <;> rfl
    cases x <;> cases y <;> first
      | exact isSingle.elim
      | rfl
      | exact compared
      | exact congrArg some Bool.beq_comm
  | list xs ih =>
    cases y with
    | list ys =>
      rw [equals?, equals?, equalItems?_swap ih]
      exact if_congr eq_comm rfl rfl
    | _ => rfl

/-! ## Lists -/

/-- Items of lists of one length are equal exactly if they are equal place by place. -/
theorem equalItems?_eq_true_iff {xs ys : List Value} (sameLength : xs.length = ys.length) :
    equalItems? xs ys = some true ↔
      List.Forall₂ (fun x y : Value => x.equals? y = some true) xs ys := by
  induction xs generalizing ys with
  | nil =>
    cases ys with
    | nil => exact ⟨fun _ => .nil, fun _ => rfl⟩
    | cons y others => cases sameLength
  | cons x rest ih =>
    cases ys with
    | nil => cases sameLength
    | cons y others =>
      rw [equalItems?, List.forall₂_cons, ← ih (Nat.succ.inj sameLength)]
      rcases x.equals? y with _ | _ | _
      · simp
      · simp
      · simp

/-- Lists are equal exactly if they have one length and equal items place by place. -/
theorem equals?_list_eq_true_iff {xs ys : List Value} :
    (list xs).equals? (list ys) = some true ↔
      List.Forall₂ (fun x y : Value => x.equals? y = some true) xs ys := by
  rw [equals?]
  split
  · exact equalItems?_eq_true_iff ‹_›
  · rename_i unlike
    exact ⟨fun equal => (nomatch equal), fun each => absurd each.length_eq unlike⟩

/-! ## What equal values are -/

/-- What equals a single value is one. -/
theorem isSingle_of_equals? {x y : Value} (isSingle : x.IsSingle)
    (equal : x.equals? y = some true) : y.IsSingle := by
  cases y with
  | null => cases x <;> cases equal
  | list items => cases x <;> first | exact isSingle.elim | cases equal
  | _ => trivial

/-- What equals a list is a list with equal items. -/
theorem exists_list_of_equals? {xs : List Value} {y : Value}
    (equal : (list xs).equals? y = some true) :
    ∃ ys, y = list ys ∧ List.Forall₂ (fun x y : Value => x.equals? y = some true) xs ys := by
  cases y with
  | list ys => exact ⟨ys, rfl, equals?_list_eq_true_iff.mp equal⟩
  | _ => cases equal

/-- Texts are equal exactly if they are the same. -/
theorem equals?_string_eq_true_iff {x y : String} :
    (string x).equals? (string y) = some true ↔ x = y := by
  change some (compare x y == .eq) = some true ↔ x = y
  rw [Option.some.injEq, beq_iff_eq, Std.LawfulEqOrd.compare_eq_iff_eq]

end RecordQuery.Value
