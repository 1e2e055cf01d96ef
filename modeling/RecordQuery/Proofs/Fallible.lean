import Mathlib.Data.List.Forall2

/-! # Computations that may fail

When a computation made of steps succeeds, each of its steps has succeeded. -/

namespace RecordQuery.Fallible

variable {ε α β γ : Type}

@[simp]
theorem ok_bind (a : α) (f : α → Except ε β) : (Except.ok a >>= f) = f a := rfl

@[simp]
theorem error_bind (e : ε) (f : α → Except ε β) : (Except.error e >>= f) = .error e := rfl

@[simp]
theorem pure_eq_ok (a : α) : (pure a : Except ε α) = .ok a := rfl

@[simp]
theorem throw_eq_error (e : ε) : (throw e : Except ε α) = .error e := rfl

/-- Two steps one after the other succeed exactly if the first one does and the second one does on
its result. -/
theorem bind_eq_ok_iff {x : Except ε α} {f : α → Except ε β} {b : β} :
    (x >>= f) = .ok b ↔ ∃ a, x = .ok a ∧ f a = .ok b := by
  cases x <;> simp

/-- A computation after one without a result of its own. -/
theorem bind_unit_eq_ok_iff {x : Except ε Unit} {f : Unit → Except ε β} {b : β} :
    (x >>= f) = .ok b ↔ x = .ok () ∧ f () = .ok b := by
  cases x <;> simp

/-- Mapping the result of a computation succeeds exactly if the computation does. -/
theorem map_eq_ok_iff {x : Except ε α} {f : α → β} {b : β} :
    x.map f = .ok b ↔ ∃ a, x = .ok a ∧ f a = b := by
  cases x <;> simp [Except.map]

theorem map_pure_eq (a : α) (f : α → β) : (pure a : Except ε α).map f = pure (f a) := rfl

theorem map_after_bind (x : Except ε α) (f : α → Except ε β) (g : β → γ) :
    (x >>= f).map g = x >>= fun a => (f a).map g := by
  cases x <;> rfl

/-- A step after a mapped result starts from the mapped result. -/
theorem bind_after_map (x : Except ε α) (f : α → β) (g : β → Except ε γ) :
    x.map f >>= g = x >>= fun a => g (f a) := by
  cases x <;> rfl

/-- Two computations one after the other give the same in either order, apart from faults. -/
theorem bind_pair_swap_iff {f : α → β → γ} {g : β → α → γ} (swap : ∀ a b, g b a = f a b)
    {x : Except ε α} {y : Except ε β} {c : γ} :
    (do return f (← x) (← y) : Except ε γ) = .ok c ↔
      (do return g (← y) (← x) : Except ε γ) = .ok c := by
  cases x <;> cases y <;> simp [swap]

/-- What a computation made of two gives, apart from faults. -/
theorem toOption_bind (x : Except ε α) (f : α → Except ε β) :
    (x >>= f).toOption = x.toOption.bind fun a => (f a).toOption := by
  cases x <;> rfl

/-- Without its fault, a computation has the result that it had. -/
theorem toOption_eq_some_iff {x : Except ε α} {a : α} : x.toOption = some a ↔ x = .ok a := by
  cases x <;> simp [Except.toOption]

theorem mapM_congr {f g : α → Except ε β} {xs : List α} (same : ∀ x ∈ xs, f x = g x) :
    xs.mapM f = xs.mapM g := by
  induction xs with
  | nil => rfl
  | cons x rest ih =>
    rw [List.mapM_cons, List.mapM_cons, same x List.mem_cons_self,
      ih fun y later => same y (List.mem_cons_of_mem _ later)]

/-- Mapping each of several results maps the list of them. -/
theorem mapM_after_map {f : α → Except ε β} {turns : β → γ} (xs : List α) :
    xs.mapM (fun x => (f x).map turns) = (xs.mapM f).map (List.map turns) := by
  induction xs with
  | nil => rfl
  | cons x rest ih =>
    rw [List.mapM_cons, List.mapM_cons, ih]
    cases f x with
    | error fault => rfl
    | ok y => cases rest.mapM f <;> rfl

/-- If each item of a list becomes another one and its result does so too, the results of the list
become those of the other list. -/
theorem mapM_map {α' β' : Type} {f : α → Except ε β} {g : α' → Except ε β'} {becomes : α → α'}
    {turns : β → β'} (same : ∀ x, g (becomes x) = (f x).map turns) (xs : List α) :
    (xs.map becomes).mapM g = (xs.mapM f).map (List.map turns) := by
  rw [List.mapM_map, ← mapM_after_map]
  exact mapM_congr fun x _ => same x

/-- A computation over a list succeeds if it does so for each item, and then it has a result for
each. -/
theorem mapM_eq_ok_iff {f : α → Except ε β} {xs : List α} {ys : List β} :
    xs.mapM f = .ok ys ↔ List.Forall₂ (fun x y => f x = .ok y) xs ys := by
  induction xs generalizing ys with
  | nil => cases ys <;> simp
  | cons x rest ih =>
    simp only [List.mapM_cons, bind_eq_ok_iff, ih]
    constructor
    · rintro ⟨y, first, others, later, same⟩
      cases same
      exact .cons first later
    · rintro (_ | ⟨first, later⟩)
      exact ⟨_, first, _, later, rfl⟩

/-- If a computation succeeds for each item of a list, then it succeeds for the list. -/
theorem exists_mapM {f : α → Except ε β} {xs : List α} (each : ∀ x ∈ xs, ∃ y, f x = .ok y) :
    ∃ ys, xs.mapM f = .ok ys := by
  induction xs with
  | nil => exact ⟨[], rfl⟩
  | cons x rest ih =>
    obtain ⟨y, first⟩ := each x List.mem_cons_self
    obtain ⟨ys, later⟩ := ih fun other inRest => each other (List.mem_cons_of_mem _ inRest)
    exact ⟨y :: ys, by rw [List.mapM_cons, first, ok_bind, later]; rfl⟩

/-- A computation succeeds for a list exactly if it succeeds for each of its items. -/
theorem exists_mapM_iff {f : α → Except ε β} {xs : List α} :
    (∃ ys, xs.mapM f = .ok ys) ↔ ∀ x ∈ xs, ∃ y, f x = .ok y := by
  refine ⟨?_, exists_mapM⟩
  rintro ⟨ys, computed⟩
  induction mapM_eq_ok_iff.mp computed with
  | nil => exact fun x member => by cases member
  | @cons x y rest others first later ih =>
    exact List.forall_mem_cons.mpr ⟨⟨y, first⟩, ih (mapM_eq_ok_iff.mpr later)⟩

/-- Each result of a computation over a list is that of some item. -/
theorem exists_of_mem_mapM {f : α → Except ε β} {xs : List α} {ys : List β}
    (computed : xs.mapM f = .ok ys) {y : β} (member : y ∈ ys) : ∃ x ∈ xs, f x = .ok y := by
  induction mapM_eq_ok_iff.mp computed with
  | nil => cases member
  | cons first _ ih =>
    rcases List.mem_cons.mp member with rfl | later
    · exact ⟨_, List.mem_cons_self, first⟩
    · obtain ⟨x, inRest, found⟩ := ih (mapM_eq_ok_iff.mpr ‹_›) later
      exact ⟨x, List.mem_cons_of_mem _ inRest, found⟩

/-- The results of a computation over a list are those of the items. -/
theorem mem_iff_of_mapM {f : α → Except ε β} {xs : List α} {ys : List β}
    (computed : xs.mapM f = .ok ys) {y : β} : y ∈ ys ↔ ∃ x ∈ xs, f x = .ok y := by
  refine ⟨exists_of_mem_mapM computed, ?_⟩
  rintro ⟨x, member, found⟩
  induction mapM_eq_ok_iff.mp computed with
  | nil => cases member
  | cons first _ ih =>
    rcases List.mem_cons.mp member with rfl | later
    · cases first.symm.trans found
      exact List.mem_cons_self
    · exact List.mem_cons_of_mem _ (ih (mapM_eq_ok_iff.mpr ‹_›) later)

/-! ## Faults that do not arise -/

/-- The computation does not fail with a bad fault. -/
def Avoids (bad : ε → Prop) (x : Except ε α) : Prop := ∀ fault, x = .error fault → ¬ bad fault

variable {bad : ε → Prop}

@[simp]
theorem avoids_ok (a : α) : Avoids bad (.ok a : Except ε α) := fun _ failed => by cases failed

/-- A failure avoids bad faults exactly if its own fault is none of them. -/
@[simp]
theorem avoids_error_iff {fault : ε} : Avoids bad (.error fault : Except ε α) ↔ ¬ bad fault := by
  simp [Avoids]

/-- Mapping a result leaves the faults as they are. -/
@[simp]
theorem avoids_map_iff {x : Except ε α} {f : α → β} : Avoids bad (x.map f) ↔ Avoids bad x := by
  cases x <;> simp [Except.map]

/-- Two steps avoid bad faults if each of them does. -/
theorem Avoids.bind {x : Except ε α} {f : α → Except ε β} (first : Avoids bad x)
    (rest : ∀ a, Avoids bad (f a)) : Avoids bad (x >>= f) := by
  cases x with
  | error fault => exact avoids_error_iff.mpr (first fault rfl)
  | ok a => exact rest a

/-- A computation for each item of a list avoids bad faults if it does for every item. -/
theorem Avoids.mapM {f : α → Except ε β} (each : ∀ x, Avoids bad (f x)) (xs : List α) :
    Avoids bad (xs.mapM f) := by
  induction xs with
  | nil => exact avoids_ok []
  | cons x rest ih =>
    rw [List.mapM_cons]
    exact (each x).bind fun _ => ih.bind fun _ => avoids_ok _

/-! ## Two computations side by side -/

/-- Two computations have related results, or fail with related faults. -/
inductive Alike {δ : Type} (results : α → β → Prop) (faults : ε → δ → Prop) :
    Except ε α → Except δ β → Prop where
  | ok {a : α} {b : β} (related : results a b) : Alike results faults (.ok a) (.ok b)
  | error {fault : ε} {other : δ} (related : faults fault other) :
      Alike results faults (.error fault) (.error other)

/-- Computations that are alike have the same mapped results if the mappings agree on what they may
result in. -/
theorem Alike.map_eq {results : α → β → Prop} {x : Except ε α} {y : Except ε β}
    (alike : Alike results Eq x y) {f : α → γ} {g : β → γ}
    (same : ∀ {a b}, results a b → f a = g b) : x.map f = y.map g := by
  cases alike with
  | ok related => exact congrArg Except.ok (same related)
  | error related => exact congrArg Except.error related

/-- Computations stay alike when alike computations follow them. -/
theorem Alike.bind {δ : Type} {results : α → β → Prop} {faults : ε → δ → Prop} {α' β' : Type}
    {further : α' → β' → Prop} {x : Except ε α} {y : Except δ β} {f : α → Except ε α'}
    {g : β → Except δ β'} (first : Alike results faults x y)
    (rest : ∀ {a b}, results a b → Alike further faults (f a) (g b)) :
    Alike further faults (x >>= f) (y >>= g) := by
  cases first with
  | ok related => exact rest related
  | error related => exact .error related

end RecordQuery.Fallible
