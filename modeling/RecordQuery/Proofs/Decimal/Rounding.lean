import Mathlib.Algebra.Order.Field.Basic
import Mathlib.Algebra.Order.Ring.Abs
import Mathlib.Algebra.Ring.Int.Parity
import Mathlib.Data.Rat.Cast.Order
import Mathlib.Tactic.FieldSimp
import Mathlib.Tactic.Linarith
import Mathlib.Tactic.Positivity
import Mathlib.Tactic.Ring
import RecordQuery.Rounding

/-! # Rounding half to even

The whole number nearest to a number, and of two nearest ones the even one. There is exactly one,
and a quotient of natural numbers is rounded to it. -/

namespace RecordQuery

/-- `n` is the whole number nearest to `x`, and if there are two, the even one of them. -/
structure IsNearestEven (x : ℚ) (n : ℤ) : Prop where
  nearest (k : ℤ) : |x - n| ≤ |x - k|
  even (k : ℤ) (other : k ≠ n) (tie : |x - k| = |x - n|) : Even n

/-- `r` is `x` rounded to some decimal places, a half to even. -/
def RoundsTo (places : ℕ) (x r : ℚ) : Prop :=
  ∃ n : ℤ, IsNearestEven (x * 10 ^ places) n ∧ r = n / 10 ^ places

variable {x r : ℚ} {n m : ℤ}

/-- Nearest to a number is what lies at most a half away from it. -/
theorem isNearestEven_iff :
    IsNearestEven x n ↔ 2 * |x - n| ≤ 1 ∧ (2 * |x - n| = 1 → Even n) := by
  constructor
  · rintro ⟨nearest, even⟩
    have above := nearest (n + 1)
    have below := nearest (n - 1)
    push_cast at above below
    have half : 2 * |x - n| ≤ 1 := by grind
    refine ⟨half, fun tie => ?_⟩
    rcases le_total 0 (x - n) with positive | negative
    · refine even (n + 1) (by omega) ?_
      push_cast
      grind
    · refine even (n - 1) (by omega) ?_
      push_cast
      grind
  · rintro ⟨half, even⟩
    -- Between `x` and any other whole number lies what is left of a distance of at least one.
    have apart {k : ℤ} (other : k ≠ n) : 1 ≤ |x - n| + |x - k| := by
      have whole : (1 : ℤ) ≤ |k - n| := Int.one_le_abs (sub_ne_zero.mpr other)
      have cast : (1 : ℚ) ≤ |(k : ℚ) - n| := by exact_mod_cast whole
      calc (1 : ℚ) ≤ |(k : ℚ) - n| := cast
        _ = |(x - n) - (x - k)| := by congr 1; ring
        _ ≤ |x - n| + |x - k| := abs_sub _ _
    constructor
    · intro k
      by_cases same : k = n
      · rw [same]
      · linarith [apart same]
    · intro k other tie
      exact even (by linarith [apart other])

/-- A number has only one nearest whole number, as of two at the same distance only one is even. -/
theorem IsNearestEven.unique (first : IsNearestEven x n) (second : IsNearestEven x m) : n = m := by
  by_contra different
  have equal : |x - m| = |x - n| := le_antisymm (second.nearest n) (first.nearest m)
  have evenFirst := first.even m (Ne.symm different) equal
  have evenSecond := second.even n different equal.symm
  have near := (isNearestEven_iff.mp first).1
  have nearToo := (isNearestEven_iff.mp second).1
  have close : |(n : ℚ) - m| ≤ 1 := by
    calc |(n : ℚ) - m| = |(x - m) - (x - n)| := by congr 1; ring
      _ ≤ |x - m| + |x - n| := abs_sub _ _
      _ ≤ 1 := by linarith
  have closeWhole : |n - m| ≤ 1 := by exact_mod_cast close
  obtain ⟨i, rfl⟩ := evenFirst
  obtain ⟨j, rfl⟩ := evenSecond
  rw [abs_le] at closeWhole
  omega

/-- Rounding does the same on both sides of zero. -/
theorem IsNearestEven.neg (nearest : IsNearestEven x n) : IsNearestEven (-x) (-n) := by
  obtain ⟨half, even⟩ := isNearestEven_iff.mp nearest
  have same : |(-x) - ((-n : ℤ) : ℚ)| = |x - n| := by
    push_cast
    rw [← abs_neg]
    congr 1
    ring
  rw [isNearestEven_iff, same]
  exact ⟨half, fun tie => (even tie).neg⟩

theorem isNearestEven_self (n : ℤ) : IsNearestEven n n := by
  rw [isNearestEven_iff]
  simp

/-- There is one number that a number is rounded to. -/
theorem RoundsTo.iff_eq {places : ℕ} (rounds : RoundsTo places x r) (other : ℚ) :
    RoundsTo places x other ↔ other = r := by
  constructor
  · rintro ⟨m, nearestToo, rfl⟩
    obtain ⟨n, nearest, rfl⟩ := rounds
    rw [nearest.unique nearestToo]
  · rintro rfl
    exact rounds

/-- Nearest to a quotient is what multiplied by the divisor lies at most half of it away from the
dividend. -/
theorem isNearestEven_div_iff (num : ℤ) {den : ℤ} (positive : 0 < den) :
    IsNearestEven (num / den) n ↔
      2 * |num - n * den| ≤ den ∧ (2 * |num - n * den| = den → Even n) := by
  have cast : (0 : ℚ) < den := by exact_mod_cast positive
  have distance : 2 * |(num : ℚ) / den - n| = (2 * |num - n * den| : ℤ) / den := by
    rw [div_sub' cast.ne', abs_div, abs_of_pos cast, mul_comm (den : ℚ)]
    push_cast
    ring
  rw [isNearestEven_iff, distance, div_le_one cast, div_eq_one_iff_eq cast.ne']
  norm_cast

/-- The quotient that is computed is the whole number nearest to the fraction. -/
theorem isNearestEven_roundHalfEven (num : ℕ) {den : ℕ} (positive : 0 < den) :
    IsNearestEven ((num : ℚ) / den) (roundHalfEven num den) := by
  have below : num % den < den := Nat.mod_lt num positive
  have whole : den * (num / den) + num % den = num := Nat.div_add_mod num den
  have cast : (0 : ℤ) < den := by exact_mod_cast positive
  refine (isNearestEven_div_iff (num : ℤ) cast).mpr ?_
  unfold roundHalfEven
  generalize num / den = quotient at *
  generalize num % den = remainder at *
  subst whole
  simp only [Bool.or_eq_true, decide_eq_true_eq, Bool.and_eq_true, beq_iff_eq]
  split
  case isTrue kept =>
    have rest : ((den * quotient + remainder : ℕ) : ℤ) - (quotient : ℕ) * den = remainder := by
      push_cast
      ring
    rw [rest, abs_of_nonneg (Int.natCast_nonneg remainder), Int.even_iff]
    omega
  case isFalse raised =>
    have rest : ((den * quotient + remainder : ℕ) : ℤ) - (quotient + 1 : ℕ) * den =
        -(den - remainder) := by
      push_cast
      ring
    rw [rest, abs_neg, abs_of_nonneg (by omega), Int.even_iff]
    omega

end RecordQuery
