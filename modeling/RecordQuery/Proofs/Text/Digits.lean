import Mathlib.Data.List.Basic
import Mathlib.Data.List.TakeWhile
import Mathlib.Tactic.IntervalCases
import RecordQuery.Text.Numeral

/-! # Digits of numerals

What the digits of a number are, what they are worth, and how they are split off from the characters
behind them. A sign in front of them is told from a digit. -/

namespace RecordQuery.Numeral

/-! ## Digits -/

/-- The digits of a number are digits. -/
theorem isDigit_of_mem_digits {n : Nat} {c : Char} (member : c ∈ digits n) : c.isDigit = true :=
  Nat.isDigit_of_mem_toDigits (by decide) (by decide) member

theorem exists_digits_eq_cons (n : Nat) :
    ∃ first rest, digits n = first :: rest ∧ first.isDigit = true := by
  cases shape : digits n with
  | nil => exact absurd shape Nat.toDigits_ne_nil
  | cons first rest =>
    exact ⟨first, rest, rfl, isDigit_of_mem_digits (shape ▸ List.mem_cons_self)⟩

/-- Digits that fill a width are digits. -/
theorem isDigit_of_mem_padded {width n : Nat} {c : Char} (member : c ∈ padded width n) :
    c.isDigit = true := by
  rcases List.mem_append.mp member with zero | digit
  · rw [List.eq_of_mem_replicate zero]
    rfl
  · exact isDigit_of_mem_digits digit

/-- Only the numeral of zero begins with a zero. -/
theorem head?_digits_ne {n : Nat} (positive : 0 < n) : (digits n).head? ≠ some '0' := by
  induction n using Nat.strongRecOn with
  | ind n ih =>
    rcases Nat.lt_or_ge n 10 with small | large
    · rw [digits, Nat.toDigits_of_lt_base small]
      interval_cases n <;> decide
    · have shorter : 0 < n / 10 := by omega
      have begun : digits (n / 10) ≠ [] := Nat.toDigits_ne_nil
      have split : digits n = digits (n / 10) ++ [(n % 10).digitChar] :=
        Nat.toDigits_of_base_le (by decide) large
      rw [split, List.head?_append_of_ne_nil _ begun]
      exact ih (n / 10) (by omega) shorter

/-- Digits are split off up to what is no digit. -/
theorem spanDigits_append {cs rest : List Char} (digits : ∀ c ∈ cs, c.isDigit = true)
    (ended : ∀ c ∈ rest.head?, c.isDigit = false) : spanDigits (cs ++ rest) = (cs, rest) := by
  have stops : rest.takeWhile Char.isDigit = [] ∧ rest.dropWhile Char.isDigit = rest := by
    cases rest with
    | nil => exact ⟨rfl, rfl⟩
    | cons c rest =>
      have noDigit : ¬ c.isDigit = true := by simp [ended c rfl]
      exact ⟨List.takeWhile_cons_of_neg noDigit, List.dropWhile_cons_of_neg noDigit⟩
  rw [spanDigits, List.takeWhile_append_of_pos digits, List.dropWhile_append_of_pos digits,
    stops.1, stops.2, List.append_nil]

/-! ## Values -/

/-- Digits in front count by the power of ten that the digits behind them take up. -/
theorem value_append (cs ds : List Char) :
    value (cs ++ ds) = value cs * 10 ^ ds.length + value ds := by
  rw [value, Nat.ofDigitChars_append, Nat.ofDigitChars_eq_ofDigitChars_zero, mul_comm]
  rfl

/-- Zeros that fill a width do not change what digits are worth. -/
theorem value_padded (width n : ℕ) : value (padded width n) = n := by
  rw [padded, List.leftpad, value, Nat.ofDigitChars_append, Nat.ofDigitChars_replicate_zero,
    mul_zero]
  exact value_digits n

/-- A number that ends in a zero is a multiple of ten. -/
theorem value_mod_of_getLast? {cs : List Char} (zero : cs.getLast? = some '0') :
    value cs % 10 = 0 := by
  obtain ⟨before, rfl⟩ := List.getLast?_eq_some_iff.mp zero
  rw [value_append]
  simp [value, Nat.ofDigitChars_cons, Nat.ofDigitChars_nil]

/-! ## Signs -/

/-- A whole number is its sign with its magnitude. -/
theorem withSign_natAbs (n : Int) : withSign (decide (n < 0)) n.natAbs = n := by
  unfold withSign
  by_cases negative : n < 0
  · simp only [negative, decide_true, ↓reduceIte]
    omega
  · simp only [negative, decide_false, Bool.false_eq_true, ↓reduceIte]
    omega

/-- No digit is taken for a sign. -/
theorem splitSign_of_isDigit {first : Char} (digit : first.isDigit = true) (rest : List Char) :
    splitSign (first :: rest) = (false, first :: rest) := by
  have noMinus : first ≠ '-' := by
    rintro rfl
    cases digit
  have noPlus : first ≠ '+' := by
    rintro rfl
    cases digit
  unfold splitSign
  split
  · rename_i same
    exact absurd (List.cons.inj same).1 noMinus
  · rename_i same
    exact absurd (List.cons.inj same).1 noPlus
  · rfl

/-- The sign of a numeral is split off. -/
theorem splitSign_signed (n : Int) (rest : List Char) :
    splitSign (signed n ++ rest) = (decide (n < 0), digits n.natAbs ++ rest) := by
  unfold signed
  by_cases negative : n < 0
  · simp only [negative, ↓reduceIte, decide_true]
    rfl
  · obtain ⟨first, others, shape, digit⟩ := exists_digits_eq_cons n.natAbs
    simp only [negative, ↓reduceIte, decide_false, shape, List.cons_append]
    exact splitSign_of_isDigit digit _

/-- A whole number is written in digits and a minus sign. -/
theorem mem_signed {n : Int} {c : Char} (member : c ∈ signed n) :
    c = '-' ∨ c.isDigit = true := by
  unfold signed at member
  split at member
  · rcases List.mem_cons.mp member with sign | digit
    · exact .inl sign
    · exact .inr (isDigit_of_mem_digits digit)
  · exact .inr (isDigit_of_mem_digits member)

theorem signed_ne_nil (n : Int) : signed n ≠ [] := by
  unfold signed
  split
  · exact List.cons_ne_nil _ _
  · exact Nat.toDigits_ne_nil

end RecordQuery.Numeral
