import RecordQuery.Proofs.Fallible
import RecordQuery.Proofs.Text.Digits
import RecordQuery.Period

/-! # Reading the texts of periods

A component is read only where the text starts with a number and the letter of its unit; any other
text is left for the components after it. So the components that the text of a period leaves out are
skipped, and those it has are found in order. -/

namespace RecordQuery

open Fallible

namespace Text

/-- From a text without blanks nothing is trimmed. -/
theorem trimStart_of_forall {cs : List Char} (each : ∀ c ∈ cs, isBlank c = false) :
    trimStart cs = cs := by
  cases cs with
  | nil => rfl
  | cons c rest =>
    have first := each c List.mem_cons_self
    exact List.dropWhile_cons_of_neg (by simp [first])

/-- A text without blanks is not trimmed. -/
theorem trimChars_of_forall {cs : List Char} (each : ∀ c ∈ cs, isBlank c = false) :
    trimChars cs = cs := by
  have backwards : ∀ c ∈ cs.reverse, isBlank c = false := by
    intro c member
    exact each c (List.mem_reverse.mp member)
  rw [trimChars, trimStart_of_forall each, trimEnd, trimStart_of_forall backwards,
    List.reverse_reverse]

/-- The codes of the digits are those from 48 to 57. -/
theorem toNat_of_isDigit {c : Char} (digit : c.isDigit = true) : 48 ≤ c.toNat ∧ c.toNat ≤ 57 := by
  simpa [Char.isDigit, UInt32.le_iff_toNat_le] using digit

/-- No digit is a blank. -/
theorem isBlank_of_isDigit {c : Char} (digit : c.isDigit = true) : isBlank c = false := by
  have range := toNat_of_isDigit digit
  simp only [isBlank, Bool.or_eq_false_iff, Bool.and_eq_false_iff, decide_eq_false_iff_not,
    beq_eq_false_iff_ne]
  omega

end Text

namespace Period

variable {unit other : Char}

@[simp]
theorem readComponent_nil (unit : Char) : readComponent unit [] = (none, []) := rfl

/-- A number in front of a letter is a component if the letter is that of the unit. -/
theorem readComponent_signed (unit : Char) {letter : Char} (noDigit : letter.isDigit = false)
    (n : Int) (rest : List Char) :
    readComponent unit (Numeral.signed n ++ letter :: rest) =
      if letter.toUpper = unit then (some n, rest)
      else (none, Numeral.signed n ++ letter :: rest) := by
  have digits : ∀ c ∈ Numeral.digits n.natAbs, c.isDigit = true :=
    fun _ member => Numeral.isDigit_of_mem_digits member
  have taken : (Numeral.digits n.natAbs ++ letter :: rest).takeWhile Char.isDigit =
      Numeral.digits n.natAbs := by
    rw [List.takeWhile_append_of_pos digits, List.takeWhile_cons_of_neg (by simp [noDigit]),
      List.append_nil]
  have left : (Numeral.digits n.natAbs ++ letter :: rest).dropWhile Char.isDigit =
      letter :: rest := by
    rw [List.dropWhile_append_of_pos digits, List.dropWhile_cons_of_neg (by simp [noDigit])]
  unfold readComponent
  simp only [Numeral.splitSign_signed, taken, left]
  split
  · rename_i empty
    exact absurd empty Nat.toDigits_ne_nil
  · rename_i same _
    cases same
    rw [Numeral.value_digits, Numeral.withSign_natAbs]
  · rename_i same _
    cases same

/-- The letter of a component is in capitals. -/
structure IsUnit (letter : Char) : Prop where
  noDigit : letter.isDigit = false
  capital : letter.toUpper = letter
  noBlank : Text.isBlank letter = false

/-- What is written of a component: nothing if it is zero. -/
def writtenComponent (n : Int32) : Option Int := if n = 0 then none else some n.toInt

/-- The text of a component is read as its number where nothing behind it is read as one of the same
unit. -/
theorem readComponent_componentText (isUnit : IsUnit unit) (n : Int32) {rest : List Char}
    (skipped : readComponent unit rest = (none, rest)) :
    readComponent unit (componentText n unit ++ rest) = (writtenComponent n, rest) := by
  unfold componentText writtenComponent
  by_cases zero : n = 0
  · simp only [zero, ↓reduceIte, List.nil_append, skipped]
  · simp only [zero, ↓reduceIte, List.append_assoc, List.singleton_append]
    rw [readComponent_signed unit isUnit.noDigit, if_pos isUnit.capital]

/-- The text of a component is left as it is by the reader for another unit. -/
theorem readComponent_componentText_of_ne (isUnit : IsUnit other) (different : other ≠ unit)
    (n : Int32) {rest : List Char} (skipped : readComponent unit rest = (none, rest)) :
    readComponent unit (componentText n other ++ rest) = (none, componentText n other ++ rest) := by
  unfold componentText
  by_cases zero : n = 0
  · simp only [zero, ↓reduceIte, List.nil_append, skipped]
  · simp only [zero, ↓reduceIte, List.append_assoc, List.singleton_append]
    rw [readComponent_signed unit isUnit.noDigit, if_neg (by rwa [isUnit.capital])]

theorem isUnit_years : IsUnit 'Y' := ⟨rfl, rfl, rfl⟩

theorem isUnit_months : IsUnit 'M' := ⟨rfl, rfl, rfl⟩

theorem isUnit_days : IsUnit 'D' := ⟨rfl, rfl, rfl⟩

/-- There are no blanks in the text of a component. -/
theorem isBlank_of_mem_componentText (isUnit : IsUnit unit) {n : Int32} {c : Char}
    (member : c ∈ componentText n unit) : Text.isBlank c = false := by
  unfold componentText at member
  split at member
  · cases member
  · rcases List.mem_append.mp member with numeral | letter
    · rcases Numeral.mem_signed numeral with rfl | digit
      · rfl
      · exact Text.isBlank_of_isDigit digit
    · rw [List.mem_singleton.mp letter]
      exact isUnit.noBlank

/-- The text of a period has no blanks. -/
theorem isBlank_of_mem_chars {p : Period} {c : Char} (member : c ∈ p.chars) :
    Text.isBlank c = false := by
  unfold chars at member
  split at member
  · simp only [List.mem_cons, List.not_mem_nil, or_false] at member
    rcases member with rfl | rfl | rfl <;> rfl
  · simp only [List.mem_cons, List.mem_append] at member
    rcases member with rfl | (years | months) | days
    · rfl
    · exact isBlank_of_mem_componentText isUnit_years years
    · exact isBlank_of_mem_componentText isUnit_months months
    · exact isBlank_of_mem_componentText isUnit_days days

/-- A component that is not written is zero. -/
theorem getD_writtenComponent (n : Int32) : (writtenComponent n).getD 0 = n.toInt := by
  unfold writtenComponent
  split
  · rename_i zero
    rw [zero]
    rfl
  · rfl

/-- A component is written exactly if it is not zero. -/
theorem isSome_writtenComponent (n : Int32) : (writtenComponent n).isSome = !(n == 0) := by
  unfold writtenComponent
  by_cases zero : n = 0 <;> simp [zero]

/-- The components that a period which is not zero is written with. -/
def written (p : Period) : Written where
  negative := false
  years := writtenComponent p.years
  months := writtenComponent p.months
  weeks := none
  days := writtenComponent p.days

/-- From the text of a period that is not zero its components are read. -/
theorem readWritten?_chars {p : Period} (nonzero : p.isZero = false) :
    readWritten? p.chars = some p.written := by
  have skipDays (unit : Char) (different : 'D' ≠ unit) :
      readComponent unit (componentText p.days 'D') = (none, componentText p.days 'D') := by
    simpa using readComponent_componentText_of_ne isUnit_days different p.days
      (readComponent_nil unit)
  have years := readComponent_componentText isUnit_years p.years
    (readComponent_componentText_of_ne isUnit_months (by decide) p.months
      (skipDays 'Y' (by decide)))
  have months := readComponent_componentText isUnit_months p.months (skipDays 'M' (by decide))
  have weeks := skipDays 'W' (by decide)
  have days := readComponent_componentText isUnit_days p.days (readComponent_nil 'D')
  rw [List.append_nil] at days
  have mark (rest : List Char) : Numeral.splitSign ('P' :: rest) = (false, 'P' :: rest) := rfl
  have capital : 'P'.toUpper = 'P' := rfl
  unfold readWritten? chars
  simp only [nonzero, Bool.false_eq_true, ↓reduceIte, List.append_assoc, mark, capital, years,
    months, weeks, days, List.isEmpty_nil]
  rfl

/-- A number of thirty-two bits is within the bounds. -/
theorem bounded?_toInt (n : Int32) : bounded? n.toInt = .ok n := by
  unfold bounded?
  rw [if_pos ⟨Int32.minValue_le_toInt n, Int32.toInt_le n⟩, Int32.ofInt_toInt]

/-- The components that are written make the period that they come from. -/
theorem toPeriod_written (p : Period) : p.written.toPeriod = .ok p := by
  have none : bounded? 0 = .ok 0 := bounded?_toInt 0
  have noDays : (0 : Int32).toInt = 0 := rfl
  unfold Written.toPeriod written
  simp only [getD_writtenComponent, Option.getD_none, none, noDays, bounded?_toInt, Int.zero_mul,
    Int.zero_add, ok_bind, Bool.false_eq_true, ↓reduceIte]
  rfl

/-- The text of a period that is not zero has a component. -/
theorem hasComponent_written {p : Period} (nonzero : p.isZero = false) :
    p.written.hasComponent = true := by
  unfold isZero at nonzero
  unfold Written.hasComponent written
  simp only [isSome_writtenComponent, Option.isSome_none, Bool.or_false]
  revert nonzero
  cases p.years == 0 <;> cases p.months == 0 <;> cases p.days == 0 <;> decide

/-- A period is read back from its characters. -/
theorem ofChars_chars (p : Period) : ofChars p.chars = .ok p := by
  by_cases zero : p.isZero = true
  · obtain ⟨years, months, days⟩ := p
    simp only [isZero, Bool.and_eq_true, beq_iff_eq] at zero
    obtain ⟨⟨rfl, rfl⟩, rfl⟩ := zero
    decide
  · have nonzero : p.isZero = false := Bool.not_eq_true _ ▸ zero
    unfold ofChars
    simp only [readWritten?_chars nonzero, hasComponent_written nonzero, ↓reduceIte,
      toPeriod_written]

/-- A period is read back from its text. -/
theorem ofText_text (p : Period) : ofText p.text = .ok p := by
  have trimmed : Text.trimChars p.chars = p.chars :=
    Text.trimChars_of_forall fun _ member => isBlank_of_mem_chars member
  rw [ofText, text, String.toList_ofList, trimmed, ofChars_chars]

end Period

end RecordQuery
