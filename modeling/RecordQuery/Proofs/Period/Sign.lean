import RecordQuery.Proofs.Period

/-! # Periods under a sign

What a written period stands for is computed step by step, and each step is refused if its result
does not have thirty-two bits. So the components of a period that is read are exactly the whole
numbers that are written. A minus sign in front turns all of them round; it is refused only where a
component has no opposite. -/

namespace RecordQuery

open Fallible

namespace Text

/-- Blanks behind a text are dropped, not the text in front of them. -/
theorem trimChars_cons {c : Char} (solid : isBlank c = false) (cs : List Char) :
    trimChars (c :: cs) = c :: trimEnd cs := by
  have start : trimStart (c :: cs) = c :: cs := List.dropWhile_cons_of_neg (by simp [solid])
  have finish : trimStart (cs.reverse ++ [c]) = trimStart cs.reverse ++ [c] := by
    unfold trimStart
    rw [List.dropWhile_append, List.dropWhile_cons_of_neg (by simp [solid])]
    split
    · rename_i empty
      rw [List.isEmpty_iff.mp empty, List.nil_append]
    · rfl
  rw [trimChars, start, trimEnd, List.reverse_cons, finish, List.reverse_append, trimEnd]
  rfl

end Text

namespace Period

/-! ## Numbers of thirty-two bits -/

/-- The number has thirty-two bits. -/
def Bounded (n : Int) : Prop := Int32.minValue.toInt ≤ n ∧ n ≤ Int32.maxValue.toInt

theorem least_eq : Int32.minValue.toInt = -2147483648 := rfl

theorem greatest_eq : Int32.maxValue.toInt = 2147483647 := rfl

/-- A whole number passes the check exactly as the number of thirty-two bits that it is. -/
theorem bounded?_eq_ok_iff {n : Int} {m : Int32} : bounded? n = .ok m ↔ m.toInt = n := by
  constructor
  · intro made
    unfold bounded? at made
    split at made
    · rename_i bounds
      cases made
      rw [least_eq, greatest_eq] at bounds
      exact Int32.toInt_ofInt_of_le (by omega) (by omega)
    · cases made
  · rintro rfl
    exact bounded?_toInt m

/-- A whole number is within the bounds exactly if it is one of thirty-two bits. -/
theorem bounded_iff {n : Int} : Bounded n ↔ ∃ m : Int32, m.toInt = n := by
  constructor
  · intro bounds
    exact ⟨Int32.ofInt n, bounded?_eq_ok_iff.mp (if_pos bounds)⟩
  · rintro ⟨m, rfl⟩
    exact ⟨Int32.minValue_le_toInt m, Int32.toInt_le m⟩

/-- All numbers of thirty-two bits but the least have an opposite. -/
theorem bounded_neg_iff {n : Int32} : Bounded (-n.toInt) ↔ n ≠ Int32.minValue := by
  have atLeast := Int32.minValue_le_toInt n
  have atMost := Int32.toInt_le n
  rw [Ne, ← Int32.toInt_inj, Bounded]
  rw [least_eq] at atLeast ⊢
  rw [greatest_eq] at atMost ⊢
  omega

/-! ## Components -/

namespace Written

variable {w : Written}

/-- The days that are written, weeks counted in. -/
def exactDays (w : Written) : Int := w.weeks.getD 0 * 7 + w.days.getD 0

/-- A number under the sign of the whole. -/
def under (w : Written) (n : Int) : Int := if w.negative then -n else n

/-- The components of the period are exactly those that are written. -/
structure Denotes (w : Written) (p : Period) : Prop where
  years : p.years.toInt = w.under (w.years.getD 0)
  months : p.months.toInt = w.under (w.months.getD 0)
  days : p.days.toInt = w.under w.exactDays

/-- All numbers on the way from the written form to its components have thirty-two bits. -/
structure Fits (w : Written) : Prop where
  weeks : Bounded (w.weeks.getD 0)
  plainDays : Bounded (w.days.getD 0)
  weekDays : Bounded (w.weeks.getD 0 * 7)
  days : Bounded w.exactDays
  years : Bounded (w.years.getD 0)
  months : Bounded (w.months.getD 0)
  signedYears : Bounded (w.under (w.years.getD 0))
  signedMonths : Bounded (w.under (w.months.getD 0))
  signedDays : Bounded (w.under w.exactDays)

/-- A written form is evaluated exactly, and only if all numbers on the way have thirty-two bits. -/
theorem toPeriod_eq_ok_iff {p : Period} : w.toPeriod = .ok p ↔ w.Fits ∧ w.Denotes p := by
  unfold toPeriod
  simp only [bind_eq_ok_iff, bounded?_eq_ok_iff, pure_eq_ok, Except.ok.injEq]
  constructor
  · rintro ⟨weeks, isWeeks, plainDays, isPlainDays, weekDays, isWeekDays, days, isDays, years,
      isYears, months, isMonths, signedYears, isSignedYears, signedMonths, isSignedMonths,
      signedDays, isSignedDays, rfl⟩
    -- The numbers on the way are exact, so that the days are those that are counted.
    have exact : days.toInt = w.exactDays := by
      rw [isDays, isWeekDays, isWeeks, isPlainDays, exactDays]
    rw [isYears] at isSignedYears
    rw [isMonths] at isSignedMonths
    rw [exact] at isSignedDays
    rw [isWeeks] at isWeekDays
    refine ⟨?_, isSignedYears, isSignedMonths, isSignedDays⟩
    constructor <;> exact bounded_iff.mpr ⟨_, ‹_›⟩
  · rintro ⟨fits, denotes⟩
    obtain ⟨weeks, isWeeks⟩ := bounded_iff.mp fits.weeks
    obtain ⟨plainDays, isPlainDays⟩ := bounded_iff.mp fits.plainDays
    obtain ⟨weekDays, isWeekDays⟩ := bounded_iff.mp fits.weekDays
    obtain ⟨days, isDays⟩ := bounded_iff.mp fits.days
    obtain ⟨years, isYears⟩ := bounded_iff.mp fits.years
    obtain ⟨months, isMonths⟩ := bounded_iff.mp fits.months
    refine ⟨weeks, isWeeks, plainDays, isPlainDays, weekDays, by rw [isWeekDays, isWeeks], days,
      by rw [isDays, isWeekDays, isPlainDays, exactDays], years, isYears, months, isMonths, p.years,
      ?_, p.months, ?_, p.days, ?_, rfl⟩
    · rw [isYears]
      exact denotes.years
    · rw [isMonths]
      exact denotes.months
    · rw [isDays]
      exact denotes.days

/-- A written form that is refused has a number out of range on the way. -/
theorem toPeriod_eq_outOfRange (refused : ∀ p, w.toPeriod ≠ .ok p) :
    w.toPeriod = .error .outOfRange := by
  have bounded (n : Int) : Avoids (· ≠ Problem.outOfRange) (bounded? n) := by
    unfold bounded?
    split <;> simp
  have avoids : Avoids (· ≠ Problem.outOfRange) w.toPeriod := by
    unfold toPeriod
    exact (bounded _).bind fun _ => (bounded _).bind fun _ => (bounded _).bind fun _ =>
      (bounded _).bind fun _ => (bounded _).bind fun _ => (bounded _).bind fun _ =>
        (bounded _).bind fun _ => (bounded _).bind fun _ => (bounded _).bind fun _ => avoids_ok _
  cases evaluated : w.toPeriod with
  | ok p => exact absurd evaluated (refused p)
  | error problem => rw [not_not.mp (avoids problem evaluated)]

end Written

/-- A text is read as a period exactly if it has the form of one, has a component, and no number on
the way to the components is out of range; the components are those that are written. -/
theorem ofChars_eq_ok_iff {cs : List Char} {p : Period} : ofChars cs = .ok p ↔
    ∃ w, readWritten? cs = some w ∧ w.hasComponent = true ∧ w.Fits ∧ w.Denotes p := by
  unfold ofChars
  cases readWritten? cs with
  | none => simp
  | some w => cases given : w.hasComponent <;> simp [given, Written.toPeriod_eq_ok_iff]

/-! ## A minus sign in front -/

/-- The written form under a minus sign. -/
def Written.minus (w : Written) : Written := { w with negative := true }

/-- The components of the one period are the opposites of those of the other. -/
structure IsOpposite (opposite p : Period) : Prop where
  years : opposite.years.toInt = -p.years.toInt
  months : opposite.months.toInt = -p.months.toInt
  days : opposite.days.toInt = -p.days.toInt

/-- Some component is the least number of thirty-two bits. -/
def HasLeast (p : Period) : Prop :=
  p.years = Int32.minValue ∨ p.months = Int32.minValue ∨ p.days = Int32.minValue

/-- A text without a sign, which starts with the mark of periods. -/
inductive Marked : List Char → Prop where
  | capital {cs : List Char} : Marked ('P' :: cs)
  | small {cs : List Char} : Marked ('p' :: cs)

variable {cs : List Char} {w : Written} {p : Period}

/-- Trimming keeps the mark of a period, with a minus sign in front of it or without. -/
theorem Marked.trimChars (marked : Marked cs) :
    Marked (Text.trimChars cs) ∧ Text.trimChars ('-' :: cs) = '-' :: Text.trimChars cs := by
  cases marked <;>
  · refine ⟨?_, ?_⟩
    · rw [Text.trimChars_cons (by rfl)]
      constructor
    · rw [Text.trimChars_cons (by rfl), Text.trimChars, Text.trimStart,
        List.dropWhile_cons_of_neg (by decide)]

/-- Reads the components behind the mark of a period, under a sign that has been read before. -/
def readBehindMark? (negative : Bool) (cs : List Char) : Option Written :=
  let (years, cs) := readComponent 'Y' cs
  let (months, cs) := readComponent 'M' cs
  let (weeks, cs) := readComponent 'W' cs
  let (days, cs) := readComponent 'D' cs
  if cs.isEmpty then some { negative, years, months, weeks, days } else none

/-- What is read behind the mark has the sign that was read in front of it. -/
theorem negative_of_readBehindMark? {negative : Bool}
    (written : readBehindMark? negative cs = some w) : w.negative = negative := by
  unfold readBehindMark? at written
  dsimp only at written
  split at written
  · cases written
    rfl
  · cases written

/-- Under a minus sign the same components are read as without one. -/
theorem readBehindMark?_true (cs : List Char) :
    readBehindMark? true cs = (readBehindMark? false cs).map Written.minus := by
  unfold readBehindMark?
  dsimp only
  split <;> rfl

/-- With or without a minus sign in front the same is read behind the mark. -/
theorem Marked.readWritten? (marked : Marked cs) : ∃ rest,
    Period.readWritten? cs = readBehindMark? false rest ∧
      Period.readWritten? ('-' :: cs) = readBehindMark? true rest := by
  cases marked <;> exact ⟨_, rfl, rfl⟩

/-- Under a minus sign a written form still fits exactly if no component is the least number. -/
theorem Written.fits_minus_iff (positive : w.negative = false) (fits : w.Fits)
    (denotes : w.Denotes p) : w.minus.Fits ↔ ¬ p.HasLeast := by
  have plain (n : Int) : w.under n = n := by simp [under, positive]
  have minus (n : Int) : w.minus.under n = -n := by simp [under, Written.minus]
  obtain ⟨years, months, days⟩ := denotes
  rw [plain] at years months days
  have signs : ¬ p.HasLeast ↔ Bounded (w.minus.under (w.years.getD 0)) ∧
      Bounded (w.minus.under (w.months.getD 0)) ∧ Bounded (w.minus.under w.exactDays) := by
    rw [minus, minus, minus, ← years, ← months, ← days, bounded_neg_iff, bounded_neg_iff,
      bounded_neg_iff, HasLeast, not_or, not_or]
  rw [signs]
  constructor
  · exact fun fitsToo => ⟨fitsToo.signedYears, fitsToo.signedMonths, fitsToo.signedDays⟩
  · rintro ⟨signedYears, signedMonths, signedDays⟩
    exact { fits with signedYears, signedMonths, signedDays }

/-- Under a minus sign a written form denotes the opposites. -/
theorem Written.denotes_minus_iff (positive : w.negative = false) (denotes : w.Denotes p)
    {opposite : Period} : w.minus.Denotes opposite ↔ opposite.IsOpposite p := by
  have plain (n : Int) : w.under n = n := by simp [under, positive]
  have minus (n : Int) : w.minus.under n = -n := by simp [under, Written.minus]
  obtain ⟨years, months, days⟩ := denotes
  rw [plain] at years months days
  constructor
  · rintro ⟨yearsToo, monthsToo, daysToo⟩
    rw [minus] at yearsToo monthsToo daysToo
    exact ⟨years ▸ yearsToo, months ▸ monthsToo, days ▸ daysToo⟩
  · rintro ⟨yearsToo, monthsToo, daysToo⟩
    constructor
    · rw [minus, yearsToo, years]; rfl
    · rw [minus, monthsToo, months]; rfl
    · rw [minus, daysToo, days]; rfl

/-- A minus sign in front of a period that is read turns the components round, or the text is
refused because one of them is the least number. -/
theorem ofChars_minus (marked : Marked cs) (made : ofChars cs = .ok p) :
    (∀ opposite, ofChars ('-' :: cs) = .ok opposite ↔ ¬ p.HasLeast ∧ opposite.IsOpposite p) ∧
      (p.HasLeast → ofChars ('-' :: cs) = .error .outOfRange) := by
  obtain ⟨w, written, given, fits, denotes⟩ := ofChars_eq_ok_iff.mp made
  obtain ⟨rest, same, under⟩ := marked.readWritten?
  have positive : w.negative = false := negative_of_readBehindMark? (same ▸ written)
  have writtenToo : readWritten? ('-' :: cs) = some w.minus := by
    rw [under, readBehindMark?_true, ← same, written, Option.map_some]
  have evaluated : ofChars ('-' :: cs) = w.minus.toPeriod := by
    unfold ofChars
    rw [writtenToo]
    exact if_pos given
  have iff (opposite : Period) :
      w.minus.toPeriod = .ok opposite ↔ ¬ p.HasLeast ∧ opposite.IsOpposite p := by
    rw [Written.toPeriod_eq_ok_iff, Written.fits_minus_iff positive fits denotes,
      Written.denotes_minus_iff positive denotes]
  rw [evaluated]
  refine ⟨iff, fun least => Written.toPeriod_eq_outOfRange fun opposite made => ?_⟩
  exact ((iff opposite).mp made).1 least

/-- A period without a least component has an opposite. -/
theorem exists_isOpposite (p : Period) (noLeast : ¬ p.HasLeast) :
    ∃ opposite : Period, opposite.IsOpposite p := by
  rw [HasLeast, not_or, not_or] at noLeast
  obtain ⟨years, isYears⟩ := bounded_iff.mp (bounded_neg_iff.mpr noLeast.1)
  obtain ⟨months, isMonths⟩ := bounded_iff.mp (bounded_neg_iff.mpr noLeast.2.1)
  obtain ⟨days, isDays⟩ := bounded_iff.mp (bounded_neg_iff.mpr noLeast.2.2)
  exact ⟨⟨years, months, days⟩, isYears, isMonths, isDays⟩

/-- A period is read back from its text, and a text is read only if all numbers on the way to the
components have thirty-two bits: the components are then exactly those that are written. Where a
text starts with the mark of periods, a minus sign in front of it turns all components round; this
is refused exactly if one of them is the least number. -/
theorem reads_under_minus :
    (∀ p : Period, ofText p.text = .ok p) ∧
    (∀ (text : String) (p : Period), ofText text = .ok p ↔
      ∃ w, readWritten? (Text.trimChars text.toList) = some w ∧ w.hasComponent = true ∧
        w.Fits ∧ w.Denotes p) ∧
    ∀ (text : String) (p : Period), Marked text.toList → ofText text = .ok p →
      (¬ p.HasLeast → ∃ opposite, ofText ("-" ++ text) = .ok opposite ∧ opposite.IsOpposite p) ∧
      (p.HasLeast → ofText ("-" ++ text) = .error .outOfRange) := by
  refine ⟨ofText_text, fun text p => ofChars_eq_ok_iff, fun text p marked made => ?_⟩
  obtain ⟨markedToo, signed⟩ := marked.trimChars
  have under : ofText ("-" ++ text) = ofChars ('-' :: Text.trimChars text.toList) := by
    rw [ofText, String.toList_append, ← signed]
    rfl
  obtain ⟨turns, refuses⟩ := ofChars_minus markedToo made
  rw [under]
  refine ⟨fun noLeast => ?_, refuses⟩
  obtain ⟨opposite, isOpposite⟩ := exists_isOpposite p noLeast
  exact ⟨opposite, (turns opposite).mpr ⟨noLeast, isOpposite⟩, isOpposite⟩

/-- The days of two weeks less a day are turned round; the least number of days has no opposite. -/
theorem reads_under_minus_days :
    (∃ opposite, ofText "-p2W-1d " = .ok opposite ∧ opposite.IsOpposite ⟨0, 0, 13⟩) ∧
      ofText "-P-2147483648D" = .error .outOfRange := by
  obtain ⟨-, -, under⟩ := reads_under_minus
  refine ⟨?_, ?_⟩
  · have noLeast : ¬ HasLeast ⟨0, 0, 13⟩ := by simp [HasLeast]; decide
    exact (under "p2W-1d " ⟨0, 0, 13⟩ .small (by decide)).1 noLeast
  · exact (under "P-2147483648D" ⟨0, 0, Int32.minValue⟩ .capital (by decide)).2 (.inr (.inr rfl))

end Period

end RecordQuery
