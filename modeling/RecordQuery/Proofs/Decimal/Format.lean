import RecordQuery.Decimal.Format
import RecordQuery.Proofs.Decimal.Rounding
import RecordQuery.Proofs.Text.Digits

/-! # Decimals in the form of a pattern

A decimal in the form of a pattern denotes the decimal rounded half to even to the places that the
pattern allows. It has at most these places, at least those that the pattern asks for as long as the
coefficient can hold them, and behind these no zero at its end. -/

namespace RecordQuery

/-! ## Numbers with places -/

namespace Numeral

/-- A number as it is written in base ten, with places behind a point if it has any. -/
structure Fixed where
  negative : Bool
  whole : List Char
  places : List Char

namespace Fixed

/-- The digits before the point, and the places behind it if there are any. -/
def chars (f : Fixed) : List Char :=
  (if f.negative then ['-'] else []) ++
    (f.whole ++ if f.places = [] then [] else '.' :: f.places)

/-- There are digits before the point, and none but digits on both sides. -/
structure IsProper (f : Fixed) : Prop where
  nonempty : f.whole ≠ []
  wholeDigits : ∀ c ∈ f.whole, c.isDigit = true
  placeDigits : ∀ c ∈ f.places, c.isDigit = true

/-- The number without its sign and without its point. -/
def magnitude (f : Fixed) : ℕ := value (f.whole ++ f.places)

/-- The number that is written. -/
def number (f : Fixed) : ℚ := withSign f.negative f.magnitude / 10 ^ f.places.length

end Fixed

/-- A coefficient is written with as many places as the scale says. -/
theorem exists_pointed (coefficient scale : ℕ) : ∃ whole places,
    pointed coefficient scale = (whole ++ if places = [] then [] else '.' :: places) ∧
      whole ≠ [] ∧ (∀ c ∈ whole, c.isDigit = true) ∧ (∀ c ∈ places, c.isDigit = true) ∧
      places.length = scale ∧ value (whole ++ places) = coefficient := by
  unfold pointed
  split
  case isTrue none =>
    refine ⟨digits coefficient, [], by simp, Nat.toDigits_ne_nil,
      fun c member => isDigit_of_mem_digits member, by simp, none.symm, ?_⟩
    rw [List.append_nil, value_digits]
  case isFalse some =>
    have long : scale < (padded (scale + 1) coefficient).length := by
      rw [padded, List.length_leftpad]
      exact Nat.le_max_left _ _
    have each {c : Char} : c ∈ padded (scale + 1) coefficient → c.isDigit = true :=
      isDigit_of_mem_padded
    generalize padded_eq : padded (scale + 1) coefficient = all at *
    have count : (all.drop (all.length - scale)).length = scale := by
      rw [List.length_drop]
      omega
    have places : all.drop (all.length - scale) ≠ [] := by
      rw [← List.length_pos_iff]
      omega
    refine ⟨all.take (all.length - scale), all.drop (all.length - scale), by rw [if_neg places],
      ?_, fun c member => each (List.mem_of_mem_take member),
      fun c member => each (List.mem_of_mem_drop member), count, ?_⟩
    · rw [← List.length_pos_iff, List.length_take]
      omega
    · rw [List.take_append_drop, ← padded_eq, value_padded]

end Numeral

namespace Decimal

/-- The number that a decimal stands for. -/
def toRat (x : Decimal) : ℚ := x.coefficient / 10 ^ x.scale

/-! ## The steps to the coefficient that is shown -/

variable {greatest least coefficient scale : ℕ}

/-- A pattern does not ask for more places than it allows. -/
theorem Places.least_le_greatest (pattern : String) :
    (ofPattern pattern).least ≤ (ofPattern pattern).greatest := by
  refine List.countP_mono_left fun c _ zero => ?_
  rw [zero, Bool.or_true]

/-- Dropping a digit or more leaves a coefficient within its bound. -/
theorem roundHalfEven_lt {power : ℕ} (bounded : coefficient < coefficientBound)
    (large : 10 ≤ power) : roundHalfEven coefficient power < coefficientBound := by
  have rounded : roundHalfEven coefficient power ≤ coefficient / power + 1 := by
    unfold roundHalfEven
    dsimp only
    split
    · exact Nat.le_succ _
    · exact le_rfl
  have smaller : coefficient / power ≤ coefficient / 10 := Nat.div_le_div_left large (by decide)
  unfold coefficientBound at bounded ⊢
  omega

/-- Rounding leaves at most the places that are allowed, in which the number nearest to the decimal
is shown. -/
theorem roundTo_isNearest (bounded : coefficient < coefficientBound) (greatest scale : ℕ) :
    ∃ rounded kept, roundTo greatest coefficient scale = (rounded, kept) ∧ kept ≤ greatest ∧
      rounded < coefficientBound ∧
      IsNearestEven ((coefficient : ℚ) / 10 ^ scale * 10 ^ greatest)
        (rounded * 10 ^ (greatest - kept) : ℕ) := by
  have ten (n : ℕ) : (10 : ℚ) ^ n ≠ 0 := pow_ne_zero n (by norm_num)
  unfold roundTo
  rw [Nat.pow_eq]
  split
  case isTrue fewer =>
    refine ⟨_, greatest, rfl, le_rfl, roundHalfEven_lt bounded ?_, ?_⟩
    · exact Nat.le_self_pow (by omega) 10
    · have quotient : (coefficient : ℚ) / 10 ^ scale * 10 ^ greatest =
          coefficient / (10 ^ (scale - greatest) : ℕ) := by
        rw [← Nat.sub_add_cancel fewer.le, pow_add, Nat.add_sub_cancel]
        push_cast
        field_simp
      rw [quotient, Nat.sub_self, pow_zero, mul_one]
      exact isNearestEven_roundHalfEven coefficient (by positivity)
  case isFalse enough =>
    have most : scale ≤ greatest := Nat.le_of_not_lt enough
    refine ⟨coefficient, scale, rfl, most, bounded, ?_⟩
    have whole : (coefficient : ℚ) / 10 ^ scale * 10 ^ greatest =
        ((coefficient * 10 ^ (greatest - scale) : ℕ) : ℤ) := by
      rw [← Nat.sub_add_cancel most, pow_add, Nat.add_sub_cancel]
      push_cast
      field_simp
    rw [whole]
    exact isNearestEven_self _

/-- Zeros are dropped from the end until there is none, or no place is left. -/
theorem dropZeros_eq (coefficient scale : ℕ) : ∃ stripped kept,
    dropZeros coefficient scale = (stripped, kept) ∧ kept ≤ scale ∧
      coefficient = stripped * 10 ^ (scale - kept) ∧ (kept = 0 ∨ stripped % 10 ≠ 0) := by
  induction scale generalizing coefficient with
  | zero => exact ⟨coefficient, 0, rfl, le_rfl, by simp, .inl rfl⟩
  | succ scale ih =>
    rw [dropZeros]
    split
    case isTrue zero =>
      obtain ⟨stripped, kept, same, fewer, whole, ends⟩ := ih (coefficient / 10)
      refine ⟨stripped, kept, same, by omega, ?_, ends⟩
      rw [Nat.succ_sub fewer, pow_succ, ← mul_assoc, ← whole]
      omega
    case isFalse other =>
      exact ⟨coefficient, scale + 1, rfl, le_rfl, by simp, .inr other⟩

/-- Zeros are appended up to the given number exactly if the coefficient can hold them. -/
theorem appendZeros_eq (bounded : coefficient < coefficientBound) (scale count : ℕ) :
    ∃ zeros ≤ count,
      appendZeros coefficient scale count = (coefficient * 10 ^ zeros, scale + zeros) ∧
        (zeros = count ↔ coefficient * 10 ^ count < coefficientBound) := by
  induction count generalizing coefficient scale with
  | zero => exact ⟨0, le_rfl, by simp [appendZeros], by simpa using bounded⟩
  | succ count ih =>
    rw [appendZeros]
    split
    case isTrue fits =>
      obtain ⟨zeros, few, same, all⟩ := ih fits (scale + 1)
      refine ⟨zeros + 1, by omega, ?_, ?_⟩
      · rw [same, pow_succ', mul_assoc, Nat.add_assoc, Nat.add_comm 1]
      · rw [Nat.add_right_cancel_iff, all, pow_succ', mul_assoc]
    case isFalse full =>
      refine ⟨0, Nat.zero_le _, by simp, iff_of_false (by omega) fun fits => full ?_⟩
      refine lt_of_le_of_lt ?_ fits
      exact Nat.mul_le_mul_left _ (Nat.le_self_pow (by omega) 10)

/-- Zeros are filled in only up to the places that are asked for, and all of them exactly if the
coefficient can hold them. -/
theorem fillTo_eq (bounded : coefficient < coefficientBound) (few : least ≤ 28) (scale : ℕ) :
    ∃ zeros, fillTo least coefficient scale = (coefficient * 10 ^ zeros, scale + zeros) ∧
      (0 < zeros → scale + zeros ≤ least) ∧
        (least ≤ scale + zeros ↔ coefficient * 10 ^ (least - scale) < coefficientBound) := by
  unfold fillTo
  split
  case isTrue enough =>
    refine ⟨0, by simp, by simp, iff_of_true (by omega) ?_⟩
    rwa [Nat.sub_eq_zero_of_le enough, pow_zero, mul_one]
  case isFalse missing =>
    split
    case isTrue zero =>
      subst zero
      refine ⟨least - scale, ?_, fun _ => by omega, iff_of_true (by omega) ?_⟩
      · rw [Nat.min_eq_left few, zero_mul]
        congr 1
        omega
      · rwa [zero_mul]
    case isFalse nonzero =>
      obtain ⟨zeros, most, same, all⟩ := appendZeros_eq bounded scale (least - scale)
      refine ⟨zeros, same, fun _ => by omega, ?_⟩
      rw [← all]
      omega

/-- A coefficient can hold its number in more places exactly if that number is small enough. -/
theorem fits_iff (bounded : coefficient < coefficientBound) (within : scale ≤ greatest) :
    coefficient * 10 ^ (least - scale) < coefficientBound ↔
      coefficient * 10 ^ (greatest - scale) * 10 ^ least < coefficientBound * 10 ^ greatest := by
  have positive : 0 < 10 ^ greatest := by positivity
  rcases le_total scale least with more | enough
  · have same : coefficient * 10 ^ (greatest - scale) * 10 ^ least =
        coefficient * 10 ^ (least - scale) * 10 ^ greatest := by
      rw [mul_assoc, mul_assoc, ← pow_add, ← pow_add]
      congr 2
      omega
    rw [same, Nat.mul_lt_mul_right positive]
  · rw [Nat.sub_eq_zero_of_le enough, pow_zero, mul_one, mul_assoc, ← pow_add]
    refine iff_of_true bounded (lt_of_le_of_lt ?_ (Nat.mul_lt_mul_of_pos_right bounded positive))
    exact Nat.mul_le_mul_left _ (Nat.pow_le_pow_right (by decide) (by omega))

/-- What is shown of a decimal: the nearest whole number `n` of units in the last place that is
allowed, with places behind the point between the two bounds. -/
theorem shown_eq (x : Decimal) {places : Places} (few : places.greatest ≤ 28)
    (inOrder : places.least ≤ places.greatest) : ∃ coefficient scale n : ℕ,
      x.shown places = (coefficient, scale) ∧
      IsNearestEven ((x.magnitude : ℚ) / 10 ^ x.scale * 10 ^ places.greatest) n ∧
      coefficient * 10 ^ places.greatest = n * 10 ^ scale ∧ scale ≤ places.greatest ∧
      (places.least ≤ scale ↔ n * 10 ^ places.least < coefficientBound * 10 ^ places.greatest) ∧
      (places.least < scale → coefficient % 10 ≠ 0) := by
  obtain ⟨rounded, kept, round, most, bounded, nearest⟩ :=
    roundTo_isNearest x.magnitude_lt places.greatest x.scale
  obtain ⟨stripped, left, strip, fewer, whole, ends⟩ := dropZeros_eq rounded kept
  have boundedToo : stripped < coefficientBound :=
    lt_of_le_of_lt (whole ▸ Nat.le_mul_of_pos_right stripped (by positivity)) bounded
  obtain ⟨zeros, fill, upTo, all⟩ := fillTo_eq boundedToo (inOrder.trans few) left
  -- Dropping zeros changes the coefficient and the scale, but not the units of the last place.
  have units : rounded * 10 ^ (places.greatest - kept) =
      stripped * 10 ^ (places.greatest - left) := by
    rw [whole, mul_assoc, ← pow_add]
    congr 2
    omega
  refine ⟨stripped * 10 ^ zeros, left + zeros, stripped * 10 ^ (places.greatest - left), ?_,
    units ▸ nearest, ?_, ?_, ?_, ?_⟩
  · simp only [shown, round, strip, fill]
  · rw [mul_assoc, mul_assoc, ← pow_add, ← pow_add]
    congr 2
    omega
  · omega
  · rw [all]
    exact fits_iff boundedToo (fewer.trans most)
  · intro more
    have none : zeros = 0 := by omega
    subst none
    rw [pow_zero, mul_one]
    exact ends.resolve_left (by omega)

/-! ## The number that is written -/

/-- A number under a sign is its magnitude times one or minus one. -/
theorem withSign_cast (negative : Bool) (n : ℕ) :
    (Numeral.withSign negative n : ℚ) = (if negative then -1 else 1) * n := by
  cases negative <;> simp [Numeral.withSign]

theorem abs_withSign (negative : Bool) (n : ℕ) : |(Numeral.withSign negative n : ℚ)| = n := by
  rw [withSign_cast, abs_mul, Nat.abs_cast]
  cases negative <;> simp

/-- The sign before a number that is not zero is the one of the units that it is shown in. -/
theorem withSign_div_eq {n : ℕ} (units : coefficient * 10 ^ greatest = n * 10 ^ scale)
    (negative : Bool) :
    (Numeral.withSign (negative && coefficient != 0) coefficient : ℚ) / 10 ^ scale =
      Numeral.withSign negative n / 10 ^ greatest := by
  have cast : (coefficient : ℚ) * 10 ^ greatest = n * 10 ^ scale := by exact_mod_cast units
  rw [div_eq_div_iff (by positivity) (by positivity), withSign_cast, withSign_cast]
  rcases Nat.eq_zero_or_pos coefficient with rfl | positive
  · rw [mul_assoc _ (n : ℚ), ← cast]
    simp
  · have shown : (coefficient != 0) = true := bne_iff_ne.mpr positive.ne'
    rw [shown, Bool.and_true, mul_assoc, mul_assoc, cast]

/-- The decimal counted in units of the last place that is allowed. -/
theorem isNearestEven_toRat {x : Decimal} {n : ℕ}
    (nearest : IsNearestEven ((x.magnitude : ℚ) / 10 ^ x.scale * 10 ^ greatest) n) :
    IsNearestEven (x.toRat * 10 ^ greatest) (Numeral.withSign x.isNegative n) := by
  unfold toRat Decimal.coefficient
  cases x.isNegative with
  | false => exact nearest
  | true =>
    have opposite := nearest.neg
    rw [← neg_mul, ← neg_div] at opposite
    simpa [Numeral.withSign] using opposite

/-- A decimal in the form of a pattern that allows at most 28 places is written as a number: the one
number that the decimal is rounded to, a half to even. It has at most the places that are allowed.
It has those that are asked for exactly if in so many places the number has a coefficient of at most
96 bits, and if it has more of them, the last one is no zero. -/
theorem format_rounds (x : Decimal) (pattern : String)
    (few : (Places.ofPattern pattern).greatest ≤ 28) :
    ∃ f : Numeral.Fixed, (x.format pattern).toList = f.chars ∧ f.IsProper ∧
      (∀ r, RoundsTo (Places.ofPattern pattern).greatest x.toRat r ↔ r = f.number) ∧
      f.places.length ≤ (Places.ofPattern pattern).greatest ∧
      ((Places.ofPattern pattern).least ≤ f.places.length ↔
        |f.number| * 10 ^ (Places.ofPattern pattern).least < 2 ^ 96) ∧
      ((Places.ofPattern pattern).least < f.places.length → f.places.getLast? ≠ some '0') := by
  obtain ⟨coefficient, scale, n, shown, nearest, units, most, least, ends⟩ :=
    x.shown_eq few (Places.least_le_greatest pattern)
  obtain ⟨whole, behind, pointed, nonempty, digits, digitsToo, count, value⟩ :=
    Numeral.exists_pointed coefficient scale
  have number : Numeral.Fixed.number ⟨x.isNegative && coefficient != 0, whole, behind⟩ =
      Numeral.withSign x.isNegative n / 10 ^ (Places.ofPattern pattern).greatest := by
    rw [← withSign_div_eq units, Numeral.Fixed.number, Numeral.Fixed.magnitude, value, count]
  refine ⟨⟨x.isNegative && coefficient != 0, whole, behind⟩, ?_, ⟨nonempty, digits, digitsToo⟩,
    RoundsTo.iff_eq ⟨_, isNearestEven_toRat nearest, number⟩, count ▸ most, ?_, ?_⟩
  · rw [format, shown, String.toList_append, String.toList_ofList, pointed]
    dsimp only [Numeral.Fixed.chars]
    cases x.isNegative && coefficient != 0 <;> rfl
  · have size : (2 : ℚ) ^ 96 = coefficientBound := by norm_num [coefficientBound]
    rw [count, least, number, abs_div, abs_withSign, abs_of_pos (by positivity),
      div_mul_eq_mul_div, div_lt_iff₀ (by positivity), size]
    norm_cast
  -- A zero in the last place would make the coefficient a multiple of ten.
  · intro more zero
    have behindPoint : behind ≠ [] := by
      rintro rfl
      cases zero
    have multiple : Numeral.value (whole ++ behind) % 10 = 0 := by
      refine Numeral.value_mod_of_getLast? ?_
      rwa [List.getLast?_append_of_ne_nil whole behindPoint]
    exact ends (count ▸ more) (value ▸ multiple)

/-- A half is carried through the nines to the even neighbour, and one of its zeros is shown. -/
theorem format_rounds_carried :
    (Places.ofPattern "#.0#").greatest ≤ 28 ∧
      ∃ f : Numeral.Fixed, "-10.0".toList = f.chars ∧ f.IsProper ∧
        (∀ r, RoundsTo 2 (toRat ⟨true, 9995, 3, by decide, by decide⟩) r ↔ r = f.number) ∧
        f.places.length ≤ 2 ∧ (1 ≤ f.places.length ↔ |f.number| * 10 ^ 1 < 2 ^ 96) ∧
        (1 < f.places.length → f.places.getLast? ≠ some '0') := by
  have places : Places.ofPattern "#.0#" = ⟨1, 2⟩ := by decide
  have few : (Places.ofPattern "#.0#").greatest ≤ 28 := by decide
  have text : format ⟨true, 9995, 3, by decide, by decide⟩ "#.0#" = "-10.0" := by cbv
  have rounds := format_rounds ⟨true, 9995, 3, by decide, by decide⟩ "#.0#" few
  rw [text, places] at rounds
  exact ⟨few, rounds⟩

end Decimal

end RecordQuery
