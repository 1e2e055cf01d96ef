import Mathlib.Data.List.TakeWhile
import RecordQuery.Binary64.Shortest
import RecordQuery.Decimal.Basic
import RecordQuery.Proofs.Period
import RecordQuery.Text.Case

/-! # Texts of numbers

The text of a decimal tells its sign and its scale, so that decimals of one value are told apart by
their texts. Of floating point numbers that are equal only the two zeros have different texts.
Numerals stay as they are in upper case. -/

namespace RecordQuery

namespace Text

/-- Letters in lower case are the first characters that have an upper case. -/
theorem upperChar_of_lt {c : Char} (below : c.toNat < 97) : upperChar c = [c] := by
  have sequences : ∀ entry ∈ Case.upperSequences, 97 ≤ entry.1 := by decide +kernel
  have runs : ∀ run ∈ Case.upperRuns, 97 ≤ run.1 := by decide +kernel
  have noSequence : Case.upperSequences.find? (·.1 == c.toNat) = none := by
    refine List.find?_eq_none.mpr fun entry member same => ?_
    have above := sequences entry member
    rw [beq_iff_eq.mp same] at above
    exact absurd below (Nat.not_lt.mpr above)
  have noRun : Case.shift? Case.upperRuns c.toNat = none := by
    refine Option.map_eq_none_iff.mpr (List.find?_eq_none.mpr fun run member inside => ?_)
    have above := runs run member
    simp only [Bool.and_eq_true, decide_eq_true_eq] at inside
    omega
  rw [upperChar, noSequence, noRun]
  rfl

/-- A text without characters from the small letters on stays as it is in upper case. -/
theorem upper_of_forall {text : String} (each : ∀ c ∈ text.toList, c.toNat < 97) :
    upper text = text := by
  have same : upperChars text.toList = text.toList := by
    unfold upperChars
    generalize text.toList = cs at each
    induction cs with
    | nil => rfl
    | cons c rest ih =>
      obtain ⟨first, later⟩ := List.forall_mem_cons.mp each
      rw [List.flatMap_cons, upperChar_of_lt first, ih later, List.singleton_append]
  rw [upper, same, String.ofList_toList]

end Text

namespace Numeral

/-- Digits, the last ones of them behind a point if there is a scale. -/
inductive Pointed : Nat → List Char → Prop where
  | whole {digits : List Char} (nonempty : digits ≠ [])
      (each : ∀ c ∈ digits, c.isDigit = true) : Pointed 0 digits
  | point {scale : Nat} {digits places : List Char} (nonempty : digits ≠ [])
      (each : ∀ c ∈ digits, c.isDigit = true) (eachPlace : ∀ c ∈ places, c.isDigit = true)
      (count : places.length = scale) : Pointed scale (digits ++ '.' :: places)

/-- Digits with a point are written with as many places as the scale says. -/
theorem pointed_isPointed (n scale : Nat) : Pointed scale (pointed n scale) := by
  unfold pointed
  split
  · subst scale
    exact .whole Nat.toDigits_ne_nil fun c member => isDigit_of_mem_digits member
  · have long : scale < (padded (scale + 1) n).length := by
      rw [padded, List.length_leftpad]
      exact Nat.le_max_left _ _
    have each {c : Char} : c ∈ padded (scale + 1) n → c.isDigit = true := isDigit_of_mem_padded
    refine .point ?_ (fun c member => each (List.mem_of_mem_take member))
      (fun c member => each (List.mem_of_mem_drop member)) ?_
    · rw [← List.length_pos_iff, List.length_take]
      omega
    · rw [List.length_drop]
      omega

variable {scale : Nat} {cs : List Char}

theorem Pointed.exists_cons (pointed : Pointed scale cs) :
    ∃ first rest, cs = first :: rest ∧ first.isDigit = true := by
  cases pointed with
  | whole nonempty each | point nonempty each =>
    obtain ⟨first, rest, rfl⟩ := List.exists_cons_of_ne_nil nonempty
    exact ⟨first, _, rfl, each first List.mem_cons_self⟩

/-- Digits with a point are digits but for the point. -/
theorem Pointed.mem (pointed : Pointed scale cs) {c : Char} (member : c ∈ cs) :
    c = '.' ∨ c.isDigit = true := by
  cases pointed with
  | whole _ each => exact .inr (each c member)
  | point _ each eachPlace =>
    rcases List.mem_append.mp member with before | after
    · exact .inr (each c before)
    · exact (List.mem_cons.mp after).imp_right (eachPlace c)

/-- The scale is what stands behind the point. -/
theorem Pointed.scale_eq (pointed : Pointed scale cs) :
    scale = (cs.dropWhile Char.isDigit).length - 1 := by
  cases pointed with
  | whole _ each =>
    rw [List.dropWhile_eq_nil_iff.mpr each]
    rfl
  | point _ each _ count =>
    rw [List.dropWhile_append_of_pos each, ← count]
    rfl

end Numeral

namespace Decimal

/-- The text of a decimal is its sign and its digits with a point. -/
theorem toList_text (x : Decimal) : x.text.toList =
    (if x.isNegative then ['-'] else []) ++ Numeral.pointed x.magnitude x.scale := by
  rw [text, String.toList_append, String.toList_ofList]
  cases x.isNegative <;> rfl

/-- The sign and the digits are split off from the text of a decimal again. -/
theorem splitSign_text (x : Decimal) : Numeral.splitSign x.text.toList =
    (x.isNegative, Numeral.pointed x.magnitude x.scale) := by
  obtain ⟨first, rest, shape, digit⟩ := (Numeral.pointed_isPointed x.magnitude x.scale).exists_cons
  rw [toList_text, shape]
  cases x.isNegative with
  | true => rfl
  | false => exact Numeral.splitSign_of_isDigit digit rest

/-- The text of a decimal stays as it is in upper case. -/
theorem upper_text (x : Decimal) : Text.upper x.text = x.text := by
  refine Text.upper_of_forall fun c member => ?_
  rw [toList_text] at member
  rcases List.mem_append.mp member with sign | digit
  · split at sign
    · rw [List.mem_singleton.mp sign]
      decide
    · cases sign
  · rcases (Numeral.pointed_isPointed _ _).mem digit with rfl | digit
    · decide
    · exact (Text.toNat_of_isDigit digit).2.trans_lt (by decide)

theorem eq_of_coefficient {x y : Decimal} (sign : x.isNegative = y.isNegative)
    (scale : x.scale = y.scale) (coefficient : x.coefficient = y.coefficient) : x = y := by
  obtain ⟨negative, magnitude, _, _, _⟩ := x
  obtain ⟨_, other, _, _, _⟩ := y
  cases sign
  cases scale
  have same : magnitude = other := by
    unfold Decimal.coefficient Numeral.withSign at coefficient
    cases negative
    · exact Int.ofNat_inj.mp coefficient
    · exact Int.ofNat_inj.mp (Int.neg_inj.mp coefficient)
  cases same
  rfl

/-- Decimals of one value are told apart by their texts. -/
theorem eq_of_text {x y : Decimal} (equal : x.compareValues y = .eq) (texts : x.text = y.text) :
    x = y := by
  have split := x.splitSign_text
  rw [texts, y.splitSign_text, Prod.mk.injEq] at split
  obtain ⟨sign, pointed⟩ := split
  have scale : x.scale = y.scale := by
    rw [(Numeral.pointed_isPointed x.magnitude x.scale).scale_eq, ← pointed,
      ← (Numeral.pointed_isPointed y.magnitude y.scale).scale_eq]
  have power : (Nat.pow 10 y.scale : Int) ≠ 0 := by
    exact_mod_cast (Nat.pow_pos (by decide)).ne'
  refine eq_of_coefficient sign.symm scale ?_
  rw [compareValues, scale, Std.LawfulEqOrd.compare_eq_iff_eq] at equal
  exact Int.eq_of_mul_eq_mul_right power equal

end Decimal

namespace Binary64

/-- The text of a zero shows its sign. -/
theorem text_of_isZero {x : Binary64} (zero : x.isZero = true) :
    x.text = if x.isNegative then "-0" else "0" := by
  have magnitude : x.magnitude = 0 := beq_iff_eq.mp zero
  have number : x.isNaN = false := by
    rw [isNaN, magnitude]
    rfl
  have finite : x.isInfinite = false := by
    rw [isInfinite, magnitude]
    rfl
  simp only [text, number, finite, shortest, zero, Bool.false_eq_true, ↓reduceIte]
  cases x.isNegative <;> rfl

theorem eq_of_magnitude {x y : Binary64} (sign : x.isNegative = y.isNegative)
    (magnitude : x.magnitude = y.magnitude) : x = y := by
  obtain ⟨x⟩ := x
  obtain ⟨y⟩ := y
  have bound := x.toNat_lt
  have boundToo := y.toNat_lt
  have above : signWeight ≤ x.toNat ↔ signWeight ≤ y.toNat := decide_eq_decide.mp sign
  have below : x.toNat % signWeight = y.toNat % signWeight := magnitude
  rw [mk.injEq, ← UInt64.toNat_inj]
  unfold signWeight at above below
  omega

/-- Equal numbers are the same, except for zeros. -/
theorem eq_or_isZero_of_compare? {x y : Binary64} (equal : x.compare? y = some .eq) :
    x = y ∨ x.isZero = true ∧ y.isZero = true := by
  unfold compare? at equal
  split at equal
  · cases equal
  · rw [Option.some.injEq, Std.LawfulEqOrd.compare_eq_iff_eq] at equal
    unfold rank at equal
    cases sign : x.isNegative <;> cases signToo : y.isNegative <;>
      simp only [sign, signToo, Bool.false_eq_true, ↓reduceIte] at equal
    case false.false | true.true =>
      exact .inl (eq_of_magnitude (sign.trans signToo.symm) (by omega))
    -- A number that is not negative equals one that is only where both are zero.
    case false.true | true.false =>
      exact .inr ⟨beq_iff_eq.mpr (by omega), beq_iff_eq.mpr (by omega)⟩

/-- Equal numbers are told apart by their texts in upper case. -/
theorem eq_of_upper_text {x y : Binary64} (equal : x.compare? y = some .eq)
    (texts : Text.upper x.text = Text.upper y.text) : x = y := by
  rcases eq_or_isZero_of_compare? equal with same | ⟨zero, zeroToo⟩
  · exact same
  · rw [text_of_isZero zero, text_of_isZero zeroToo] at texts
    have differ : Text.upper "0" ≠ Text.upper "-0" := by decide +kernel
    refine eq_of_magnitude ?_ ((beq_iff_eq.mp zero).trans (beq_iff_eq.mp zeroToo).symm)
    cases sign : x.isNegative <;> cases signToo : y.isNegative <;>
      simp only [sign, signToo, Bool.false_eq_true, ↓reduceIte] at texts ⊢
    · exact absurd texts differ
    · exact absurd texts.symm differ

end Binary64

end RecordQuery
