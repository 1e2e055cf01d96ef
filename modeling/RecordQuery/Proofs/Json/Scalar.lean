import Mathlib.Data.List.TakeWhile
import Mathlib.Tactic.IntervalCases
import RecordQuery.Json.Reader
import RecordQuery.Json.Writer
import RecordQuery.Proofs.Text.Digits

/-! # Scalars that are read back

A text in quotation marks is read as the text that was quoted, whatever characters it has, and a
numeral as its number, if this is one of those that are kept exactly. -/

namespace RecordQuery

namespace Json

variable {rest : List Char}

/-! ## Texts -/

/-- The code of a control character is read back from its four digits. -/
theorem readHex?_hexCode {n : Nat} (control : n < 32) (rest : List Char) :
    readHex? (hexCode n ++ rest) = some (n, rest) := by
  interval_cases n <;> rfl

/-- The code of a control character is read as that character. -/
theorem readCode?_hexCode {n : Nat} (control : n < 32) (rest : List Char) :
    readCode? (hexCode n ++ rest) = some (some (Char.ofNat n), rest) := by
  have noPair : ¬ (0xD800 ≤ n ∧ n < 0xDC00) := by omega
  have noHalf : ¬ (0xD800 ≤ n ∧ n < 0xE000) := by omega
  simp only [readCode?, readHex?_hexCode control, Option.bind_eq_bind, Option.bind_some,
    if_neg noPair, characterOf?, if_neg noHalf]
  rfl

/-- The character of an escape comes before what is read behind it. -/
theorem readCharacters?_escape {c : Char} {escape more : List Char}
    (escaped : readEscape? escape = some (some c, more)) (fuel : Nat) :
    readCharacters? (fuel + 1) ('\\' :: escape) =
      (readCharacters? fuel more).map fun (cs, rest) => (some c :: cs, rest) := by
  rw [readCharacters?, if_neg (by decide), if_pos rfl, escaped]
  simp only [Option.bind_eq_bind, Option.bind_some]
  cases readCharacters? fuel more <;> rfl

/-- A character is read back from what is written for it. -/
theorem readCharacters?_escapeChar (c : Char) (fuel : Nat) (more : List Char) :
    readCharacters? (fuel + 1) (escapeChar c ++ more) =
      (readCharacters? fuel more).map fun (cs, rest) => (some c :: cs, rest) := by
  have ofCode {n : Nat} (code : c.toNat = n) : c = Char.ofNat n := by
    rw [← code, Char.ofNat_toNat]
  unfold escapeChar
  split
  case h_1 | h_2 | h_3 | h_4 | h_5 => exact readCharacters?_escape rfl fuel
  case h_6 noQuote noSlash _ _ _ =>
    split
    case isTrue code => exact ofCode code ▸ readCharacters?_escape rfl fuel
    case isFalse =>
      split
      case isTrue code => exact ofCode code ▸ readCharacters?_escape rfl fuel
      case isFalse =>
        split
        case isTrue control =>
          have escaped : readEscape? ('u' :: (hexCode c.toNat ++ more)) = some (some c, more) := by
            have code := readCode?_hexCode control more
            rwa [Char.ofNat_toNat] at code
          exact readCharacters?_escape escaped fuel
        case isFalse plain =>
          rw [List.singleton_append, readCharacters?, if_neg noQuote, if_neg noSlash, if_neg plain]
          cases readCharacters? fuel more <;> rfl

/-- Escaped characters up to a quotation mark are read as the characters. -/
theorem readCharacters?_flatMap {cs : List Char} {fuel : Nat} (enough : cs.length < fuel) :
    readCharacters? fuel (cs.flatMap escapeChar ++ '"' :: rest) = some (cs.map some, rest) := by
  induction cs generalizing fuel with
  | nil =>
    obtain ⟨fuel, rfl⟩ := Nat.exists_eq_succ_of_ne_zero (Nat.ne_of_gt enough)
    rfl
  | cons c cs ih =>
    obtain ⟨fuel, rfl⟩ := Nat.exists_eq_succ_of_ne_zero (Nat.ne_of_gt (Nat.zero_lt_of_lt enough))
    rw [List.flatMap_cons, List.append_assoc, readCharacters?_escapeChar,
      ih (by simpa using enough)]
    rfl

/-- Escaping makes no text shorter. -/
theorem length_le_flatMap_escapeChar (cs : List Char) :
    cs.length ≤ (cs.flatMap escapeChar).length := by
  induction cs with
  | nil => exact le_rfl
  | cons c cs ih =>
    have written : 0 < (escapeChar c).length := by
      unfold escapeChar
      split <;> (try split_ifs) <;> simp
    rw [List.flatMap_cons, List.length_append, List.length_cons]
    omega

/-- A text is read back from its quotation. -/
theorem readText?_escaped (text : String) (rest : List Char) :
    readText? (text.toList.flatMap escapeChar ++ '"' :: rest) = some (some text, rest) := by
  have enough : text.toList.length <
      (text.toList.flatMap escapeChar ++ '"' :: rest).length + 1 := by
    have long := length_le_flatMap_escapeChar text.toList
    rw [List.length_append]
    omega
  have whole (cs : List Char) : (cs.map some).mapM id = some cs := by
    induction cs with
    | nil => rfl
    | cons c cs ih => rw [List.map_cons, List.mapM_cons, ih]; rfl
  rw [readText?, readCharacters?_flatMap enough]
  simp [whole]

/-! ## Whole numbers -/

/-- Nothing that a number could go on with. -/
def EndsNumber (rest : List Char) : Prop :=
  ∀ c ∈ rest.head?, c.isDigit = false ∧ c ≠ '.' ∧ c ≠ 'e' ∧ c ≠ 'E'

/-- All digits of a number of at most 64 bits are taken. -/
theorem extend_eq {cs : List Char} {significand : Nat} (taken : Nat)
    (small : Nat.ofDigitChars 10 cs significand < 0x10000000000000000) :
    extend significand taken cs =
      (Nat.ofDigitChars 10 cs significand, taken + cs.length, 0) := by
  induction cs generalizing significand taken with
  | nil => rfl
  | cons c cs ih =>
    have prefixSmall : 10 * significand + (c.toNat - '0'.toNat) < 0x10000000000000000 := by
      refine lt_of_le_of_lt ?_ small
      rw [Nat.ofDigitChars_cons, Nat.ofDigitChars_eq_ofDigitChars_zero]
      exact Nat.le_add_right_of_le (Nat.le_mul_of_pos_left _ (by positivity))
    rw [extend, if_pos prefixSmall, ih _ small, Nat.ofDigitChars_cons, List.length_cons]
    congr 2
    omega

/-- Digits of at most 64 bits in front of what ends a number are read as their number. -/
theorem readUnsigned?_digits {n : Nat} (small : n < 0x10000000000000000) (ended : EndsNumber rest)
    (negative : Bool) :
    readUnsigned? negative (Numeral.digits n ++ rest) =
      some (some (integerOf negative n), rest) := by
  have span : Numeral.spanDigits (Numeral.digits n ++ rest) = (Numeral.digits n, rest) :=
    Numeral.spanDigits_append (fun c member => Numeral.isDigit_of_mem_digits member)
      fun c first => (ended c first).1
  have taken : extend 0 0 (Numeral.digits n) = (n, (Numeral.digits n).length, 0) := by
    have value : Nat.ofDigitChars 10 (Numeral.digits n) 0 = n := Numeral.value_digits n
    rw [extend_eq 0 (value.symm ▸ small), value, Nat.zero_add]
  have wellFormed : ((Numeral.digits n).isEmpty ||
      (Numeral.digits n).length != 1 && (Numeral.digits n).head? == some '0') = false := by
    rcases Nat.eq_zero_or_pos n with rfl | positive
    · rfl
    · have begun : (Numeral.digits n).isEmpty = false :=
        List.isEmpty_eq_false_iff.mpr Nat.toDigits_ne_nil
      rw [begun, beq_eq_false_iff_ne.mpr (Numeral.head?_digits_ne positive), Bool.and_false]
      rfl
  unfold readUnsigned?
  simp only [span, wellFormed, taken, Bool.false_eq_true, ↓reduceIte]
  split
  case h_1 => exact absurd rfl (ended '.' rfl).2.1
  case h_2 => exact absurd rfl (ended 'e' rfl).2.2.1
  case h_3 => exact absurd rfl (ended 'E' rfl).2.2.2
  case h_4 => rfl

/-- A whole number that is kept exactly is read back. -/
theorem readNumber?_signed {n : Int} (least : -0x8000000000000000 ≤ n)
    (most : n < 0x10000000000000000) (ended : EndsNumber rest) :
    readNumber? (Numeral.signed n ++ rest) = some (some (integer n), rest) := by
  unfold Numeral.signed
  split
  case isTrue negative =>
    have kept : ¬ (n.natAbs = 0 ∨ 0x8000000000000000 < n.natAbs) := by omega
    have same : -(n.natAbs : Int) = n := by omega
    rw [List.cons_append, readNumber?, readUnsigned?_digits (by omega) ended, integerOf,
      if_neg (by decide), if_neg kept, same]
  case isFalse positive =>
    obtain ⟨first, others, shape, digit⟩ := Numeral.exists_digits_eq_cons n.natAbs
    have noSign : first ≠ '-' := by
      rintro rfl
      cases digit
    have same : (n.natAbs : Int) = n := by omega
    have unsigned : readNumber? (Numeral.digits n.natAbs ++ rest) =
        readUnsigned? false (Numeral.digits n.natAbs ++ rest) := by
      rw [shape, List.cons_append, readNumber?.eq_def]
      split
      case h_1 begins => exact absurd (List.cons.inj begins).1 noSign
      case h_2 => rfl
    rw [unsigned, readUnsigned?_digits (by omega) ended, integerOf, if_pos (by decide), same]

end Json

end RecordQuery
