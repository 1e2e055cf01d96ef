import RecordQuery.Text.Like
import Mathlib.Data.List.Infix

/-! # Wildcard patterns

What a pattern stands for, character by character. The matcher answers for all tails of a text at
once; its first answer is the one for the whole text. -/

namespace RecordQuery.Text.Like

/-- A pattern stands for a text: `%` for any part of it, `_` for one character of any kind, and any
other character for itself. -/
inductive Stands : List Char → List Char → Prop where
  | nil : Stands [] []
  | any {pattern text tail : List Char} (suffix : tail <:+ text) (rest : Stands pattern tail) :
      Stands ('%' :: pattern) text
  | one {pattern text : List Char} {c : Char} (rest : Stands pattern text) :
      Stands ('_' :: pattern) (c :: text)
  | char {pattern text : List Char} {c : Char} (notAny : c ≠ '%') (notOne : c ≠ '_')
      (rest : Stands pattern text) : Stands (c :: pattern) (c :: text)

/-- The empty pattern stands for the empty text only. -/
theorem stands_nil_iff {text : List Char} : Stands [] text ↔ text = [] := by
  constructor
  · intro stands
    cases stands
    rfl
  · rintro rfl
    exact .nil

/-- A pattern after a percent sign stands for every text with a tail that the pattern stands for. -/
theorem stands_any_iff {pattern text : List Char} :
    Stands ('%' :: pattern) text ↔ ∃ tail, tail <:+ text ∧ Stands pattern tail := by
  constructor
  · intro stands
    cases stands with
    | any suffix rest => exact ⟨_, suffix, rest⟩
    | char notAny _ _ => exact absurd rfl notAny
  · rintro ⟨tail, suffix, rest⟩
    exact .any suffix rest

/-- Any other character of a pattern stands for one character, which is the same one unless the
pattern has an underscore. -/
theorem stands_cons_iff {c : Char} {pattern text : List Char} (notAny : c ≠ '%') :
    Stands (c :: pattern) text ↔
      ∃ d tail, text = d :: tail ∧ (c = '_' ∨ c = d) ∧ Stands pattern tail := by
  constructor
  · intro stands
    cases stands with
    | any => exact absurd rfl notAny
    | one rest => exact ⟨_, _, rfl, .inl rfl, rest⟩
    | char _ _ rest => exact ⟨_, _, rfl, .inr rfl, rest⟩
  · rintro ⟨d, tail, rfl, agree, rest⟩
    by_cases one : c = '_'
    · subst one
      exact .one rest
    · obtain rfl := agree.resolve_left one
      exact .char notAny one rest

/-! ## The matcher -/

theorem length_anyFromHere (flags : List Bool) : (anyFromHere flags).length = flags.length := by
  induction flags with
  | nil => rfl
  | cons flag rest ih => rw [anyFromHere, List.length_cons, List.length_cons, ih]

/-- The first answer tells whether any flag is set. -/
theorem headD_anyFromHere (flags : List Bool) : (anyFromHere flags).headD false = flags.any id := by
  induction flags with
  | nil => rfl
  | cons flag rest ih => rw [anyFromHere, List.headD_cons, List.any_cons, ih, id]

/-- There is an answer for the text and one for each of its tails. -/
theorem length_matchesTails (pattern text : List Char) :
    (matchesTails pattern text).length = text.length + 1 := by
  induction pattern with
  | nil => simp [matchesTails]
  | cons c pattern ih =>
    rw [matchesTails]
    split
    · rw [length_anyFromHere, ih]
    · simp [ih]

/-- The matcher has at least one answer, which is the one for the whole text. -/
theorem exists_matchesTails_eq_cons (pattern text : List Char) :
    ∃ others, matchesTails pattern text =
      (matchesTails pattern text).headD false :: others := by
  have answered : matchesTails pattern text ≠ [] := by
    rw [← List.length_pos_iff, length_matchesTails]
    exact Nat.succ_pos _
  obtain ⟨first, others, same⟩ := List.exists_cons_of_ne_nil answered
  exact ⟨others, by rw [same, List.headD_cons]⟩

/-- The answers for the tails of a text do not depend on what comes before them. -/
theorem matchesTails_cons (pattern : List Char) (d : Char) (text : List Char) :
    matchesTails pattern (d :: text) =
      (matchesTails pattern (d :: text)).headD false :: matchesTails pattern text := by
  induction pattern with
  | nil => rfl
  | cons c pattern ih =>
    rw [matchesTails, matchesTails, ih]
    split
    · rfl
    · obtain ⟨others, tails⟩ := exists_matchesTails_eq_cons pattern text
      rw [List.drop_one, List.tail_cons, tails]
      rfl

/-- Some answer is yes if the pattern stands for some tail. -/
theorem any_matchesTails {pattern : List Char}
    (stands : ∀ {text}, (matchesTails pattern text).headD false = true ↔ Stands pattern text)
    (text : List Char) :
    (matchesTails pattern text).any id = true ↔ ∃ tail, tail <:+ text ∧ Stands pattern tail := by
  induction text with
  | nil =>
    obtain ⟨others, answers⟩ := exists_matchesTails_eq_cons pattern []
    have single : others = [] := by
      have length := length_matchesTails pattern []
      rw [answers] at length
      simpa using length
    rw [answers, single]
    simp [← stands]
  | cons d text ih =>
    rw [matchesTails_cons, List.any_cons, id, Bool.or_eq_true, ih, stands]
    constructor
    · rintro (whole | ⟨tail, suffix, rest⟩)
      · exact ⟨d :: text, List.suffix_refl _, whole⟩
      · exact ⟨tail, suffix.trans (List.suffix_cons d text), rest⟩
    · rintro ⟨tail, suffix, rest⟩
      rcases List.suffix_cons_iff.mp suffix with rfl | suffix
      · exact .inl rest
      · exact .inr ⟨tail, suffix, rest⟩

/-- The first answer is that for the whole text. -/
theorem headD_matchesTails {pattern text : List Char} :
    (matchesTails pattern text).headD false = true ↔ Stands pattern text := by
  induction pattern generalizing text with
  | nil => cases text <;> simp [matchesTails, stands_nil_iff]
  | cons c pattern ih =>
    rw [matchesTails]
    split
    · rename_i isAny
      subst isAny
      rw [headD_anyFromHere, stands_any_iff, any_matchesTails ih]
    · rename_i notAny
      rw [stands_cons_iff notAny]
      cases text with
      | nil => simp
      | cons d text =>
        obtain ⟨others, answers⟩ := exists_matchesTails_eq_cons pattern text
        have first : (matchesTails pattern text).headD false = true ↔ Stands pattern text := ih
        rw [matchesTails_cons, List.drop_one, List.tail_cons, answers, List.zipWith_cons_cons,
          List.cons_append, List.headD_cons, Bool.and_eq_true, first]
        simp

/-- The matcher finds out whether a pattern stands for a text. -/
theorem isMatch_iff {pattern text : String} :
    isMatch pattern text = true ↔ Stands pattern.toList text.toList := headD_matchesTails

instance (pattern text : List Char) : Decidable (Stands pattern text) :=
  decidable_of_iff _ headD_matchesTails

/-! ## Patterns one after the other -/

/-- A pattern made of two stands for the texts made of one for each. -/
theorem stands_append_iff {first rest text : List Char} :
    Stands (first ++ rest) text ↔
      ∃ before after, text = before ++ after ∧ Stands first before ∧ Stands rest after := by
  induction first generalizing text with
  | nil => simp [stands_nil_iff]
  | cons c first ih =>
    rw [List.cons_append]
    by_cases isAny : c = '%'
    · subst isAny
      rw [stands_any_iff]
      constructor
      · rintro ⟨tail, ⟨skipped, rfl⟩, stands⟩
        obtain ⟨before, after, rfl, matched, further⟩ := ih.mp stands
        exact ⟨skipped ++ before, after, by simp, .any ⟨skipped, rfl⟩ matched, further⟩
      · rintro ⟨before, after, rfl, matched, further⟩
        obtain ⟨tail, ⟨skipped, rfl⟩, stands⟩ := stands_any_iff.mp matched
        exact ⟨tail ++ after, ⟨skipped, by simp⟩, ih.mpr ⟨tail, after, rfl, stands, further⟩⟩
    · rw [stands_cons_iff isAny]
      constructor
      · rintro ⟨d, tail, rfl, agree, stands⟩
        obtain ⟨before, after, rfl, matched, further⟩ := ih.mp stands
        exact ⟨d :: before, after, rfl,
          (stands_cons_iff isAny).mpr ⟨d, before, rfl, agree, matched⟩, further⟩
      · rintro ⟨before, after, rfl, matched, further⟩
        obtain ⟨d, tail, rfl, agree, stands⟩ := (stands_cons_iff isAny).mp matched
        exact ⟨d, tail ++ after, rfl, agree, ih.mpr ⟨tail, after, rfl, stands, further⟩⟩

/-- A `%` alone stands for every text. -/
theorem stands_percent (text : List Char) : Stands ['%'] text := .any List.nil_suffix .nil

/-! ## Texts as patterns -/

/-- The character stands for others in a pattern. -/
def IsWildcard (c : Char) : Prop := c = '%' ∨ c = '_'

/-- Every text is one that it stands for as a pattern. -/
theorem stands_self (text : List Char) : Stands text text := by
  induction text with
  | nil => exact .nil
  | cons c text ih =>
    by_cases isAny : c = '%'
    · subst isAny
      exact .any (List.suffix_cons _ _) ih
    · exact (stands_cons_iff isAny).mpr ⟨c, text, rfl, .inr rfl, ih⟩

/-- Without wildcards a pattern stands for itself only. -/
theorem stands_iff_eq {pattern text : List Char} (plain : ∀ c ∈ pattern, ¬ IsWildcard c) :
    Stands pattern text ↔ text = pattern := by
  constructor
  · intro stands
    induction stands with
    | nil => rfl
    | any => exact absurd (.inl rfl) (plain '%' List.mem_cons_self)
    | one => exact absurd (.inr rfl) (plain '_' List.mem_cons_self)
    | char _ _ _ ih => rw [ih fun c member => plain c (List.mem_cons_of_mem _ member)]
  · rintro rfl
    exact stands_self text

/-- Every pattern stands for a text without wildcards. -/
theorem exists_stands (pattern : List Char) :
    ∃ text, Stands pattern text ∧ ∀ c ∈ text, ¬ IsWildcard c := by
  induction pattern with
  | nil => exact ⟨[], .nil, by simp⟩
  | cons c pattern ih =>
    obtain ⟨text, stands, plain⟩ := ih
    by_cases isAny : c = '%'
    · subst isAny
      exact ⟨text, .any (List.suffix_refl _) stands, plain⟩
    · by_cases isOne : c = '_'
      · subst isOne
        have letter : ¬ IsWildcard 'a' := by simp [IsWildcard]
        exact ⟨'a' :: text, .one stands, List.forall_mem_cons.mpr ⟨letter, plain⟩⟩
      · have ordinary : ¬ IsWildcard c := not_or.mpr ⟨isAny, isOne⟩
        exact ⟨c :: text, .char isAny isOne stands, List.forall_mem_cons.mpr ⟨ordinary, plain⟩⟩

end RecordQuery.Text.Like
