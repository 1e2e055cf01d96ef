import RecordQuery.Proofs.Regex.Spans
import RecordQuery.Regex.Assembly

/-! # What assembled expressions match

Expressions put one after the other are brought into a simple form. It matches what the expressions
match one after the other. -/

namespace RecordQuery.Regex

variable {text : List Char}

/-- Expressions match the part of a text between two positions, one after the other. -/
def SpansEach (text : List Char) : List Regex → Nat → Nat → Prop
  | [], i, j => i = j
  | regex :: rest, i, k => ∃ j, Spans text regex i j ∧ SpansEach text rest j k

/-- Expressions in two lists match one after the other if there is a place between what the lists
match. -/
theorem spansEach_append_iff {first rest : List Regex} {i k : Nat} :
    SpansEach text (first ++ rest) i k ↔
      ∃ j, SpansEach text first i j ∧ SpansEach text rest j k := by
  induction first generalizing i with
  | nil => simp [SpansEach]
  | cons regex first ih =>
    constructor
    · rintro ⟨next, spans, others⟩
      obtain ⟨j, before, after⟩ := ih.mp others
      exact ⟨j, ⟨next, spans, before⟩, after⟩
    · rintro ⟨j, ⟨next, spans, before⟩, after⟩
      exact ⟨next, spans, ih.mpr ⟨j, before, after⟩⟩

/-- The parts of an expression match one after the other what the expression matches. -/
theorem spansEach_parts_iff {regex : Regex} {i k : Nat} :
    SpansEach text (parts regex) i k ↔ Spans text regex i k := by
  induction regex generalizing i with
  | empty => rfl
  | seq first rest _ ihRest =>
    rw [parts, SpansEach, Spans]
    simp only [ihRest]
  | _ => simp [parts, SpansEach]

/-- A text in two pieces stands in front if the second piece stands behind the first one. -/
theorem append_isPrefix_iff {before after cs : List Char} :
    before ++ after <+: cs ↔ before <+: cs ∧ after <+: cs.drop before.length := by
  constructor
  · rintro ⟨rest, rfl⟩
    rw [List.append_assoc, List.drop_left]
    exact ⟨List.prefix_append _ _, List.prefix_append _ _⟩
  · rintro ⟨⟨rest, rfl⟩, further⟩
    rw [List.drop_left] at further
    exact (List.prefix_append_right_inj before).mpr further

/-- Literals that follow each other match what their texts match together. -/
theorem spans_literal_append_iff {before after : List Char} {i k : Nat} :
    Spans text (literal (before ++ after)) i k ↔
      ∃ j, Spans text (literal before) i j ∧ Spans text (literal after) j k := by
  rw [Spans, append_isPrefix_iff, List.drop_drop, List.length_append]
  constructor
  · rintro ⟨⟨first, further⟩, rfl⟩
    exact ⟨i + before.length, ⟨first, rfl⟩, further, (Nat.add_assoc _ _ _).symm⟩
  · rintro ⟨j, ⟨first, rfl⟩, further, rfl⟩
    exact ⟨⟨first, further⟩, Nat.add_assoc _ _ _⟩

/-- Joining a literal to a literal behind it does not change what is matched. -/
theorem spansEach_consPart_iff {part : Regex} {rest : List Regex} {i k : Nat} :
    SpansEach text (consPart part rest) i k ↔ SpansEach text (part :: rest) i k := by
  unfold consPart
  split
  · rename_i before after rest
    constructor
    · rintro ⟨k, both, others⟩
      obtain ⟨j, first, second⟩ := spans_literal_append_iff.mp both
      exact ⟨j, first, k, second, others⟩
    · rintro ⟨j, first, k, second, others⟩
      exact ⟨k, spans_literal_append_iff.mpr ⟨j, first, second⟩, others⟩
  · rfl

/-- Joining all literals that follow each other does not change what is matched. -/
theorem spansEach_foldr_consPart_iff {regexes : List Regex} {i k : Nat} :
    SpansEach text (regexes.foldr consPart []) i k ↔ SpansEach text regexes i k := by
  induction regexes generalizing i with
  | nil => rfl
  | cons regex rest ih =>
    rw [List.foldr_cons, spansEach_consPart_iff, SpansEach, SpansEach]
    simp only [ih]

/-- An expression made of parts matches what they match one after the other. -/
theorem spans_ofParts_iff {regexes : List Regex} {i k : Nat} :
    Spans text (ofParts regexes) i k ↔ SpansEach text regexes i k := by
  induction regexes using ofParts.induct generalizing i with
  | case1 => rfl
  | case2 part => simp [ofParts, SpansEach]
  | case3 part rest several ih =>
    rw [ofParts, Spans, SpansEach]
    · simp only [ih]
    · exact several

/-- Expressions put one after the other match what they match one after the other. -/
theorem spans_concat_iff {regexes : List Regex} {i k : Nat} :
    Spans text (concat regexes) i k ↔ SpansEach text regexes i k := by
  rw [concat, spans_ofParts_iff, spansEach_foldr_consPart_iff]
  induction regexes generalizing i with
  | nil => rfl
  | cons regex rest ih =>
    rw [List.flatMap_cons, spansEach_append_iff, SpansEach]
    simp only [spansEach_parts_iff, ih]

end RecordQuery.Regex
