import RecordQuery.Proofs.Compilation.Filter
import RecordQuery.Proofs.Text.LikeExpression
import RecordQuery.Proofs.Value.Coercion
import RecordQuery.Query.Evaluation

/-! # Texts in texts

Conditions that compare texts with wildcard patterns, and the operators that make such patterns of
literals. The wildcards of a literal are kept, so that the condition asks for some text that the
literal stands for. -/

namespace RecordQuery

open Fallible Text.Like

namespace Predicate

section Texts

variable {schema : Schema} {root : Record} {assignment : Assignment} {subject pattern : Expr}
  {text likeness : String} (hasText : subject.value schema root assignment = .ok (.string text))
  (hasPattern : pattern.value schema root assignment = .ok (.string likeness))
include hasText hasPattern

/-- Two texts are compared by the matcher for wildcard patterns. -/
theorem truth_like_texts : (like subject pattern).truth schema root assignment =
    .ok (some (Text.Like.isMatch likeness text)) := by
  rw [truth, hasText, hasPattern]
  rfl

/-- A text is compared with a wildcard pattern by the meaning of the pattern, and any regular
expression that the pattern is written as and that can be stored has the same matches. -/
theorem truth_like : ∃ answer, (like subject pattern).truth schema root assignment =
      .ok (some answer) ∧
    (answer = true ↔ Stands likeness.toList text.toList) ∧
    ∀ regex, Regex.ofText? (expressionText likeness) = some regex →
      regex.isMatch text = answer :=
  ⟨_, truth_like_texts hasText hasPattern, isMatch_iff, isMatch_of_ofText?_expressionText⟩

end Texts

/-- The wildcard for one character stands for a line break, too. -/
theorem truth_like_twoLines : (Regex.ofText? (expressionText "a_(%")).isSome = true ∧
    ∃ answer, (like (.literal (.string "a\n(b)")) (.literal (.string "a_(%"))).truth .empty
        { entity := "Note", fields := [] } [] = .ok (some answer) ∧
      (answer = true ↔ Stands "a_(%".toList "a\n(b)".toList) ∧
      ∀ regex, Regex.ofText? (expressionText "a_(%") = some regex →
        regex.isMatch "a\n(b)" = answer := by
  have chars : "a_(%".toList = ['a', '_', '(', '%'] := rfl
  have short : expression "a_(%".toList =
      .seq (.assertion .textStart) (.seq (.literal ['a']) (.seq anyChar (.seq (.literal ['('])
        (.seq (.repetition anyChar 0 none) (.assertion .textEnd))))) := by
    rw [chars, expression]
    simp only [node, ofSet_any, List.map_cons, List.map_nil, Char.reduceEq, ↓reduceIte,
      List.cons_append, List.nil_append]
    rfl
  refine ⟨?_, truth_like rfl rfl⟩
  rw [ofText?_expressionText, short, if_pos (by decide +kernel)]
  rfl

example : Stands "a_(%".toList "a\n(b)".toList := by decide

end Predicate

namespace Occurrence

/-- A part of a text is where the occurrence says. -/
def Holds : Occurrence → List Char → List Char → Prop
  | start, part, text => part <+: text
  | finish, part, text => part <:+ text
  | anywhere, part, text => part <:+: text

/-- The operator that asks for the occurrence. -/
def operatorName : Occurrence → String
  | start => "startsWith"
  | finish => "endsWith"
  | anywhere => "contains"

theorem holds_self (occurrence : Occurrence) (text : List Char) : occurrence.Holds text text := by
  cases occurrence with
  | start => exact List.prefix_refl text
  | finish => exact List.suffix_refl text
  | anywhere => exact List.infix_refl text

/-- All characters of a text that occurs are characters of the text that it occurs in. -/
theorem Holds.subset {occurrence : Occurrence} {part text : List Char}
    (holds : occurrence.Holds part text) : part ⊆ text := by
  cases occurrence with
  | start => exact List.IsPrefix.subset holds
  | finish => exact List.IsSuffix.subset holds
  | anywhere => exact List.IsInfix.subset holds

/-- The pattern for a text stands for the texts with a part, where it has to occur, that the text
stands for. -/
theorem stands_pattern_iff (occurrence : Occurrence) (wanted : String) (text : List Char) :
    Stands (occurrence.pattern wanted).toList text ↔
      ∃ part, Stands wanted.toList part ∧ occurrence.Holds part text := by
  have percent : "%".toList = ['%'] := rfl
  cases occurrence with
  | start =>
    rw [pattern, String.toList_append, percent, stands_append_iff]
    constructor
    · rintro ⟨part, after, rfl, stands, -⟩
      exact ⟨part, stands, after, rfl⟩
    · rintro ⟨part, stands, after, rfl⟩
      exact ⟨part, after, rfl, stands, stands_percent after⟩
  | finish =>
    rw [pattern, String.toList_append, percent, List.singleton_append, stands_any_iff]
    constructor
    · rintro ⟨part, suffix, stands⟩
      exact ⟨part, stands, suffix⟩
    · rintro ⟨part, stands, suffix⟩
      exact ⟨part, suffix, stands⟩
  | anywhere =>
    rw [pattern, String.toList_append, String.toList_append, percent, List.append_assoc,
      List.singleton_append, stands_any_iff]
    simp only [stands_append_iff]
    constructor
    · rintro ⟨_, ⟨before, rfl⟩, part, after, rfl, stands, -⟩
      exact ⟨part, stands, before, after, List.append_assoc _ _ _⟩
    · rintro ⟨part, stands, before, after, rfl⟩
      exact ⟨part ++ after, ⟨before, (List.append_assoc _ _ _).symm⟩, part, after, rfl, stands,
        stands_percent after⟩

/-- A literal has to occur itself just if there is no wildcard in it. -/
theorem forall_exists_stands_iff (occurrence : Occurrence) (wanted : List Char) :
    (∀ text, (∃ part, Stands wanted part ∧ occurrence.Holds part text) ↔
        occurrence.Holds wanted text) ↔ ∀ c ∈ wanted, ¬ IsWildcard c := by
  constructor
  · intro exact c member
    obtain ⟨text, stands, plain⟩ := exists_stands wanted
    have occurs := (exact text).mp ⟨text, stands, occurrence.holds_self text⟩
    exact plain c (occurs.subset member)
  · intro plain text
    simp only [stands_iff_eq plain, exists_eq_left]

end Occurrence

/-- A literal that is converted for a field without further demands is compared as it is
converted. -/
theorem Comparand.pair_literal {d : Descriptor} (untrimmed : d.directives.trim = false)
    {value converted : Value} (coerced : Value.coerce d value = .ok converted) (name : String)
    (expr : Expr) : Comparand.pair name (.field expr d) (.literal value) =
      .ok (.expr expr, .literal converted) := by
  have unasked : trims (some d) = false := untrimmed
  have right : ofOperand name (some d) (.literal value) = .ok (.literal converted) := by
    rw [ofOperand, coerced]
    rfl
  have left : ofOperand name none (.field expr d) = .ok (.expr expr) := rfl
  have described : (Operand.field expr d).descriptor? = some d := rfl
  have undescribed : (Operand.literal value).descriptor? = none := rfl
  rw [pair, described, undescribed, left, right, unasked]
  rfl

namespace Filter

section Matching

variable {context after : Context} {path : String} {expr : Expr} {d : Descriptor}
  (found : context.field path = .ok ((expr, d), after)) (isText : d.kind = .scalar .string)
  (plain : d.directives = {}) (occurrence : Occurrence) (wanted : String)
include found isText plain

/-- The condition compares the field with the pattern for the text. -/
theorem predicate_matching_eq :
    (call occurrence.operatorName [.field path, .literal (.string wanted)]).predicate .builtin
        context = .ok (.like expr (.literal (.string (occurrence.pattern wanted))), after) := by
  have registered : Registry.builtin.get? occurrence.operatorName =
      some (.matching occurrence false) := by
    cases occurrence <;> rfl
  have args : operands .builtin [.field path, .literal (.string wanted)] context =
      .ok ([.field expr d, .literal (.string wanted)], after) := by
    have first : Context.fieldOperand path context = .ok (.field expr d, after) := by
      rw [Context.fieldOperand, found]
      rfl
    exact Compiler.bind_eq_ok_iff.mpr ⟨_, _, first, rfl⟩
  have kept : Value.coerce d (.string wanted) = .ok (.string wanted) :=
    Value.coerce_single isText plain trivial
  have pair := Comparand.pair_literal (by rw [plain]) kept occurrence.operatorName expr
  have evaluated : (Operator.matching occurrence false).evaluate occurrence.operatorName
      [.field expr d, .literal (.string wanted)] after =
        .ok (.predicate (.like expr (.literal (.string (occurrence.pattern wanted)))), after) := by
    simp only [Operator.matching, Operator.binary, Operator.reader, pair, ok_bind]
    rfl
  exact Compiler.bind_eq_ok_iff.mpr ⟨_, _, operand_call registered rfl args evaluated, rfl⟩

/-- A filter that asks whether a text occurs in a field of texts compiles to a condition on the
field. It holds just if something occurs that the text stands for as a pattern, which comes to the
text itself for the texts without wildcards and for no others. If the pattern that is made of the
text can be stored as a regular expression, then the expression has the same matches. -/
theorem predicate_matching :
    (∃ condition, (call occurrence.operatorName [.field path, .literal (.string wanted)]).predicate
        .builtin context = .ok (condition, after) ∧
      ∀ {schema root assignment text}, expr.value schema root assignment = .ok (.string text) →
        ∃ answer, condition.truth schema root assignment = .ok (some answer) ∧
          (answer = true ↔
            ∃ part, Stands wanted.toList part ∧ occurrence.Holds part text.toList) ∧
          ∀ regex, Regex.ofText? (expressionText (occurrence.pattern wanted)) = some regex →
            regex.isMatch text = answer) ∧
    ((∀ text, (∃ part, Stands wanted.toList part ∧ occurrence.Holds part text) ↔
        occurrence.Holds wanted.toList text) ↔ ∀ c ∈ wanted.toList, ¬ IsWildcard c) := by
  refine ⟨⟨_, predicate_matching_eq found isText plain occurrence wanted, ?_⟩,
    occurrence.forall_exists_stands_iff wanted.toList⟩
  intro schema root assignment text hasText
  refine ⟨_, Predicate.truth_like_texts hasText rfl, ?_, isMatch_of_ofText?_expressionText⟩
  rw [Text.Like.isMatch_iff, occurrence.stands_pattern_iff]

end Matching

end Filter

namespace Sample

/-- People are searched for, who have names. -/
def ofPeople : Context where
  schema :=
    { entities := [{ name := "Person", fields := [⟨"name", .scalar .string, some {}, false⟩] }]
      names_nodup := by decide }
  metadata := ⟨"Person", [("name", ⟨[], ⟨"name", "Person", .attr⟩, .scalar .string, {}⟩)]⟩

end Sample

namespace Filter

open Sample

/-- The percent sign of a literal is not looked for: a name without it passes for one that begins
with the literal, and so it does for the expression that the pattern is stored as. -/
theorem predicate_matching_percent :
    ofPeople.field "name" = .ok ((.attr (.root "Person") "name",
      ⟨[], ⟨"name", "Person", .attr⟩, .scalar .string, {}⟩), ofPeople) ∧
    (∃ condition, (call "startsWith" [.field "name", .literal (.string "50%")]).predicate .builtin
        ofPeople = .ok (condition, ofPeople) ∧
      condition.truth ofPeople.schema
        { entity := "Person", fields := [("name", .value (.string "50x"))] } [] =
          .ok (some true)) ∧
    (∃ regex, Regex.ofText? (expressionText (Occurrence.start.pattern "50%")) = some regex ∧
      regex.isMatch "50x" = true) ∧
    ¬ Occurrence.start.Holds "50%".toList "50x".toList := by
  have found : ofPeople.field "name" = .ok ((.attr (.root "Person") "name",
      ⟨[], ⟨"name", "Person", .attr⟩, .scalar .string, {}⟩), ofPeople) := rfl
  obtain ⟨⟨condition, compiled, holds⟩, -⟩ := predicate_matching found rfl rfl .start "50%"
  have named : (Expr.attr (.root "Person") "name").value ofPeople.schema
      { entity := "Person", fields := [("name", .value (.string "50x"))] } [] =
        .ok (.string "50x") := rfl
  obtain ⟨answer, truth, meaning, stored⟩ := holds named
  have stands : Stands "50%".toList "50x".toList := by decide
  obtain rfl := meaning.mpr ⟨_, stands, List.prefix_refl _⟩
  have chars : (Occurrence.start.pattern "50%").toList = ['5', '0', '%', '%'] := rfl
  have short : expression (Occurrence.start.pattern "50%").toList =
      .seq (.assertion .textStart) (.seq (.literal ['5', '0']) (.seq (.repetition anyChar 0 none)
        (.seq (.repetition anyChar 0 none) (.assertion .textEnd)))) := by
    rw [chars, expression]
    simp only [node, ofSet_any, List.map_cons, List.map_nil, Char.reduceEq, ↓reduceIte,
      List.cons_append, List.nil_append]
    rfl
  have read := ofText?_expressionText (Occurrence.start.pattern "50%")
  rw [short, if_pos (by decide +kernel)] at read
  exact ⟨found, ⟨condition, compiled, truth⟩, ⟨_, read, stored _ read⟩,
    by unfold Occurrence.Holds; decide⟩

end Filter

end RecordQuery
