import RecordQuery.Proofs.Operator.Condition
import RecordQuery.Proofs.Operator.Uniformity
import RecordQuery.Proofs.Truth

/-! # Ranges

A range is the conjunction of two comparisons with its bounds, except that a bound alone cannot ask
for blanks to be ignored. -/

namespace RecordQuery

open Fallible

/-- The operand without the demand that blanks around texts are ignored. -/
def Operand.untrimmed : Operand → Operand
  | .field e d => .field e { d with directives.trim := false }
  | other => other

namespace Operand

variable {operand : Operand} {against : Option Descriptor}

/-- An operand whose demand for trimming is taken away does not ask for it. -/
theorem trims_untrimmed (operand : Operand) : operand.untrimmed.trims = false := by
  cases operand <;> rfl

/-- Taking away the demand for trimming does not change what an operand is compared as. -/
theorem comparesAs_untrimmed {comparand : Comparand} :
    operand.untrimmed.ComparesAs against comparand ↔ operand.ComparesAs against comparand := by
  cases operand with
  | field e d =>
    have untrimmed : (field e d).untrimmed.StandsFor e := .field
    rw [untrimmed.comparesAs_iff, StandsFor.field.comparesAs_iff]
  | _ => rfl

end Operand

namespace Predicate

variable {schema : Schema} {root : Record} {assignment : Assignment}

/-- A range is two comparisons in one. -/
theorem between_equivalent (subject lower upper : Expr) : (between subject lower upper).Equivalent
    (conjunction [.compare .atLeast subject lower, .compare .atMost subject upper]) := by
  intro schema root assignment
  cases ofSubject : subject.value schema root assignment with
  | error fault => simp [truth, truths, ofSubject]
  | ok value =>
    cases ofLower : lower.value schema root assignment with
    | error fault => simp [truth, truths, ofSubject, ofLower]
    | ok least =>
      cases ofUpper : upper.value schema root assignment with
      | error fault => simp [truth, truths, ofSubject, ofLower, ofUpper]
      | ok most =>
        simp [truth, truths, ofSubject, ofLower, ofUpper, Value.isBetween, Truth.all_pair]

end Predicate

namespace Registry

variable {context : Context} {condition : Predicate} {subject lower upper : Operand} {e : Expr}

theorem get?_gte : builtin.get? "gte" = some (.ordering .atLeast) := rfl

theorem get?_lte : builtin.get? "lte" = some (.ordering .atMost) := rfl

/-- A comparison with a bound trims both sides if one of them asks for it. -/
theorem makes_comparison_iff {name : String} {comparison : Comparison}
    (registered : builtin.get? name = some (.ordering comparison))
    (stands : subject.StandsFor e) {bound : Operand} :
    builtin.Makes context name [subject, bound] condition ↔ ∃ comparand,
      bound.ComparesAs subject.descriptor? comparand ∧
        condition = .compare comparison
          ((Comparand.expr e).trimIf (subject.trims || bound.trims)).toExpr
          (comparand.trimIf (subject.trims || bound.trims)).toExpr :=
  makes_pair_iff (fun one two => .compare comparison one.toExpr two.toExpr) registered stands

/-- A range trims all of its sides if the subject asks for it. -/
theorem makes_between_iff (stands : subject.StandsFor e) :
    builtin.Makes context "between" [subject, lower, upper] condition ↔ ∃ least most,
      lower.ComparesAs subject.descriptor? least ∧ upper.ComparesAs subject.descriptor? most ∧
        condition = .between ((Comparand.expr e).trimIf subject.trims).toExpr
          (least.trimIf subject.trims).toExpr (most.trimIf subject.trims).toExpr := by
  rw [makes_reader_iff rfl]
  simp only [Operator.bounds_of_two, stands.requireSubject, ok_bind, bind_eq_ok_iff,
    Comparand.ofOperand_eq_ok_iff, pure_eq_ok, Except.ok.injEq, Operand.predicate.injEq,
    stands.comparesAs_iff]
  constructor
  · rintro ⟨_, ⟨_, rfl, rfl⟩, _, ⟨least, low, rfl⟩, _, ⟨most, high, rfl⟩, rfl⟩
    exact ⟨least, most, low, high, rfl⟩
  · rintro ⟨least, most, low, high, rfl⟩
    exact ⟨_, ⟨_, rfl, rfl⟩, _, ⟨least, low, rfl⟩, _, ⟨most, high, rfl⟩, rfl⟩

/-- A range is the conjunction of comparisons with bounds that are compared as its own bounds and do
not ask for more blanks to be ignored than the subject does. -/
theorem equivalent_of_makes_between (stands : subject.StandsFor e) {below above : Operand}
    (comparesBelow : ∀ comparand, below.ComparesAs subject.descriptor? comparand →
      lower.ComparesAs subject.descriptor? comparand)
    (comparesAbove : ∀ comparand, above.ComparesAs subject.descriptor? comparand →
      upper.ComparesAs subject.descriptor? comparand)
    (trimsBelow : (subject.trims || below.trims) = subject.trims)
    (trimsAbove : (subject.trims || above.trims) = subject.trims) {range least most : Predicate}
    (made : builtin.Makes context "between" [subject, lower, upper] range)
    (madeLeast : builtin.Makes context "gte" [subject, below] least)
    (madeMost : builtin.Makes context "lte" [subject, above] most) :
    range.Equivalent (.conjunction [least, most]) := by
  obtain ⟨low, high, comparesLow, comparesHigh, rfl⟩ := (makes_between_iff stands).mp made
  obtain ⟨_, isLow, rfl⟩ := (makes_comparison_iff get?_gte stands).mp madeLeast
  obtain ⟨_, isHigh, rfl⟩ := (makes_comparison_iff get?_lte stands).mp madeMost
  rw [comparesLow.unique (comparesBelow _ isLow), comparesHigh.unique (comparesAbove _ isHigh),
    trimsBelow, trimsAbove]
  exact Predicate.between_equivalent _ _ _

/-- A list of two bounds is the same as the two bounds. -/
theorem makes_between_list_iff {low high : Value} :
    builtin.Makes context "between" [subject, .literal (.list [low, high])] condition ↔
      builtin.Makes context "between" [subject, .literal low, .literal high] condition := by
  have list : Operator.bounds "between" [.literal (.list [low, high])] =
      .ok (.literal low, .literal high) := rfl
  rw [makes_reader_iff rfl, makes_reader_iff rfl]
  simp only [list, Operator.bounds_of_two]

/-- A range is made of a subject and two bounds just if both comparisons are. It is the conjunction
of the comparisons with the bounds if these ask for no blanks to be ignored or the subject does,
too; in general the demand of the bounds does not count. -/
theorem makes_between (stands : subject.StandsFor e) (lower upper : Operand) (context : Context) :
    ((∃ range, builtin.Makes context "between" [subject, lower, upper] range) ↔
      (∃ least, builtin.Makes context "gte" [subject, lower] least) ∧
        ∃ most, builtin.Makes context "lte" [subject, upper] most) ∧
    (∀ range least most, builtin.Makes context "between" [subject, lower, upper] range →
      builtin.Makes context "gte" [subject, lower.untrimmed] least →
        builtin.Makes context "lte" [subject, upper.untrimmed] most →
          range.Equivalent (.conjunction [least, most])) ∧
    ((lower.trims = true ∨ upper.trims = true → subject.trims = true) →
      ∀ range least most, builtin.Makes context "between" [subject, lower, upper] range →
        builtin.Makes context "gte" [subject, lower] least →
          builtin.Makes context "lte" [subject, upper] most →
            range.Equivalent (.conjunction [least, most])) ∧
    ∀ low high condition,
      builtin.Makes context "between" [subject, .literal (.list [low, high])] condition ↔
        builtin.Makes context "between" [subject, .literal low, .literal high] condition := by
  refine ⟨?_, ?_, ?_, fun low high condition => makes_between_list_iff⟩
  · simp only [makes_between_iff stands, makes_comparison_iff get?_gte stands,
      makes_comparison_iff get?_lte stands]
    constructor
    · rintro ⟨_, low, high, comparesLow, comparesHigh, rfl⟩
      exact ⟨⟨_, low, comparesLow, rfl⟩, _, high, comparesHigh, rfl⟩
    · rintro ⟨⟨_, low, comparesLow, rfl⟩, _, high, comparesHigh, rfl⟩
      exact ⟨_, low, high, comparesLow, comparesHigh, rfl⟩
  · intro range least most made madeLeast madeMost
    refine equivalent_of_makes_between stands (fun _ => Operand.comparesAs_untrimmed.mp)
      (fun _ => Operand.comparesAs_untrimmed.mp) ?_ ?_ made madeLeast madeMost
    · rw [Operand.trims_untrimmed, Bool.or_false]
    · rw [Operand.trims_untrimmed, Bool.or_false]
  -- A bound that asks for blanks to be ignored asks for nothing that the subject does not ask for.
  · intro demands range least most made madeLeast madeMost
    refine equivalent_of_makes_between stands (fun _ => id) (fun _ => id) ?_ ?_ made madeLeast
      madeMost
    · cases asks : lower.trims <;> simp [asks, demands]
    · cases asks : upper.trims <;> simp [asks, demands]

end Registry

namespace Registry

open Sample

/-- An item that both comparisons find is not found by the range, where the blank behind the bound
counts. -/
theorem makes_between_code : ∃ range least most plain,
    (Filter.call "between" [.field "code", .field "least", .literal (.string "z")]).predicate
      .builtin ofItems = .ok (range, ofItems) ∧
    (Filter.call "gte" [.field "code", .field "least"]).predicate .builtin ofItems =
      .ok (least, ofItems) ∧
    (Filter.call "lte" [.field "code", .literal (.string "z")]).predicate .builtin ofItems =
      .ok (most, ofItems) ∧
    range.Equivalent (.conjunction [plain, most]) ∧
    (Predicate.conjunction [least, most]).truth ofItems.schema item [] = .ok (some true) ∧
    range.truth ofItems.schema item [] = .ok (some false) := by
  let subject : Operand := .field (.attr (.root "Item") "code") itemCode
  let lower : Operand := .field (.attr (.root "Item") "least") leastCode
  have stands : subject.StandsFor (.attr (.root "Item") "code") := .field
  obtain ⟨compiles, law, -⟩ := makes_between stands lower (.literal (.string "z")) ofItems
  have madeLeast : builtin.Makes ofItems "gte" [subject, lower] _ := ⟨_, rfl, rfl⟩
  have madeMost : builtin.Makes ofItems "lte" [subject, .literal (.string "z")] _ := ⟨_, rfl, rfl⟩
  obtain ⟨range, made⟩ := compiles.mpr ⟨⟨_, madeLeast⟩, _, madeMost⟩
  have madePlain : builtin.Makes ofItems "gte" [subject, lower.untrimmed] _ := ⟨_, rfl, rfl⟩
  have equivalent := law range _ _ made madePlain madeMost
  refine ⟨range, _, _, _,
    (Filter.predicate_call_iff rfl Operator.range_isConditional rfl rfl).mpr ⟨made, rfl⟩,
    (Filter.predicate_call_iff rfl (Operator.ordering_isConditional _) rfl rfl).mpr
      ⟨madeLeast, rfl⟩,
    (Filter.predicate_call_iff rfl (Operator.ordering_isConditional _) rfl rfl).mpr
      ⟨madeMost, rfl⟩, equivalent, ?_, (equivalent _ _ _).trans ?_⟩
  · decide +kernel
  · decide +kernel

end Registry

end RecordQuery
