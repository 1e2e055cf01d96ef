import RecordQuery.Proofs.Operator.Membership

/-! # Negation

Negation turns conjunctions into disjunctions and back. It does so even where a condition cannot be
evaluated, as the conditions are looked at in the same order and the first fault is reported.
Operators on values come in pairs: of the same operands one of the two makes the negation of what
the other one makes. -/

namespace RecordQuery

open Fallible

/-! ## Conditions in terms of their parts -/

namespace Predicate

section Parts

variable (schema : Schema) (root : Record) (assignment : Assignment)

/-- Conditions are evaluated one by one. -/
theorem truths_eq_mapM (conditions : List Predicate) :
    truths schema root assignment conditions = conditions.mapM (truth schema root assignment) := by
  induction conditions with
  | nil => rfl
  | cons condition rest ih => rw [truths, List.mapM_cons, ih]

/-- A negation denies the truth of its condition. -/
theorem truth_negation (condition : Predicate) :
    (negation condition).truth schema root assignment =
      (condition.truth schema root assignment).map Truth.not := by
  rw [truth]
  cases condition.truth schema root assignment <;> rfl

/-- A conjunction connects the truths of its members. -/
theorem truth_conjunction (conditions : List Predicate) :
    (conjunction conditions).truth schema root assignment =
      (conditions.mapM (truth schema root assignment)).map Truth.all := by
  rw [truth, truths_eq_mapM]
  cases conditions.mapM (truth schema root assignment) <;> rfl

/-- A disjunction connects the truths of its members. -/
theorem truth_disjunction (conditions : List Predicate) :
    (disjunction conditions).truth schema root assignment =
      (conditions.mapM (truth schema root assignment)).map Truth.any := by
  rw [truth, truths_eq_mapM]
  cases conditions.mapM (truth schema root assignment) <;> rfl

end Parts

/-! ## Laws -/

/-- Denying a condition twice changes nothing. -/
theorem negation_negation_equivalent (condition : Predicate) :
    (negation (negation condition)).Equivalent condition := by
  intro schema root assignment
  rw [truth_negation, truth_negation]
  cases condition.truth schema root assignment with
  | error fault => rfl
  | ok found => exact congrArg Except.ok (Truth.not_not found)

/-- A denied conjunction is the disjunction of the denied members. -/
theorem negation_conjunction_equivalent (conditions : List Predicate) :
    (negation (conjunction conditions)).Equivalent (disjunction (conditions.map negation)) := by
  intro schema root assignment
  rw [truth_negation, truth_conjunction, truth_disjunction,
    mapM_map (truth_negation schema root assignment)]
  cases conditions.mapM (truth schema root assignment) with
  | error fault => rfl
  | ok found => exact congrArg Except.ok (Truth.not_all found)

/-- A denied disjunction is the conjunction of the denied members. -/
theorem negation_disjunction_equivalent (conditions : List Predicate) :
    (negation (disjunction conditions)).Equivalent (conjunction (conditions.map negation)) := by
  intro schema root assignment
  rw [truth_negation, truth_conjunction, truth_disjunction,
    mapM_map (truth_negation schema root assignment)]
  cases conditions.mapM (truth schema root assignment) with
  | error fault => rfl
  | ok found => exact congrArg Except.ok (Truth.not_any found)

section Members

variable {conditions others : List Predicate} {schema : Schema} {root : Record}
  {assignment : Assignment} (same : ∀ condition, condition ∈ conditions ↔ condition ∈ others)
  (evaluate : ∀ condition ∈ conditions, ∃ truth,
    condition.truth schema root assignment = .ok truth)
include same evaluate

/-- Lists with the same conditions have the same truths among their truths. -/
theorem exists_truths_of_same_members : ∃ found foundToo,
    conditions.mapM (truth schema root assignment) = .ok found ∧
      others.mapM (truth schema root assignment) = .ok foundToo ∧
        ∀ truth, truth ∈ found ↔ truth ∈ foundToo := by
  obtain ⟨found, each⟩ := exists_mapM evaluate
  obtain ⟨foundToo, eachToo⟩ := exists_mapM fun condition member =>
    evaluate condition ((same condition).mpr member)
  refine ⟨found, foundToo, each, eachToo, fun truth => ?_⟩
  simp only [mem_iff_of_mapM each, mem_iff_of_mapM eachToo, same]

/-- Conditions that can all be evaluated may be put in another order and be repeated. -/
theorem connectives_of_same_members :
    (∃ truth, (conjunction conditions).truth schema root assignment = .ok truth ∧
      (conjunction others).truth schema root assignment = .ok truth) ∧
    ∃ truth, (disjunction conditions).truth schema root assignment = .ok truth ∧
      (disjunction others).truth schema root assignment = .ok truth := by
  obtain ⟨found, foundToo, each, eachToo, sameTruths⟩ :=
    exists_truths_of_same_members same evaluate
  simp only [truth_conjunction, truth_disjunction, each, eachToo]
  refine ⟨⟨Truth.all found, rfl, ?_⟩, Truth.any found, rfl, ?_⟩
  · exact congrArg Except.ok (Truth.all_congr sameTruths).symm
  · exact congrArg Except.ok (Truth.any_congr sameTruths).symm

end Members

/-! ## Opposite conditions -/

/-- To be unequal is not to be equal. -/
theorem notEqual_equivalent (left right : Expr) :
    (notEqual left right).Equivalent (negation (equal left right)) := by
  intro schema root assignment
  rw [truth_negation, truth, truth]
  cases left.value schema root assignment with
  | error fault => rfl
  | ok value => cases right.value schema root assignment <;> rfl

end Predicate

namespace Operator

/-- The condition for being unequal denies the one for being equal, also without regard to letter
case. -/
theorem equalityOf_opposite (ignoreCase : Bool) (left right : Comparand) :
    (equalityOf true ignoreCase left right).Equivalent
      (.negation (equalityOf false ignoreCase left right)) := by
  unfold equalityOf
  cases left.isNullLiteral with
  | true => exact fun _ _ _ => rfl
  | false =>
    cases right.isNullLiteral with
    | true => exact fun _ _ _ => rfl
    | false => exact Predicate.notEqual_equivalent _ _

/-- The condition for being no member denies the one for being a member, also among no members. -/
theorem membershipOf_opposite (subject : Expr) (values : List Expr) :
    (membershipOf true subject values).Equivalent
      (.negation (membershipOf false subject values)) := by
  cases values <;> exact fun _ _ _ => rfl

/-- A subject passes exactly if it is no field or a field of collections. -/
theorem requireCollection_eq_ok_iff {name : String} {subject : Operand} :
    requireCollection name subject = .ok () ↔
      ∀ d, subject.descriptor? = some d → d.isCollection = true := by
  unfold requireCollection
  cases subject.descriptor? with
  | none => simp
  | some d => cases collects : d.isCollection <;> simp [collects]

theorem nullCheck_isConditional (negate : Bool) : (nullCheck negate).IsConditional := by
  intro name args context after result evaluated
  obtain ⟨subject, rfl, made, same⟩ := of_unary evaluated
  obtain ⟨_, _, made⟩ := bind_eq_ok_iff.mp made
  obtain ⟨_, _, made⟩ := bind_eq_ok_iff.mp made
  cases made
  exact ⟨_, rfl, same⟩

theorem emptyCheck_isConditional (negate : Bool) : (emptyCheck negate).IsConditional := by
  intro name args context after result evaluated
  obtain ⟨subject, rfl, made, same⟩ := of_unary evaluated
  obtain ⟨_, _, made⟩ := bind_eq_ok_iff.mp made
  obtain ⟨_, _, made⟩ := bind_eq_ok_iff.mp made
  obtain ⟨_, _, made⟩ := bind_eq_ok_iff.mp made
  cases made
  exact ⟨_, rfl, same⟩

end Operator

/-! ## What conditions are made of -/

namespace Registry

variable {registry : Registry} {context : Context} {name : String} {args : List Operand}
  {condition : Predicate} {negate : Bool}

/-- Equality makes its condition of what its two operands are compared as. -/
theorem makes_equality_iff {ignoreCase : Bool}
    (registered : registry.get? name = some (.equality negate ignoreCase)) :
    registry.Makes context name args condition ↔ ∃ sides : Comparand × Comparand,
      (∃ left right, args = [left, right] ∧ left.PairsAs right sides.1 sides.2) ∧
        condition = Operator.equalityOf negate ignoreCase sides.1 sides.2 := by
  rw [makes_paired_iff (Operator.equalityOf negate ignoreCase) registered]
  constructor
  · rintro ⟨left, right, first, second, shape, pairs, made⟩
    exact ⟨(first, second), ⟨left, right, shape, pairs⟩, made⟩
  · rintro ⟨⟨first, second⟩, ⟨left, right, shape, pairs⟩, made⟩
    exact ⟨left, right, first, second, shape, pairs, made⟩

/-- An operator on one argument makes the condition that it computes of the argument. -/
theorem makes_unary_iff {kind : OperatorKind}
    {f : Context → String → Operand → Except Fault Operand}
    (registered : registry.get? name = some (.unary kind f)) :
    registry.Makes context name args condition ↔
      ∃ subject, args = [subject] ∧ f context name subject = .ok (.predicate condition) := by
  rw [makes_iff registered]
  constructor
  · intro evaluated
    obtain ⟨subject, shape, made, -⟩ := Operator.of_unary evaluated
    exact ⟨subject, shape, made⟩
  · rintro ⟨subject, rfl, made⟩
    exact bind_eq_ok_iff.mpr ⟨_, made, rfl⟩

/-- A test for null asks about what its subject stands for. -/
theorem makes_nullCheck_iff (registered : registry.get? name = some (.nullCheck negate)) :
    registry.Makes context name args condition ↔ ∃ e,
      (∃ subject : Operand, args = [subject] ∧ subject.StandsFor e) ∧
        condition = Operator.negateIf negate (.isNull e) := by
  rw [makes_unary_iff registered]
  simp only [bind_eq_ok_iff, pure_eq_ok, Except.ok.injEq, Operand.predicate.injEq]
  constructor
  · rintro ⟨subject, rfl, _, taken, expr, same, rfl⟩
    obtain ⟨e, stands⟩ := Operand.requireSubject_eq_ok_iff.mp taken
    exact ⟨e, ⟨subject, rfl, stands⟩, by rw [stands.toExpr_eq_ok_iff.mp same]⟩
  · rintro ⟨e, ⟨subject, rfl, stands⟩, rfl⟩
    exact ⟨subject, rfl, (), stands.requireSubject name, e, stands.toExpr_eq_ok_iff.mpr rfl, rfl⟩

/-- A test for emptiness asks about what its subject stands for; if that is a field, it is one of
collections. -/
theorem makes_emptyCheck_iff (registered : registry.get? name = some (.emptyCheck negate)) :
    registry.Makes context name args condition ↔ ∃ e,
      (∃ subject : Operand, args = [subject] ∧ subject.StandsFor e ∧
        ∀ d, subject.descriptor? = some d → d.isCollection = true) ∧
        condition = Operator.negateIf negate (.isEmpty e) := by
  rw [makes_unary_iff registered]
  simp only [bind_eq_ok_iff, pure_eq_ok, Except.ok.injEq, Operand.predicate.injEq]
  constructor
  · rintro ⟨subject, rfl, _, taken, _, collects, expr, same, rfl⟩
    obtain ⟨e, stands⟩ := Operand.requireSubject_eq_ok_iff.mp taken
    have each := Operator.requireCollection_eq_ok_iff.mp collects
    exact ⟨e, ⟨subject, rfl, stands, each⟩, by rw [stands.toExpr_eq_ok_iff.mp same]⟩
  · rintro ⟨e, ⟨subject, rfl, stands, each⟩, rfl⟩
    have collects : Operator.requireCollection name subject = .ok () :=
      Operator.requireCollection_eq_ok_iff.mpr each
    exact ⟨subject, rfl, (), stands.requireSubject name, (), collects, e,
      stands.toExpr_eq_ok_iff.mpr rfl, rfl⟩

/-! ## Opposite operators -/

/-- The operator of the second name takes the operands that the one of the first name takes, and
makes the negation of the condition that this one makes of them. -/
structure Opposes (registry : Registry) (name other : String) : Prop where
  makes_iff : ∀ context args, (∃ opposite, registry.Makes context other args opposite) ↔
    ∃ condition, registry.Makes context name args condition
  equivalent : ∀ context args condition opposite, registry.Makes context name args condition →
    registry.Makes context other args opposite → opposite.Equivalent (.negation condition)

/-- The operators of two names take as many arguments, and all they make is conditions. -/
def Matches (registry : Registry) (name other : String) : Prop :=
  ∃ operator opposite, registry.get? name = some operator ∧ registry.get? other = some opposite ∧
    operator.arity = opposite.arity ∧ operator.IsConditional ∧ opposite.IsConditional

/-- Operators are opposite that make opposite conditions of the same parts. -/
theorem Opposes.of_parts {α : Type} {Parts : List Operand → α → Prop} (make : Bool → α → Predicate)
    {name other : String}
    (plain : ∀ {context args condition}, registry.Makes context name args condition ↔
      ∃ parts, Parts args parts ∧ condition = make false parts)
    (negated : ∀ {context args condition}, registry.Makes context other args condition ↔
      ∃ parts, Parts args parts ∧ condition = make true parts)
    (opposite : ∀ parts, (make true parts).Equivalent (.negation (make false parts))) :
    registry.Opposes name other where
  makes_iff context args := by
    constructor
    · rintro ⟨_, made⟩
      obtain ⟨parts, taken, -⟩ := negated.mp made
      exact ⟨_, plain.mpr ⟨parts, taken, rfl⟩⟩
    · rintro ⟨_, made⟩
      obtain ⟨parts, taken, -⟩ := plain.mp made
      exact ⟨_, negated.mpr ⟨parts, taken, rfl⟩⟩
  equivalent context args condition _ made madeToo := by
    obtain ⟨parts, taken, rfl⟩ := negated.mp madeToo
    rw [made.unique (plain.mpr ⟨parts, taken, rfl⟩)]
    exact opposite parts

section Families

variable {other : String}

/-- Equality and inequality are opposite. -/
theorem opposes_equality {ignoreCase : Bool}
    (registered : registry.get? name = some (.equality false ignoreCase))
    (registeredToo : registry.get? other = some (.equality true ignoreCase)) :
    registry.Opposes name other ∧ registry.Matches name other :=
  ⟨.of_parts (fun negate (sides : Comparand × Comparand) =>
      Operator.equalityOf negate ignoreCase sides.1 sides.2)
    (makes_equality_iff registered) (makes_equality_iff registeredToo)
    fun sides => Operator.equalityOf_opposite ignoreCase sides.1 sides.2,
  _, _, registered, registeredToo, rfl, Operator.equality_isConditional _ _,
  Operator.equality_isConditional _ _⟩

/-- Being a member and being none are opposite. -/
theorem opposes_membership (registered : registry.get? name = some (.membership false))
    (registeredToo : registry.get? other = some (.membership true)) :
    registry.Opposes name other ∧ registry.Matches name other :=
  ⟨.of_parts (fun negate (parts : Expr × List Expr) =>
      Operator.membershipOf negate parts.1 parts.2)
    (makes_members_iff registered) (makes_members_iff registeredToo)
    fun parts => Operator.membershipOf_opposite parts.1 parts.2,
  _, _, registered, registeredToo, rfl, Operator.membership_isConditional _,
  Operator.membership_isConditional _⟩

/-- The tests for null and for a value are opposite. -/
theorem opposes_nullCheck (registered : registry.get? name = some (.nullCheck false))
    (registeredToo : registry.get? other = some (.nullCheck true)) :
    registry.Opposes name other ∧ registry.Matches name other :=
  ⟨.of_parts (fun negate e => Operator.negateIf negate (.isNull e))
    (makes_nullCheck_iff registered) (makes_nullCheck_iff registeredToo) fun _ _ _ _ => rfl,
  _, _, registered, registeredToo, rfl, Operator.nullCheck_isConditional _,
  Operator.nullCheck_isConditional _⟩

/-- The tests for no items and for items are opposite. -/
theorem opposes_emptyCheck (registered : registry.get? name = some (.emptyCheck false))
    (registeredToo : registry.get? other = some (.emptyCheck true)) :
    registry.Opposes name other ∧ registry.Matches name other :=
  ⟨.of_parts (fun negate e => Operator.negateIf negate (.isEmpty e))
    (makes_emptyCheck_iff registered) (makes_emptyCheck_iff registeredToo) fun _ _ _ _ => rfl,
  _, _, registered, registeredToo, rfl, Operator.emptyCheck_isConditional _,
  Operator.emptyCheck_isConditional _⟩

end Families

/-- The names of the operators on values that have opposites, with the names of these. -/
def opposites : List (String × String) :=
  [("eq", "noteq"), ("eq_ignorecase", "noteq_ignorecase"), ("in", "nin"), ("isNull", "isNotNull"),
    ("isEmpty", "isNotEmpty")]

/-- The operators of each listed pair are opposite, and of the same operands both compile or
none. -/
theorem opposes_of_listed {name other : String} (listed : (name, other) ∈ opposites) :
    builtin.Opposes name other ∧ builtin.Matches name other := by
  simp only [opposites, List.mem_cons, Prod.mk.injEq, List.not_mem_nil, or_false] at listed
  rcases listed with ⟨rfl, rfl⟩ | ⟨rfl, rfl⟩ | ⟨rfl, rfl⟩ | ⟨rfl, rfl⟩ | ⟨rfl, rfl⟩
  · exact opposes_equality rfl rfl
  · exact opposes_equality rfl rfl
  · exact opposes_membership rfl rfl
  · exact opposes_nullCheck rfl rfl
  · exact opposes_emptyCheck rfl rfl

/-- Calls of opposite operators with the same arguments compile together, with the same effect on
the context, and to opposite conditions. -/
theorem Opposes.predicate_call {name other : String} (opposes : registry.Opposes name other)
    (alike : registry.Matches name other) (args : List Filter) (context after : Context) :
    ((∃ opposite, (Filter.call other args).predicate registry context = .ok (opposite, after)) ↔
      ∃ condition, (Filter.call name args).predicate registry context = .ok (condition, after)) ∧
    ∀ condition opposite,
      (Filter.call name args).predicate registry context = .ok (condition, after) →
        (Filter.call other args).predicate registry context = .ok (opposite, after) →
          opposite.Equivalent (.negation condition) := by
  obtain ⟨operator, negated, registered, registeredToo, sameArity, conditional, conditionalToo⟩ :=
    alike
  simp only [Filter.predicate_call_eq_ok_iff registered conditional,
    Filter.predicate_call_eq_ok_iff registeredToo conditionalToo, sameArity]
  refine ⟨⟨?_, ?_⟩, ?_⟩
  · rintro ⟨_, counted, results, compiled, made⟩
    obtain ⟨condition, made⟩ := (opposes.makes_iff _ _).mp ⟨_, made⟩
    exact ⟨condition, counted, results, compiled, made⟩
  · rintro ⟨_, counted, results, compiled, made⟩
    obtain ⟨opposite, made⟩ := (opposes.makes_iff _ _).mpr ⟨_, made⟩
    exact ⟨opposite, counted, results, compiled, made⟩
  · rintro condition opposite ⟨_, results, compiled, made⟩ ⟨_, _, compiledToo, madeToo⟩
    cases compiled.symm.trans compiledToo
    exact opposes.equivalent _ _ _ _ made madeToo

/-- Two negations cancel out, a negation moves into a conjunction or disjunction, and these depend
on which conditions they have only, as long as all of them can be evaluated. Operators with
opposites take the same operands, and the opposite makes the negation. All this includes what cannot
be evaluated. -/
theorem negation_laws :
    (∀ condition : Predicate, (Predicate.negation (.negation condition)).Equivalent condition) ∧
    (∀ conditions : List Predicate,
      (Predicate.negation (.conjunction conditions)).Equivalent
          (.disjunction (conditions.map .negation)) ∧
        (Predicate.negation (.disjunction conditions)).Equivalent
          (.conjunction (conditions.map .negation))) ∧
    (∀ conditions others : List Predicate,
      (∀ condition, condition ∈ conditions ↔ condition ∈ others) →
        ∀ schema root assignment, (∀ condition ∈ conditions, ∃ truth,
            condition.truth schema root assignment = .ok truth) →
          (∃ truth, (Predicate.conjunction conditions).truth schema root assignment = .ok truth ∧
            (Predicate.conjunction others).truth schema root assignment = .ok truth) ∧
          ∃ truth, (Predicate.disjunction conditions).truth schema root assignment = .ok truth ∧
            (Predicate.disjunction others).truth schema root assignment = .ok truth) ∧
    ∀ name other, (name, other) ∈ opposites → builtin.Opposes name other ∧
      ∀ (args : List Filter) (context after : Context),
        ((∃ opposite, (Filter.call other args).predicate builtin context = .ok (opposite, after)) ↔
          ∃ condition, (Filter.call name args).predicate builtin context = .ok (condition, after)) ∧
        ∀ condition opposite,
          (Filter.call name args).predicate builtin context = .ok (condition, after) →
            (Filter.call other args).predicate builtin context = .ok (opposite, after) →
              opposite.Equivalent (.negation condition) := by
  refine ⟨Predicate.negation_negation_equivalent, fun conditions => ⟨?_, ?_⟩, ?_, ?_⟩
  · exact Predicate.negation_conjunction_equivalent conditions
  · exact Predicate.negation_disjunction_equivalent conditions
  · intro conditions others same schema root assignment evaluate
    exact Predicate.connectives_of_same_members same evaluate
  · intro name other listed
    obtain ⟨opposes, alike⟩ := opposes_of_listed listed
    exact ⟨opposes, opposes.predicate_call alike⟩

end Registry

namespace Registry

open Sample

/-- Among the conditions on an item one is unknown, and one stands twice. The item has none of some
sizes. -/
theorem negation_laws_item :
    (∃ truth,
      (Predicate.disjunction [.equal (.attr (.root "Item") "size") (.literal (.integer 2)),
        .equal (.attr (.root "Item") "colour") (.literal .null)]).truth ofItems.schema item [] =
          .ok truth ∧
      (Predicate.disjunction [.equal (.attr (.root "Item") "colour") (.literal .null),
        .equal (.attr (.root "Item") "size") (.literal (.integer 2)),
        .equal (.attr (.root "Item") "colour") (.literal .null)]).truth ofItems.schema item [] =
          .ok truth) ∧
    ∃ inside outside,
      (Filter.call "in" [.field "size", .literal (.list [.integer 1, .null])]).predicate
        .builtin ofItems = .ok (inside, ofItems) ∧
      (Filter.call "nin" [.field "size", .literal (.list [.integer 1, .null])]).predicate
        .builtin ofItems = .ok (outside, ofItems) ∧
      outside.Equivalent (.negation inside) ∧
      outside.truth ofItems.schema item [] = .ok none := by
  obtain ⟨-, -, members, opposite⟩ := negation_laws
  refine ⟨(members _ _ (fun condition => ?_) ofItems.schema item [] fun condition listed => ?_).2,
    ?_⟩
  · simp only [List.mem_cons, List.not_mem_nil, or_false]
    tauto
  · rcases List.mem_pair.mp listed with rfl | rfl
    · exact ⟨some true, by decide +kernel⟩
    · exact ⟨none, by decide +kernel⟩
  · obtain ⟨-, calls⟩ := opposite "in" "nin" (by simp [opposites])
    obtain ⟨compiles, law⟩ := calls [.field "size", .literal (.list [.integer 1, .null])] ofItems
      ofItems
    have inside : (Filter.call "in" [.field "size",
        .literal (.list [.integer 1, .null])]).predicate .builtin ofItems =
          .ok (.isIn (.attr (.root "Item") "size") [.literal (.integer 1), .literal .null],
            ofItems) := rfl
    obtain ⟨outside, isOutside⟩ := compiles.mpr ⟨_, inside⟩
    have equivalent := law _ outside inside isOutside
    refine ⟨_, outside, inside, isOutside, equivalent, (equivalent _ _ _).trans ?_⟩
    decide +kernel

end Registry

end RecordQuery
