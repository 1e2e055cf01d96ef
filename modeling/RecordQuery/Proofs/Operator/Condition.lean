import RecordQuery.Proofs.Compilation.Filter
import RecordQuery.Proofs.Operator.Preservation
import RecordQuery.Query.Evaluation

/-! # Conditions of comparing operators

Operators on comparisons first make out what their operands are compared as, and then put it into a
condition. What an operand is compared as does not depend on the operator. -/

namespace RecordQuery

open Fallible

/-! ## What operands are compared as -/

namespace Operand

/-- The operand is an expression, perhaps that of a field. -/
inductive StandsFor : Operand → Expr → Prop where
  | field {e : Expr} {d : Descriptor} : StandsFor (.field e d) e
  | expr {e : Expr} : StandsFor (.expr e) e

/-- The operand is compared as this: a literal is converted if it is compared with a field. -/
inductive ComparesAs (against : Option Descriptor) : Operand → Comparand → Prop where
  | expr {operand : Operand} {e : Expr} (stands : operand.StandsFor e) :
      ComparesAs against operand (.expr e)
  | literal {value : Value} (alone : against = none) :
      ComparesAs against (.literal value) (.literal value)
  | coerced {d : Descriptor} {value converted : Value} (field : against = some d)
      (coerced : Value.coerce d value = .ok converted) :
      ComparesAs against (.literal value) (.literal converted)

/-- The operand is a field that asks for blanks around texts to be ignored. -/
def trims (operand : Operand) : Bool := Comparand.trims operand.descriptor?

/-- What two operands are compared as with each other. Each is converted for the other one, and both
are trimmed if a field among them asks for it. -/
inductive PairsAs (left right : Operand) : Comparand → Comparand → Prop where
  | intro {first second : Comparand} (compares : left.ComparesAs right.descriptor? first)
      (comparesToo : right.ComparesAs left.descriptor? second) :
      PairsAs left right (first.trimIf (left.trims || right.trims))
        (second.trimIf (left.trims || right.trims))

/-- What two operands are compared as with each other does not depend on which is the left one. -/
theorem PairsAs.swap {left right : Operand} {first second : Comparand}
    (pairs : left.PairsAs right first second) : right.PairsAs left second first := by
  cases pairs with
  | intro compares comparesToo =>
    rw [Bool.or_comm]
    exact .intro comparesToo compares

variable {operand : Operand} {against : Option Descriptor} {e : Expr}

theorem StandsFor.unique (stands : operand.StandsFor e) {other : Expr}
    (standsToo : operand.StandsFor other) : other = e := by
  cases stands <;> cases standsToo <;> rfl

/-- A field or an expression is compared as the expression that it stands for. -/
theorem StandsFor.comparesAs_iff (stands : operand.StandsFor e) {comparand : Comparand} :
    operand.ComparesAs against comparand ↔ comparand = .expr e := by
  constructor
  · intro compares
    cases compares with
    | expr standsToo => rw [stands.unique standsToo]
    | literal => cases stands
    | coerced => cases stands
  · rintro rfl
    exact .expr stands

/-- What stands for an expression can be a subject. -/
theorem StandsFor.requireSubject (stands : operand.StandsFor e) (name : String) :
    operand.requireSubject name = .ok () := by
  cases stands <;> rfl

/-- The operands that are taken for subjects are the expressions. -/
theorem requireSubject_eq_ok_iff {name : String} :
    operand.requireSubject name = .ok () ↔ ∃ e, operand.StandsFor e := by
  constructor
  · intro taken
    cases operand with
    | field e d => exact ⟨e, .field⟩
    | expr e => exact ⟨e, .expr⟩
    | _ => cases taken
  · rintro ⟨e, stands⟩
    exact stands.requireSubject name

/-- A field or an expression is taken as the expression that it stands for. -/
theorem StandsFor.toExpr_eq_ok_iff (stands : operand.StandsFor e) {name : String} {expr : Expr} :
    operand.toExpr name = .ok expr ↔ expr = e := by
  cases stands <;> exact ⟨fun taken => by cases taken; rfl, fun same => by rw [same]; rfl⟩

end Operand

/-- Which comparand an operand gives does not depend on the operator. -/
theorem Comparand.ofOperand_eq_ok_iff {name : String} {against : Option Descriptor}
    {operand : Operand} {comparand : Comparand} :
    ofOperand name against operand = .ok comparand ↔ operand.ComparesAs against comparand := by
  constructor
  · intro found
    cases operand with
    | literal value =>
      cases against with
      | none =>
        cases found
        exact .literal rfl
      | some d =>
        obtain ⟨converted, coerced, rfl⟩ := map_eq_ok_iff.mp found
        exact .coerced rfl coerced
    | field e d =>
      cases found
      exact .expr .field
    | expr e =>
      cases found
      exact .expr .expr
    | predicate p => cases found
  · intro compares
    cases compares with
    | expr stands => cases stands <;> rfl
    | literal alone =>
      subst alone
      rfl
    | coerced field coerced =>
      subst field
      exact map_eq_ok_iff.mpr ⟨_, coerced, rfl⟩

/-- An operand is compared as one comparand. -/
theorem Operand.ComparesAs.unique {against : Option Descriptor} {operand : Operand}
    {comparand other : Comparand} (compares : operand.ComparesAs against comparand)
    (comparesToo : operand.ComparesAs against other) : comparand = other :=
  have found : Comparand.ofOperand "" against operand = .ok comparand :=
    Comparand.ofOperand_eq_ok_iff.mpr compares
  Except.ok.inj (found.symm.trans (Comparand.ofOperand_eq_ok_iff.mpr comparesToo))

/-- Which comparands two operands give does not depend on the operator. -/
theorem Comparand.pair_eq_ok_iff {name : String} {left right : Operand}
    {first second : Comparand} :
    pair name left right = .ok (first, second) ↔ left.PairsAs right first second := by
  simp only [pair, bind_eq_ok_iff, ofOperand_eq_ok_iff, pure_eq_ok, Except.ok.injEq, Prod.mk.injEq]
  constructor
  · rintro ⟨one, compares, two, comparesToo, rfl, rfl⟩
    exact .intro compares comparesToo
  · rintro ⟨compares, comparesToo⟩
    exact ⟨_, compares, _, comparesToo, rfl, rfl⟩

/-- A side of a comparison is what its operand is compared as, trimmed if asked for. -/
theorem Comparand.side_eq_ok_iff {name : String} {against : Option Descriptor} {trim : Bool}
    {operand : Operand} {expr : Expr} : side name against trim operand = .ok expr ↔ ∃ comparand,
      operand.ComparesAs against comparand ∧ (comparand.trimIf trim).toExpr = expr := by
  simp only [side, bind_eq_ok_iff, ofOperand_eq_ok_iff, pure_eq_ok, Except.ok.injEq]

/-! ## Conditions -/

/-- The operator of a name makes the condition of operands and leaves the context as it is. -/
def Registry.Makes (registry : Registry) (context : Context) (name : String) (args : List Operand)
    (condition : Predicate) : Prop :=
  ∃ operator, registry.get? name = some operator ∧
    operator.evaluate name args context = .ok (.predicate condition, context)

/-- Two conditions are the same for every record under every assignment: in truth, and in what
cannot be evaluated. -/
def Predicate.Equivalent (first second : Predicate) : Prop :=
  ∀ schema root assignment,
    first.truth schema root assignment = second.truth schema root assignment

namespace Registry

variable {registry : Registry} {context : Context} {name : String} {condition : Predicate}

/-- A call makes a condition exactly if its operator does and leaves the context. -/
theorem makes_iff {operator : Operator} (registered : registry.get? name = some operator)
    {args : List Operand} : registry.Makes context name args condition ↔
      operator.evaluate name args context = .ok (.predicate condition, context) := by
  unfold Makes
  simp only [registered, Option.some.injEq, exists_eq_left']

/-- An operator that reads its context makes the condition that it computes. -/
theorem makes_reader_iff {kind : OperatorKind} {arity : Arity}
    {f : Context → String → List Operand → Except Fault Operand}
    (registered : registry.get? name = some (.reader kind arity f)) {args : List Operand} :
    registry.Makes context name args condition ↔
      f context name args = .ok (.predicate condition) := by
  rw [makes_iff registered]
  constructor
  · exact fun evaluated => (Operator.of_reader evaluated).1
  · exact fun made => bind_eq_ok_iff.mpr ⟨_, made, rfl⟩

/-- The operands of a name give one condition only. -/
theorem Makes.unique {args : List Operand} {other : Predicate}
    (made : registry.Makes context name args condition)
    (madeToo : registry.Makes context name args other) : condition = other := by
  obtain ⟨operator, registered, evaluated⟩ := made
  cases evaluated.symm.trans ((makes_iff registered).mp madeToo)
  rfl

section Paired

variable {kind : OperatorKind} (make : Comparand → Comparand → Predicate)
  (registered : registry.get? name = some (.binary kind fun _ name left right => do
    let (left, right) ← Comparand.pair name left right
    return .predicate (make left right)))
include registered

/-- A condition on what two operands are compared as with each other. -/
theorem makes_paired_iff {args : List Operand} : registry.Makes context name args condition ↔
    ∃ left right first second, args = [left, right] ∧ left.PairsAs right first second ∧
      condition = make first second := by
  rw [makes_iff registered]
  constructor
  · intro evaluated
    obtain ⟨left, right, rfl, made, -⟩ := Operator.of_binary evaluated
    obtain ⟨⟨first, second⟩, paired, made⟩ := bind_eq_ok_iff.mp made
    cases made
    exact ⟨left, right, first, second, rfl, Comparand.pair_eq_ok_iff.mp paired, rfl⟩
  · rintro ⟨left, right, first, second, rfl, pairs, rfl⟩
    have paired : Comparand.pair name left right = .ok (first, second) :=
      Comparand.pair_eq_ok_iff.mpr pairs
    exact bind_eq_ok_iff.mpr ⟨_, bind_eq_ok_iff.mpr ⟨_, paired, rfl⟩, rfl⟩

/-- An operator on two comparands makes a condition of what its operands are compared as. -/
theorem makes_operands_iff {left right : Operand} :
    registry.Makes context name [left, right] condition ↔ ∃ first second,
      left.PairsAs right first second ∧ condition = make first second := by
  rw [makes_paired_iff make registered]
  constructor
  · rintro ⟨_, _, first, second, same, pairs, made⟩
    cases same
    exact ⟨first, second, pairs, made⟩
  · rintro ⟨first, second, pairs, made⟩
    exact ⟨_, _, first, second, rfl, pairs, made⟩

/-- A condition on a subject and another operand, both trimmed if a field among them asks for it. -/
theorem makes_pair_iff {subject other : Operand} {e : Expr} (stands : subject.StandsFor e) :
    registry.Makes context name [subject, other] condition ↔ ∃ comparand,
      other.ComparesAs subject.descriptor? comparand ∧
        condition = make ((Comparand.expr e).trimIf (subject.trims || other.trims))
          (comparand.trimIf (subject.trims || other.trims)) := by
  rw [makes_operands_iff make registered]
  constructor
  · rintro ⟨_, _, ⟨compares, comparesToo⟩, rfl⟩
    rw [stands.comparesAs_iff.mp compares]
    exact ⟨_, comparesToo, rfl⟩
  · rintro ⟨comparand, compares, rfl⟩
    exact ⟨_, _, .intro (.expr stands) compares, rfl⟩

end Paired

end Registry

/-! ## Calls -/

namespace Operator

/-- What the operator makes is a condition, and it leaves the context as it is. -/
def IsConditional (operator : Operator) : Prop :=
  ∀ {name : String} {args : List Operand} {context after : Context} {result : Operand},
    operator.evaluate name args context = .ok (result, after) →
      ∃ condition, result = .predicate condition ∧ after = context

/-- An operator on two comparands makes conditions only. -/
theorem paired_isConditional (kind : OperatorKind) (make : Comparand → Comparand → Predicate) :
    (binary kind fun _ name left right => do
      let (left, right) ← Comparand.pair name left right
      return .predicate (make left right)).IsConditional := by
  intro name args context after result evaluated
  obtain ⟨left, right, rfl, made, same⟩ := of_binary evaluated
  obtain ⟨_, _, made⟩ := bind_eq_ok_iff.mp made
  cases made
  exact ⟨_, rfl, same⟩

theorem equality_isConditional (negate ignoreCase : Bool) :
    (equality negate ignoreCase).IsConditional :=
  paired_isConditional .terminal (equalityOf negate ignoreCase)

theorem ordering_isConditional (comparison : RecordQuery.Comparison) :
    (ordering comparison).IsConditional :=
  paired_isConditional .terminal fun left right => .compare comparison left.toExpr right.toExpr

theorem membership_isConditional (negate : Bool) : (membership negate).IsConditional := by
  intro name args context after result evaluated
  obtain ⟨made, same⟩ := of_reader evaluated
  split at made
  · cases made
  obtain ⟨_, _, made⟩ := bind_eq_ok_iff.mp made
  obtain ⟨values, _, made⟩ := bind_eq_ok_iff.mp made
  split at made
  · cases made
    exact ⟨_, rfl, same⟩
  · obtain ⟨_, _, made⟩ := bind_eq_ok_iff.mp made
    cases made
    exact ⟨_, rfl, same⟩

theorem range_isConditional : range.IsConditional := by
  intro name args context after result evaluated
  obtain ⟨made, same⟩ := of_reader evaluated
  split at made
  · cases made
  obtain ⟨_, _, made⟩ := bind_eq_ok_iff.mp made
  obtain ⟨_, _, made⟩ := bind_eq_ok_iff.mp made
  obtain ⟨_, _, made⟩ := bind_eq_ok_iff.mp made
  obtain ⟨_, _, made⟩ := bind_eq_ok_iff.mp made
  obtain ⟨_, _, made⟩ := bind_eq_ok_iff.mp made
  cases made
  exact ⟨_, rfl, same⟩

end Operator

/-- A call with as many arguments as its operator takes compiles to the condition that this makes of
the compiled arguments. -/
theorem Filter.predicate_call_iff {registry : Registry} {context middle after : Context}
    {name : String} {args : List Filter} {results : List Operand} {condition : Predicate}
    {operator : Operator} (registered : registry.get? name = some operator)
    (conditional : operator.IsConditional)
    (counted : operator.arity.check name args.length = .ok ())
    (compiled : operands registry args context = .ok (results, middle)) :
    (call name args).predicate registry context = .ok (condition, after) ↔
      registry.Makes middle name results condition ∧ after = middle := by
  rw [Registry.makes_iff registered]
  constructor
  · intro isCondition
    obtain ⟨result, made, taken⟩ := of_predicate isCondition
    obtain ⟨_, _, _, found, compiledToo, evaluated⟩ := of_operand_call made
    cases registered.symm.trans found
    cases compiled.symm.trans compiledToo
    obtain ⟨made, rfl, rfl⟩ := conditional evaluated
    cases taken
    exact ⟨evaluated, rfl⟩
  · rintro ⟨evaluated, rfl⟩
    exact Compiler.bind_eq_ok_iff.mpr
      ⟨_, _, operand_call registered counted compiled evaluated, rfl⟩

/-- A call compiles to a condition just if its operator takes that many arguments, the arguments
compile, and the condition is made of them. -/
theorem Filter.predicate_call_eq_ok_iff {registry : Registry} {context after : Context}
    {name : String} {args : List Filter} {condition : Predicate} {operator : Operator}
    (registered : registry.get? name = some operator) (conditional : operator.IsConditional) :
    (call name args).predicate registry context = .ok (condition, after) ↔
      operator.arity.accepts args.length = true ∧ ∃ results,
        operands registry args context = .ok (results, after) ∧
          registry.Makes after name results condition := by
  constructor
  · intro isCondition
    obtain ⟨result, made, taken⟩ := of_predicate isCondition
    have counted := counted_of_operand_call registered made
    obtain ⟨_, results, middle, found, compiled, evaluated⟩ := of_operand_call made
    cases registered.symm.trans found
    obtain ⟨condition, rfl, rfl⟩ := conditional evaluated
    cases taken
    exact ⟨counted, results, compiled, _, found, evaluated⟩
  · rintro ⟨counted, results, compiled, made⟩
    have checked : operator.arity.check name args.length = .ok () := if_pos counted
    exact (predicate_call_iff registered conditional checked compiled).mpr ⟨made, rfl⟩

namespace Sample

def itemCode : Descriptor := ⟨[], ⟨"code", "Item", .attr⟩, .scalar .string, {}⟩

/-- Blanks around the least code are ignored. -/
def leastCode : Descriptor := ⟨[], ⟨"least", "Item", .attr⟩, .scalar .string, { trim := true }⟩

def itemSize : Descriptor := ⟨[], ⟨"size", "Item", .attr⟩, .scalar .integer, {}⟩

/-- Items have a code, tell which one is the least, and have a size. -/
def ofItems : Context where
  schema :=
    { entities := [{ name := "Item", fields := [⟨"code", .scalar .string, some {}, false⟩,
        ⟨"least", .scalar .string, some { trim := true }, false⟩,
        ⟨"size", .scalar .integer, some {}, false⟩] }]
      names_nodup := by decide }
  metadata := ⟨"Item", [("code", itemCode), ("least", leastCode), ("size", itemSize)]⟩

/-- An item whose code is the least one but for a blank. -/
def item : Record where
  entity := "Item"
  fields := [("code", .value (.string "b")), ("least", .value (.string "b ")),
    ("size", .value (.integer 2))]

end Sample

end RecordQuery
