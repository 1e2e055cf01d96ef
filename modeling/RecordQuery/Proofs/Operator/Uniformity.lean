import RecordQuery.Proofs.Operator.Preservation
import RecordQuery.Proofs.Query.Redraw

/-! # Operators and sources

Operators do not look at the sources that their arguments are drawn from: if the arguments are drawn
from other sources, so is the result, and a fault stays the same. Apart from `enum`, which looks an
enumeration up among the fields of the entity, the operators that are built in do not look at their
context either. -/

namespace RecordQuery

open Fallible

variable (sources : Source → String → Source)

/-- The operand with each attribute drawn from the source that is given for it. -/
def Operand.redraw : Operand → Operand
  | literal value => literal value
  | field e d => field (e.redraw sources) d
  | expr e => expr (e.redraw sources)
  | predicate p => predicate (p.redraw sources)

/-- The comparand with each attribute drawn from the source that is given for it. -/
def Comparand.redraw : Comparand → Comparand
  | expr e => expr (e.redraw sources)
  | literal value => literal value

/-- The operator leaves its context as it is and, whatever the context, makes of redrawn arguments
what it makes of the arguments, redrawn. -/
structure Operator.Uniform (operator : Operator) : Prop where
  stays {name : String} {args : List Operand} {context after : Context} {result : Operand}
    (evaluated : operator.evaluate name args context = .ok (result, after)) : after = context
  redraws (sources : Source → String → Source) (name : String) (args : List Operand)
    (context other : Context) :
    operator.evaluate name (args.map (Operand.redraw sources)) other =
      (operator.evaluate name args context).map fun made => (made.1.redraw sources, other)

variable {sources}

/-! ## Operands and comparands -/

namespace Operand

/-- The text of an argument does not depend on sources. -/
theorem toText_redraw (name : String) (operand : Operand) :
    (operand.redraw sources).toText name = operand.toText name := by
  cases operand <;> rfl

/-- The expression of an argument is drawn from the sources that the argument is drawn from. -/
theorem toExpr_redraw (name : String) (operand : Operand) :
    (operand.redraw sources).toExpr name = (operand.toExpr name).map (Expr.redraw sources) := by
  cases operand <;> rfl

/-- The condition of an argument is drawn from the sources that the argument is drawn from. -/
theorem toPredicate_redraw (name : String) (operand : Operand) :
    (operand.redraw sources).toPredicate name =
      (operand.toPredicate name).map (Predicate.redraw sources) := by
  cases operand with
  | literal value => cases value <;> rfl
  | field e d =>
    simp only [redraw, toPredicate]
    split <;> rfl
  | expr e => rfl
  | predicate p => rfl

/-- Whether an argument can be a subject does not depend on sources. -/
theorem requireSubject_redraw (name : String) (operand : Operand) :
    (operand.redraw sources).requireSubject name = operand.requireSubject name := by
  cases operand <;> rfl

/-- The field of an argument does not depend on sources. -/
theorem descriptor?_redraw (operand : Operand) :
    (operand.redraw sources).descriptor? = operand.descriptor? := by
  cases operand <;> rfl

end Operand

namespace Comparand

/-- What an operand is compared as is drawn from the sources of the operand. -/
theorem ofOperand_redraw (name : String) (against : Option Descriptor) (operand : Operand) :
    ofOperand name against (operand.redraw sources) =
      (ofOperand name against operand).map (redraw sources) := by
  cases operand with
  | literal value =>
    cases against with
    | none => rfl
    | some d =>
      simp only [Operand.redraw, ofOperand]
      cases Value.coerce d value <;> rfl
  | _ => rfl

/-- A function on texts leaves the sources alone. -/
theorem mapText_redraw (function : TextFunction) (comparand : Comparand) :
    (comparand.redraw sources).mapText function = (comparand.mapText function).redraw sources := by
  cases comparand with
  | expr e => rfl
  | literal value => cases value <;> rfl

theorem trimIf_redraw (trim : Bool) (comparand : Comparand) :
    (comparand.redraw sources).trimIf trim = (comparand.trimIf trim).redraw sources := by
  cases trim with
  | false => rfl
  | true => exact mapText_redraw .trim comparand

theorem foldIf_redraw (ignoreCase : Bool) (comparand : Comparand) :
    (comparand.redraw sources).foldIf ignoreCase =
      (comparand.foldIf ignoreCase).redraw sources := by
  cases ignoreCase with
  | false => rfl
  | true => exact mapText_redraw .upper comparand

/-- Whether something is the null literal does not depend on sources. -/
theorem isNullLiteral_redraw (comparand : Comparand) :
    (comparand.redraw sources).isNullLiteral = comparand.isNullLiteral := by
  cases comparand <;> rfl

/-- The expression of a comparand is drawn from the sources of the comparand. -/
theorem toExpr_redraw (comparand : Comparand) :
    (comparand.redraw sources).toExpr = comparand.toExpr.redraw sources := by
  cases comparand <;> rfl

/-- Two operands are compared by expressions drawn from their sources. -/
theorem pair_redraw (name : String) (left right : Operand) :
    pair name (left.redraw sources) (right.redraw sources) =
      (pair name left right).map fun sides => (sides.1.redraw sources, sides.2.redraw sources) := by
  simp only [pair, Operand.descriptor?_redraw, ofOperand_redraw, bind_after_map, map_after_bind,
    trimIf_redraw]
  rfl

/-- One side of a comparison is drawn from the sources of its operand. -/
theorem side_redraw (name : String) (against : Option Descriptor) (trim : Bool)
    (operand : Operand) :
    side name against trim (operand.redraw sources) =
      (side name against trim operand).map (Expr.redraw sources) := by
  simp only [side, ofOperand_redraw, bind_after_map, map_after_bind, map_pure_eq, trimIf_redraw,
    toExpr_redraw]

end Comparand

/-! ## Operators -/

namespace Operator

variable {kind : OperatorKind}

/-- An operator is uniform if what it makes of its arguments is. -/
theorem reader_uniform {arity : Arity} {f : String → List Operand → Except Fault Operand}
    (uniform : ∀ sources name args,
      f name (args.map (Operand.redraw sources)) = (f name args).map (Operand.redraw sources)) :
    (reader kind arity fun _ => f).Uniform := by
  constructor
  · exact fun evaluated => (of_reader evaluated).2
  · intro sources name args context other
    simp only [reader, uniform, bind_after_map, map_after_bind]
    rfl

/-- An operator on one argument is uniform if what it makes of it is. -/
theorem unary_uniform {f : String → Operand → Except Fault Operand}
    (uniform : ∀ sources name (arg : Operand),
      f name (arg.redraw sources) = (f name arg).map (Operand.redraw sources)) :
    (unary kind fun _ => f).Uniform := by
  refine reader_uniform fun sources name args => ?_
  match args with
  | [] => rfl
  | [arg] => exact uniform sources name arg
  | _ :: _ :: _ => simp [Except.map]

/-- An operator on two arguments is uniform if what it makes of them is. -/
theorem binary_uniform {f : String → Operand → Operand → Except Fault Operand}
    (uniform : ∀ sources name (left right : Operand),
      f name (left.redraw sources) (right.redraw sources) =
        (f name left right).map (Operand.redraw sources)) :
    (binary kind fun _ => f).Uniform := by
  refine reader_uniform fun sources name args => ?_
  match args with
  | [] | [_] => rfl
  | [left, right] => exact uniform sources name left right
  | _ :: _ :: _ :: _ => simp [Except.map]

/-! ### Logical operators -/

/-- An operator that combines conditions is uniform if the combination is. -/
theorem combinator_uniform {combine : List Predicate → Predicate}
    (uniform : ∀ sources conditions, combine (conditions.map (Predicate.redraw sources)) =
      (combine conditions).redraw sources) : (combinator combine).Uniform := by
  refine reader_uniform fun sources name args => ?_
  simp only [mapM_map (Operand.toPredicate_redraw name), bind_after_map, map_after_bind, uniform]
  rfl

theorem conjunction_uniform : conjunction.Uniform :=
  combinator_uniform fun sources conditions => by
    rw [Predicate.redraw, Predicate.redrawAll_eq_map]

theorem disjunction_uniform : disjunction.Uniform :=
  combinator_uniform fun sources conditions => by
    rw [Predicate.redraw, Predicate.redrawAll_eq_map]

theorem negation_uniform : negation.Uniform := by
  refine unary_uniform fun sources name arg => ?_
  simp only [Operand.toPredicate_redraw, bind_after_map, map_after_bind]
  rfl

/-! ### Comparing operators -/

theorem negateIf_redraw (negate : Bool) (condition : Predicate) :
    negateIf negate (condition.redraw sources) = (negateIf negate condition).redraw sources := by
  cases negate <;> rfl

/-- An equation is drawn from the sources of its sides. -/
theorem equalityOf_redraw (negate ignoreCase : Bool) (left right : Comparand) :
    equalityOf negate ignoreCase (left.redraw sources) (right.redraw sources) =
      (equalityOf negate ignoreCase left right).redraw sources := by
  simp only [equalityOf, Comparand.isNullLiteral_redraw, Comparand.foldIf_redraw,
    Comparand.toExpr_redraw]
  split
  · exact negateIf_redraw negate (.isNull right.toExpr)
  split
  · exact negateIf_redraw negate (.isNull left.toExpr)
  · cases negate <;> rfl

theorem equality_uniform (negate ignoreCase : Bool) : (equality negate ignoreCase).Uniform := by
  refine binary_uniform fun sources name left right => ?_
  simp only [Comparand.pair_redraw, bind_after_map, map_after_bind, equalityOf_redraw]
  rfl

theorem ordering_uniform (comparison : RecordQuery.Comparison) : (ordering comparison).Uniform := by
  refine binary_uniform fun sources name left right => ?_
  simp only [Comparand.pair_redraw, bind_after_map, map_after_bind, Comparand.toExpr_redraw]
  rfl

/-- Lists among the arguments are taken apart whatever the sources are. -/
theorem expandLists_redraw (args : List Operand) :
    expandLists (args.map (Operand.redraw sources)) =
      (expandLists args).map (Operand.redraw sources) := by
  rw [expandLists, expandLists, List.flatMap_map, List.map_flatMap]
  congr 1
  funext arg
  cases arg with
  | literal value => cases value <;> simp [Operand.redraw]
  | _ => rfl

/-- The meaning of the operators of membership in terms of sides. -/
theorem membership_eq (negate : Bool) :
    membership negate = reader .terminal (.atLeast 2) fun _ name args =>
      match args with
      | [] => .error (.malformed name "missing subject")
      | subject :: args => do
        subject.requireSubject name
        let trim := Comparand.trims subject.descriptor?
        let values ← (expandLists args).mapM (Comparand.side name subject.descriptor? trim)
        if values.isEmpty then return .predicate (.constant negate)
        let subject ← Comparand.side name none trim subject
        return .predicate (negateIf negate (.isIn subject values)) := by
  unfold membership
  congr 1
  funext _ name args
  cases args with
  | nil => rfl
  | cons subject args =>
    simp only [Comparand.side, bind_assoc, pure_bind]
    rfl

theorem membership_uniform (negate : Bool) : (membership negate).Uniform := by
  rw [membership_eq]
  refine reader_uniform fun sources name args => ?_
  cases args with
  | nil => rfl
  | cons subject args =>
    simp only [List.map_cons, Operand.requireSubject_redraw, Operand.descriptor?_redraw,
      expandLists_redraw, mapM_map (Comparand.side_redraw name _ _), Comparand.side_redraw,
      bind_after_map, map_after_bind, List.isEmpty_map]
    congr 1
    funext _
    congr 1
    funext values
    split
    · rfl
    · cases negate <;> simp only [map_after_bind] <;> rfl

/-- The first two arguments after the subject are its bounds. -/
theorem bounds_of_two (name : String) (lower upper : Operand) (rest : List Operand) :
    bounds name (lower :: upper :: rest) = .ok (lower, upper) := by
  unfold bounds
  split <;> simp_all

/-- Bounds are drawn from the sources of the arguments. -/
theorem bounds_redraw (name : String) (args : List Operand) :
    bounds name (args.map (Operand.redraw sources)) =
      (bounds name args).map fun sides => (sides.1.redraw sources, sides.2.redraw sources) := by
  match args with
  | [] => rfl
  | [.literal value] =>
    cases value with
    | list items => match items with
      | [] | [_] | [_, _] | _ :: _ :: _ :: _ => rfl
    | _ => rfl
  | [.field _ _] | [.expr _] | [.predicate _] => rfl
  | lower :: upper :: rest =>
    rw [List.map_cons, List.map_cons, bounds_of_two, bounds_of_two]
    rfl

theorem range_uniform : range.Uniform := by
  refine reader_uniform fun sources name args => ?_
  cases args with
  | nil => rfl
  | cons subject args =>
    simp only [List.map_cons, Operand.requireSubject_redraw, Operand.descriptor?_redraw,
      bounds_redraw, Comparand.ofOperand_redraw, Comparand.trimIf_redraw, Comparand.toExpr_redraw,
      bind_after_map, map_after_bind, bind_assoc, pure_bind]
    rfl

/-! ### Operators on texts -/

/-- The pattern for a text is drawn from the sources of the text. -/
theorem patternOf_redraw (occurrence : Occurrence) (comparand : Comparand) :
    patternOf occurrence (comparand.redraw sources) =
      (patternOf occurrence comparand).redraw sources := by
  cases comparand with
  | literal value => rfl
  | expr e => cases occurrence <;> rfl

theorem matching_uniform (occurrence : Occurrence) (ignoreCase : Bool) :
    (matching occurrence ignoreCase).Uniform := by
  refine binary_uniform fun sources name left right => ?_
  simp only [Comparand.pair_redraw, bind_after_map, map_after_bind, Comparand.isNullLiteral_redraw,
    Comparand.foldIf_redraw, Comparand.toExpr_redraw, patternOf_redraw]
  congr 1
  funext sides
  split <;> rfl

theorem lowerCase_uniform : lowerCase.Uniform := by
  refine unary_uniform fun sources name arg => ?_
  cases arg with
  | literal value => cases value <;> rfl
  | _ => rfl

/-! ### Operators on presence -/

theorem nullCheck_uniform (negate : Bool) : (nullCheck negate).Uniform := by
  refine unary_uniform fun sources name subject => ?_
  simp only [Operand.requireSubject_redraw, Operand.toExpr_redraw, bind_after_map, map_after_bind]
  cases negate <;> rfl

/-- Whether a field is a collection does not depend on sources. -/
theorem requireCollection_redraw (name : String) (subject : Operand) :
    requireCollection name (subject.redraw sources) = requireCollection name subject := by
  simp only [requireCollection, Operand.descriptor?_redraw]

theorem emptyCheck_uniform (negate : Bool) : (emptyCheck negate).Uniform := by
  refine unary_uniform fun sources name subject => ?_
  simp only [Operand.requireSubject_redraw, requireCollection_redraw, Operand.toExpr_redraw,
    bind_after_map, map_after_bind]
  cases negate <;> rfl

/-! ### Operators that make literals -/

theorem date_uniform : date.Uniform := by
  refine unary_uniform fun sources name arg => ?_
  simp only [Operand.toText_redraw, map_after_bind]
  refine congrArg (arg.toText name >>= ·) (funext fun text => ?_)
  generalize Value.instantOfText? none (Text.trim text) = instant
  cases instant <;> rfl

theorem bigDecimal_uniform : bigDecimal.Uniform := by
  refine unary_uniform fun sources name arg => ?_
  cases arg with
  | literal value =>
    have fromText : ∀ text : String,
        (Value.decimalOfText text).map (fun d => Operand.literal (.decimal d)) =
          ((Value.decimalOfText text).map fun d => Operand.literal (.decimal d)).map
            (Operand.redraw sources) := by
      intro text
      cases Value.decimalOfText text <;> rfl
    cases value with
    | string _ | integer _ | float _ | decimal _ => exact fromText _
    | _ => rfl
  | _ => rfl

theorem period_uniform : period.Uniform := by
  refine unary_uniform fun sources name arg => ?_
  simp only [Operand.toText_redraw, map_after_bind]
  rfl

end Operator

/-- Of the operators that are built in all but `enum` are uniform. -/
theorem Registry.builtin_uniform {name : String} {operator : Operator}
    (found : builtin.get? name = some operator) (other : name ≠ "enum") : operator.Uniform := by
  have each : ∀ entry ∈ builtin.entries, entry.1 = "enum" ∨ entry.2.Uniform := by
    unfold builtin
    simp only [List.forall_mem_cons]
    exact ⟨.inr Operator.conjunction_uniform, .inr Operator.disjunction_uniform,
      .inr Operator.negation_uniform, .inr (Operator.equality_uniform _ _),
      .inr (Operator.equality_uniform _ _), .inr (Operator.equality_uniform _ _),
      .inr (Operator.equality_uniform _ _), .inr (Operator.ordering_uniform _),
      .inr (Operator.ordering_uniform _), .inr (Operator.ordering_uniform _),
      .inr (Operator.ordering_uniform _), .inr (Operator.membership_uniform _),
      .inr (Operator.membership_uniform _), .inr Operator.range_uniform,
      .inr (Operator.matching_uniform _ _), .inr (Operator.matching_uniform _ _),
      .inr (Operator.matching_uniform _ _), .inr (Operator.matching_uniform _ _),
      .inr (Operator.matching_uniform _ _), .inr (Operator.matching_uniform _ _),
      .inr Operator.lowerCase_uniform, .inr (Operator.nullCheck_uniform _),
      .inr (Operator.nullCheck_uniform _), .inr (Operator.emptyCheck_uniform _),
      .inr (Operator.emptyCheck_uniform _), .inr Operator.date_uniform, .inl trivial,
      .inr Operator.bigDecimal_uniform, .inr Operator.period_uniform,
      fun _ none => by cases none⟩
  exact (each _ (mem_entries_of_get? found)).resolve_left other

end RecordQuery
