import RecordQuery.Operator.Basic
import RecordQuery.Operator.Comparand

/-! # Comparing operators

Equality, order, membership and ranges. -/

namespace RecordQuery.Operator

/-- The condition itself, or its negation. -/
def negateIf (negate : Bool) (condition : Predicate) : Predicate :=
  if negate then .negation condition else condition

/-- The condition that two comparands are equal, or that they are not. If one is null, the other is
tested for null. -/
def equalityOf (negate ignoreCase : Bool) (left right : Comparand) : Predicate :=
  if left.isNullLiteral then negateIf negate (.isNull right.toExpr)
  else if right.isNullLiteral then negateIf negate (.isNull left.toExpr)
  else
    let left := (left.foldIf ignoreCase).toExpr
    let right := (right.foldIf ignoreCase).toExpr
    if negate then .notEqual left right else .equal left right

def equality (negate ignoreCase : Bool) : Operator :=
  binary .terminal fun _ name left right => do
    let (left, right) ← Comparand.pair name left right
    return .predicate (equalityOf negate ignoreCase left right)

def ordering (comparison : RecordQuery.Comparison) : Operator :=
  binary .terminal fun _ name left right => do
    let (left, right) ← Comparand.pair name left right
    return .predicate (.compare comparison left.toExpr right.toExpr)

/-- The arguments with literal lists replaced by their items. -/
def expandLists (args : List Operand) : List Operand :=
  args.flatMap fun arg =>
    match arg with
    | .literal (.list items) => items.map Operand.literal
    | other => [other]

/-- The condition that a subject equals one of the other arguments, or that it equals none. -/
def membership (negate : Bool) : Operator :=
  reader .terminal (.atLeast 2) fun _ name args =>
    match args with
    | [] => .error (.malformed name "missing subject")
    | subject :: args => do
      subject.requireSubject name
      let trim := Comparand.trims subject.descriptor?
      let values ← (expandLists args).mapM fun arg =>
        return ((← Comparand.ofOperand name subject.descriptor? arg).trimIf trim).toExpr
      if values.isEmpty then return .predicate (.constant negate)
      let subject ← Comparand.ofOperand name none subject
      return .predicate (negateIf negate (.isIn (subject.trimIf trim).toExpr values))

/-- The bounds of a range: two arguments, or a literal list of two. -/
def bounds (name : String) : List Operand → Except Fault (Operand × Operand)
  | [.literal (.list [lower, upper])] => .ok (.literal lower, .literal upper)
  | [.literal (.list _)] => .error (.malformed name "a bounds list needs exactly two values")
  | lower :: upper :: _ => .ok (lower, upper)
  | _ => .error (.malformed name "expected two bounds or one two-element list")

/-- The condition that a subject lies between two bounds. -/
def range : Operator :=
  reader .terminal (.between 2 3) fun _ name args =>
    match args with
    | [] => .error (.malformed name "missing subject")
    | subject :: args => do
      subject.requireSubject name
      let (lower, upper) ← bounds name args
      let trim := Comparand.trims subject.descriptor?
      let side (against : Option Descriptor) (operand : Operand) : Except Fault Expr :=
        return ((← Comparand.ofOperand name against operand).trimIf trim).toExpr
      return .predicate (.between (← side none subject) (← side subject.descriptor? lower)
        (← side subject.descriptor? upper))

end RecordQuery.Operator
