import RecordQuery.Operator.Arity
import RecordQuery.Operator.Operand

/-! # Operators

An operator makes an operand from its arguments, which are compiled already. -/

namespace RecordQuery

/-- What an operator makes. -/
inductive OperatorKind where
  /-- A condition made of conditions. -/
  | combinator
  /-- A condition on values. -/
  | terminal
  /-- A value. -/
  | valueTransform
deriving DecidableEq, Repr

def OperatorKind.text : OperatorKind → String
  | combinator => "combinator"
  | terminal => "terminal"
  | valueTransform => "value-transform"

/-- An operator; its meaning is given the name that it is called by. -/
structure Operator where
  kind : OperatorKind
  arity : Arity
  evaluate : String → List Operand → Compiler Operand

namespace Operator

/-- An operator that reads its context but leaves it as it is. -/
def reader (kind : OperatorKind) (arity : Arity)
    (f : Context → String → List Operand → Except Fault Operand) : Operator where
  kind
  arity
  evaluate name args context := return (← f context name args, context)

/-- An operator on one argument. -/
def unary (kind : OperatorKind) (f : Context → String → Operand → Except Fault Operand) :
    Operator :=
  reader kind (.exactly 1) fun context name args =>
    match args with
    | [arg] => f context name arg
    | _ => .error ((Arity.exactly 1).wrongCount name args.length)

/-- An operator on two arguments. -/
def binary (kind : OperatorKind)
    (f : Context → String → Operand → Operand → Except Fault Operand) : Operator :=
  reader kind (.exactly 2) fun context name args =>
    match args with
    | [left, right] => f context name left right
    | _ => .error ((Arity.exactly 2).wrongCount name args.length)

end Operator

end RecordQuery
