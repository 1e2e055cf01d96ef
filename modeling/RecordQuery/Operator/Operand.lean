import RecordQuery.Compilation.Context
import RecordQuery.Query.Predicate

/-! # Operands

What arguments of operators are compiled to, and what operators make of them. -/

namespace RecordQuery

/-- An argument or result of an operator. -/
inductive Operand where
  /-- A literal that has not been converted yet. -/
  | literal (value : Value)
  | field (expr : Expr) (descriptor : Descriptor)
  /-- An expression made by an operator. -/
  | expr (expr : Expr)
  | predicate (predicate : Predicate)

namespace Operand

def kindName : Operand → String
  | literal _ => "literal"
  | field _ _ => "field"
  | expr _ => "expression"
  | predicate _ => "predicate"

def isLiteral : Operand → Bool
  | literal _ => true
  | _ => false

/-- The descriptor of a field. -/
def descriptor? : Operand → Option Descriptor
  | field _ d => some d
  | _ => none

/-- A text given as a literal. -/
def toText (operator : String) : Operand → Except Fault String
  | literal (.string s) => .ok s
  | other => .error (.malformed operator s!"expected a string literal, got {other.kindName}")

/-- An operand where a value is expected; literals are taken as they are. -/
def toExpr (operator : String) : Operand → Except Fault Expr
  | literal value => .ok (.literal value)
  | field e _ => .ok e
  | expr e => .ok e
  | predicate _ => .error (.malformed operator "expected a value expression, got a predicate")

/-- An operand where a condition is expected. Literals have to be truth values and fields have to
hold them; expressions are tested for truth. -/
def toPredicate (operator : String) : Operand → Except Fault Predicate
  | predicate p => .ok p
  | literal (.boolean b) => .ok (.constant b)
  | literal value => .error (.malformed operator s!"expected a condition, got literal {value.text}")
  | field e d =>
    if d.valueType? = some .boolean then .ok (.isTrue e)
    else .error (.malformed operator s!"field '{d.path}' is not boolean")
  | expr e => .ok (.isTrue e)

/-- Refuses operands that are neither a field nor an expression. -/
def requireSubject (operator : String) : Operand → Except Fault Unit
  | literal value =>
    .error (.malformed operator s!"expected a field or expression, got literal {value.text}")
  | predicate _ => .error (.malformed operator "expected a field or expression, got a predicate")
  | _ => .ok ()

end Operand

end RecordQuery
