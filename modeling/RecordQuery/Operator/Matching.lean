import RecordQuery.Operator.Basic
import RecordQuery.Operator.Comparand

/-! # Operators on texts -/

namespace RecordQuery

/-- Where a text has to occur in another one. -/
inductive Occurrence where
  | start
  | finish
  | anywhere
deriving DecidableEq, Repr

namespace Occurrence

/-- The wildcard pattern for a text. -/
def pattern (occurrence : Occurrence) (text : String) : String :=
  match occurrence with
  | start => text ++ "%"
  | finish => "%" ++ text
  | anywhere => "%" ++ text ++ "%"

/-- The expression of a wildcard pattern for the value of an expression. -/
def patternExpr (occurrence : Occurrence) (expr : Expr) : Expr :=
  let wildcard : Expr := .literal (.string "%")
  match occurrence with
  | start => .concat expr wildcard
  | finish => .concat wildcard expr
  | anywhere => .concat (.concat wildcard expr) wildcard

end Occurrence

namespace Operator

/-- The pattern for a comparand. -/
def patternOf (occurrence : Occurrence) : Comparand → Expr
  | .literal value => .literal (.string (occurrence.pattern value.plainText))
  | .expr e => occurrence.patternExpr e

/-- The condition that a text occurs in a subject. -/
def matching (occurrence : Occurrence) (ignoreCase : Bool) : Operator :=
  binary .terminal fun _ name subject text => do
    let (subject, text) ← Comparand.pair name subject text
    if text.isNullLiteral then throw (.malformed name "the comparand must not be null")
    return .predicate (.like (subject.foldIf ignoreCase).toExpr
      (patternOf occurrence (text.foldIf ignoreCase)))

/-- A text in lower case. -/
def lowerCase : Operator :=
  unary .valueTransform fun _ name arg =>
    match arg with
    | .literal (.string s) => .ok (.literal (.string (TextFunction.lower.apply s)))
    | .literal .null => .ok (.literal .null)
    | .literal other => .error (.malformed name s!"expected a string, got {other.kindName}")
    | .field e _ | .expr e => .ok (.expr (.mapped .lower e))
    | .predicate _ => .error (.malformed name "expected a string expression, got a predicate")

end Operator

end RecordQuery
