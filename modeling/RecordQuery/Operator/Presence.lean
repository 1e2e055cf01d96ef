import RecordQuery.Operator.Comparison

/-! # Operators on presence

Conditions that values are null, or that collections are empty. -/

namespace RecordQuery.Operator

/-- The condition that a subject is null, or that it is not. -/
def nullCheck (negate : Bool) : Operator :=
  unary .terminal fun _ name subject => do
    subject.requireSubject name
    return .predicate (negateIf negate (.isNull (← subject.toExpr name)))

/-- Refuses fields that are no collections. -/
def requireCollection (name : String) (subject : Operand) : Except Fault Unit :=
  match subject.descriptor? with
  | some d =>
    if d.isCollection then .ok ()
    else .error (.malformed name s!"field '{d.path}' is not a collection")
  | none => .ok ()

/-- The condition that a collection is empty, or that it is not. -/
def emptyCheck (negate : Bool) : Operator :=
  unary .terminal fun _ name subject => do
    subject.requireSubject name
    requireCollection name subject
    return .predicate (negateIf negate (.isEmpty (← subject.toExpr name)))

end RecordQuery.Operator
