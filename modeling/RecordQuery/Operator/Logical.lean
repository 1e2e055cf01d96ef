import RecordQuery.Operator.Basic

/-! # Logical operators -/

namespace RecordQuery.Operator

/-- Combines the conditions that the arguments stand for. -/
def combinator (combine : List Predicate → Predicate) : Operator :=
  reader .combinator (.atLeast 1) fun _ name args =>
    return .predicate (combine (← args.mapM (Operand.toPredicate name)))

def conjunction : Operator := combinator .conjunction

def disjunction : Operator := combinator .disjunction

def negation : Operator :=
  unary .combinator fun _ name arg => return .predicate (.negation (← arg.toPredicate name))

end RecordQuery.Operator
