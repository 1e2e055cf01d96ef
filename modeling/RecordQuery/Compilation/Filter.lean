import RecordQuery.Filter.Basic
import RecordQuery.Operator.Registry

/-! # Compiling filters

Calls are compiled after their arguments, and the arguments of a call in order. -/

namespace RecordQuery

namespace Context

/-- The operand of a written path. -/
def fieldOperand (path : String) : Compiler Operand := fun context => do
  let ((expr, d), context) ← context.field path
  return (.field expr d, context)

end Context

namespace Filter

mutual

/-- The operand that a filter stands for. -/
def operand (registry : Registry) : Filter → Compiler Operand
  | literal value => return .literal value
  | field path => Context.fieldOperand path
  | call name args => do
    match registry.get? name with
    | none => throw (.unknownOperator name)
    | some operator => do
      operator.arity.check name args.length
      operator.evaluate name (← operands registry args)

def operands (registry : Registry) : List Filter → Compiler (List Operand)
  | [] => return []
  | arg :: rest => return (← operand registry arg) :: (← operands registry rest)

end

/-- The name that faults of the whole filter are reported under. -/
def rootName : Filter → String
  | call name _ => name
  | _ => "filter"

/-- The predicate that a filter stands for. -/
def predicate (registry : Registry) (filter : Filter) : Compiler Predicate := do
  let root ← operand registry filter
  match root.toPredicate filter.rootName with
  | .ok predicate => return predicate
  | .error _ =>
    throw (.malformed filter.rootName
      s!"the filter root must be a condition, got {root.kindName} {filter.text}")

end Filter

end RecordQuery
