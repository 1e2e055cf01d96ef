import RecordQuery.Config
import RecordQuery.Operator.Comparison
import RecordQuery.Operator.Literal
import RecordQuery.Operator.Logical
import RecordQuery.Operator.Matching
import RecordQuery.Operator.Presence

/-! # Registries of operators

The operators that filters may call, by name. -/

namespace RecordQuery

/-- Operators by name; of entries with one name the first counts. -/
structure Registry where
  entries : List (String × Operator)

namespace Registry

/-- The operators that every registry starts with. -/
def builtin : Registry where
  entries := [
    ("and", .conjunction),
    ("or", .disjunction),
    ("not", .negation),
    ("eq", .equality false false),
    ("noteq", .equality true false),
    ("eq_ignorecase", .equality false true),
    ("noteq_ignorecase", .equality true true),
    ("gt", .ordering .greater),
    ("gte", .ordering .atLeast),
    ("lt", .ordering .less),
    ("lte", .ordering .atMost),
    ("in", .membership false),
    ("nin", .membership true),
    ("between", .range),
    ("startsWith", .matching .start false),
    ("endsWith", .matching .finish false),
    ("contains", .matching .anywhere false),
    ("startsWith_ignorecase", .matching .start true),
    ("endsWith_ignorecase", .matching .finish true),
    ("contains_ignorecase", .matching .anywhere true),
    ("lower", .lowerCase),
    ("isNull", .nullCheck false),
    ("isNotNull", .nullCheck true),
    ("isEmpty", .emptyCheck false),
    ("isNotEmpty", .emptyCheck true),
    ("date", .date),
    ("enum", .enumeration),
    ("bigDecimal", .bigDecimal),
    ("period", .period)]

def get? (registry : Registry) (name : String) : Option Operator := registry.entries.lookup name

def contains (registry : Registry) (name : String) : Bool := (registry.get? name).isSome

def size (registry : Registry) : Nat := registry.entries.length

/-- The names of the operators in order. -/
def names (registry : Registry) : List String :=
  (registry.entries.map (·.1)).mergeSort fun x y => !decide (y < x)

/-- The registry with an operator under a name and no other one under it. -/
def insert (registry : Registry) (name : String) (operator : Operator) : Registry :=
  { entries := (name, operator) :: registry.entries.filter (·.1 != name) }

/-- Puts an operator under a name; the answer is the operator that it replaces. -/
def register (registry : Registry) (policy : CollisionPolicy) (name : String)
    (operator : Operator) : Except Fault (Option Operator × Registry) :=
  match registry.get? name, policy with
  | some _, .reject => .error (.operatorConflict name)
  | replaced, _ => .ok (replaced, registry.insert name operator)

end Registry

end RecordQuery
