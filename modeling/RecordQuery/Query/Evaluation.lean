import RecordQuery.Query.Assignment
import RecordQuery.Text.Like
import RecordQuery.Truth
import RecordQuery.Value.Order
import RecordQuery.Fault

/-! # Evaluation

The values of expressions and the truth of predicates for a record under an assignment. -/

namespace RecordQuery

namespace Value

mutual

/-- Applies a function to the text of a value, or of each item of a list. Null stays null. -/
def mapText (function : String → String) : Value → Value
  | null => null
  | list items => list (mapTextItems function items)
  | other => string (function other.plainText)

def mapTextItems (function : String → String) : List Value → List Value
  | [] => []
  | item :: rest => mapText function item :: mapTextItems function rest

end

/-- The texts of two values one after the other; null if one of the two is. -/
def concat (left right : Value) : Value :=
  if left.isNull || right.isNull then null else string (left.plainText ++ right.plainText)

/-- The value lies between two bounds. -/
def isBetween (subject lower upper : Value) : Truth :=
  Truth.and ((subject.compare? lower).map Comparison.atLeast.holds)
    ((subject.compare? upper).map Comparison.atMost.holds)

/-- The text of the value is one that a pattern stands for. Patterns are matched by what they mean;
how large the regular expression may get that they are written as is no part of it. -/
def isLike (subject pattern : Value) : Truth :=
  if subject.isNull || pattern.isNull then none
  else some (Text.Like.isMatch pattern.plainText subject.plainText)

end Value

namespace Datum

/-- The value of an attribute; a missing attribute and a relation to no record are null. -/
def toValue? : Option Datum → Option Value
  | none | some (one none) => some .null
  | some (value v) => some v
  | _ => none

/-- The attribute is missing, null or a relation to no record. -/
def isNull (datum : Option Datum) : Bool := ((toValue? datum).map Value.isNull).getD false

/-- The attribute is missing, null, a relation to no record or an empty list. -/
def isEmpty : Option Datum → Bool
  | none | some (one none) | some (value .null) | some (value (.list [])) | some (many []) => true
  | _ => false

end Datum

namespace Expr

variable (schema : Schema) (root : Record) (assignment : Assignment)

/-- The value of an expression. -/
def value : Expr → Except Fault Value
  | attr source name =>
    match Datum.toValue? (source.datum? schema root assignment name) with
    | some v => .ok v
    | none => .error (.execution s!"'{source.text}.{name}' holds records, not a value")
  | literal v => .ok v
  | mapped function inner => return (← value inner).mapText function.apply
  | concat left right => return (← value left).concat (← value right)

/-- The expression has no value. -/
def isNull : Expr → Except Fault Bool
  | attr source name => .ok (Datum.isNull (source.datum? schema root assignment name))
  | expr => return (← value schema root assignment expr).isNull

/-- The expression has no value, or an empty list. -/
def isEmpty : Expr → Except Fault Bool
  | attr source name => .ok (Datum.isEmpty (source.datum? schema root assignment name))
  | expr => return Datum.isEmpty (some (.value (← value schema root assignment expr)))

/-- A value equals one of the expressions. The ones behind the first that it equals are not
looked at. -/
def contains (subject : Value) : List Expr → Except Fault Truth
  | [] => .ok (some false)
  | candidate :: rest => do
    match subject.equals? (← value schema root assignment candidate) with
    | some true => return some true
    | some false => contains subject rest
    | none => return Truth.or none (← contains subject rest)

end Expr

namespace Predicate

variable (schema : Schema) (root : Record) (assignment : Assignment)

mutual

/-- The truth of a predicate. All conditions of a conjunction or disjunction are looked at. -/
def truth : Predicate → Except Fault Truth
  | equal left right =>
    return (← left.value schema root assignment).equals? (← right.value schema root assignment)
  | notEqual left right =>
    return Truth.not
      ((← left.value schema root assignment).equals? (← right.value schema root assignment))
  | compare comparison left right =>
    return ((← left.value schema root assignment).compare?
      (← right.value schema root assignment)).map comparison.holds
  | between subject lower upper =>
    return (← subject.value schema root assignment).isBetween
      (← lower.value schema root assignment) (← upper.value schema root assignment)
  | like subject pattern =>
    return (← subject.value schema root assignment).isLike
      (← pattern.value schema root assignment)
  | isIn subject values => do
    Expr.contains schema root assignment (← subject.value schema root assignment) values
  | isNull subject => return some (← subject.isNull schema root assignment)
  | isEmpty subject => return some (← subject.isEmpty schema root assignment)
  | isTrue subject => return (← subject.value schema root assignment).asBool?
  | conjunction conditions => return Truth.all (← truths conditions)
  | disjunction conditions => return Truth.any (← truths conditions)
  | negation condition => return Truth.not (← truth condition)
  | constant value => .ok (some value)

def truths : List Predicate → Except Fault (List Truth)
  | [] => .ok []
  | condition :: rest => return (← truth condition) :: (← truths rest)

end

end Predicate

end RecordQuery
