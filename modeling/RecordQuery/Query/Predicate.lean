import RecordQuery.Query.Expr

/-! # Predicates

Conditions of a query on the values of expressions. -/

namespace RecordQuery

/-- A comparison by order. -/
inductive Comparison where
  | less
  | atMost
  | greater
  | atLeast
deriving DecidableEq, Repr

namespace Comparison

def symbol : Comparison → String
  | less => "<"
  | atMost => "<="
  | greater => ">"
  | atLeast => ">="

/-- The comparison holds for two values in an order. -/
def holds : Comparison → Ordering → Bool
  | less, order => order.isLT
  | atMost, order => order.isLE
  | greater, order => order.isGT
  | atLeast, order => order.isGE

/-- The comparison that holds with its sides exchanged. -/
def flip : Comparison → Comparison
  | less => greater
  | atMost => atLeast
  | greater => less
  | atLeast => atMost

end Comparison

inductive Predicate where
  | equal (left right : Expr)
  | notEqual (left right : Expr)
  | compare (comparison : Comparison) (left right : Expr)
  /-- Both bounds are included. -/
  | between (subject lower upper : Expr)
  | like (subject pattern : Expr)
  | isIn (subject : Expr) (values : List Expr)
  | isNull (subject : Expr)
  | isEmpty (subject : Expr)
  | isTrue (subject : Expr)
  | conjunction (conditions : List Predicate)
  | disjunction (conditions : List Predicate)
  | negation (condition : Predicate)
  | constant (value : Bool)
deriving Repr, Inhabited

namespace Predicate

mutual

/-- The joins that lead to the attributes of a predicate, in the order of the text. -/
def joins : Predicate → List Join
  | equal left right | notEqual left right | compare _ left right | like left right =>
    left.joins ++ right.joins
  | between subject lower upper => subject.joins ++ lower.joins ++ upper.joins
  | isIn subject values => subject.joins ++ values.flatMap Expr.joins
  | isNull subject | isEmpty subject | isTrue subject => subject.joins
  | conjunction conditions | disjunction conditions => joinsOfAll conditions
  | negation condition => condition.joins
  | constant _ => []

def joinsOfAll : List Predicate → List Join
  | [] => []
  | condition :: rest => condition.joins ++ joinsOfAll rest

end

mutual

def text : Predicate → String
  | equal left right => left.text ++ " = " ++ right.text
  | notEqual left right => left.text ++ " <> " ++ right.text
  | compare comparison left right => left.text ++ " " ++ comparison.symbol ++ " " ++ right.text
  | between subject lower upper =>
    subject.text ++ " BETWEEN " ++ lower.text ++ " AND " ++ upper.text
  | like subject pattern => subject.text ++ " LIKE " ++ pattern.text
  | isIn subject values => subject.text ++ " IN (" ++ ", ".intercalate (values.map Expr.text) ++ ")"
  | isNull subject => subject.text ++ " IS NULL"
  | isEmpty subject => subject.text ++ " IS EMPTY"
  | isTrue subject => subject.text ++ " IS TRUE"
  | conjunction conditions => "(" ++ " AND ".intercalate (textsOfAll conditions) ++ ")"
  | disjunction conditions => "(" ++ " OR ".intercalate (textsOfAll conditions) ++ ")"
  | negation condition => "NOT (" ++ condition.text ++ ")"
  | constant value => if value then "TRUE" else "FALSE"

def textsOfAll : List Predicate → List String
  | [] => []
  | condition :: rest => condition.text :: textsOfAll rest

end

mutual

/-- Equality of predicates, with literals compared as data. -/
def sameAs : Predicate → Predicate → Bool
  | equal left right, equal otherLeft otherRight
  | notEqual left right, notEqual otherLeft otherRight
  | like left right, like otherLeft otherRight =>
    left.sameAs otherLeft && right.sameAs otherRight
  | compare comparison left right, compare otherComparison otherLeft otherRight =>
    comparison == otherComparison && left.sameAs otherLeft && right.sameAs otherRight
  | between subject lower upper, between other otherLower otherUpper =>
    subject.sameAs other && lower.sameAs otherLower && upper.sameAs otherUpper
  | isIn subject values, isIn other otherValues =>
    subject.sameAs other && Expr.sameList values otherValues
  | isNull subject, isNull other
  | isEmpty subject, isEmpty other
  | isTrue subject, isTrue other => subject.sameAs other
  | conjunction conditions, conjunction others
  | disjunction conditions, disjunction others => sameList conditions others
  | negation condition, negation other => condition.sameAs other
  | constant value, constant other => value == other
  | _, _ => false

def sameList : List Predicate → List Predicate → Bool
  | [], [] => true
  | condition :: rest, other :: others => condition.sameAs other && sameList rest others
  | _, _ => false

end

end Predicate

end RecordQuery
