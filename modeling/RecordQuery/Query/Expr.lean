import RecordQuery.Query.Source
import RecordQuery.Text.Blank
import RecordQuery.Text.Case
import RecordQuery.Value.Text

/-! # Expressions

Expressions of a query stand for values: attributes of sources, literals, and texts made from
them. -/

namespace RecordQuery

/-- A function on texts that queries may apply. -/
inductive TextFunction where
  | lower
  | upper
  | trim
deriving DecidableEq, Repr

namespace TextFunction

def name : TextFunction → String
  | lower => "lower"
  | upper => "upper"
  | trim => "trim"

def apply : TextFunction → String → String
  | lower => Text.lower
  | upper => Text.upper
  | trim => Text.trim

end TextFunction

inductive Expr where
  | attr (source : Source) (name : String)
  | literal (value : Value)
  | mapped (function : TextFunction) (inner : Expr)
  | concat (left right : Expr)
deriving Repr

namespace Expr

/-- The joins that lead to the attributes of an expression, in the order of the text. -/
def joins : Expr → List Join
  | attr source _ => source.joins
  | literal _ => []
  | mapped _ inner => inner.joins
  | concat left right => left.joins ++ right.joins

def text : Expr → String
  | attr source name => source.text ++ "." ++ name
  | literal value => value.text
  | mapped function inner => function.name ++ "(" ++ inner.text ++ ")"
  | concat left right => "concat(" ++ left.text ++ ", " ++ right.text ++ ")"

/-- Equality of expressions, with literals compared as data. -/
def sameAs : Expr → Expr → Bool
  | attr source name, attr otherSource otherName => source == otherSource && name == otherName
  | literal value, literal other => value.sameAs other
  | mapped function inner, mapped otherFunction otherInner =>
    function == otherFunction && inner.sameAs otherInner
  | concat left right, concat otherLeft otherRight =>
    left.sameAs otherLeft && right.sameAs otherRight
  | _, _ => false

/-- Equality of lists of expressions. -/
def sameList : List Expr → List Expr → Bool
  | [], [] => true
  | expr :: rest, other :: others => expr.sameAs other && sameList rest others
  | _, _ => false

end Expr

end RecordQuery
