import RecordQuery.Coercion
import RecordQuery.Operator.Operand

/-! # Comparands

What operators compare: expressions, and literals that have been converted for the field on the
other side. -/

namespace RecordQuery

inductive Comparand where
  | expr (expr : Expr)
  | literal (value : Value)
deriving Repr

namespace Comparand

/-- An operand as a comparand. A literal is converted for the field that it is compared with. -/
def ofOperand (operator : String) (against : Option Descriptor) :
    Operand → Except Fault Comparand
  | .literal value =>
    match against with
    | some d => (Value.coerce d value).map literal
    | none => .ok (literal value)
  | other => (other.toExpr operator).map expr

/-- Applies a function on texts: to an expression when it is evaluated, to a literal at once. Null
stays null, also in a list. -/
def mapText (function : TextFunction) : Comparand → Comparand
  | expr e => expr (.mapped function e)
  | literal .null => literal .null
  | literal (.list items) =>
    literal (.list (items.map fun item =>
      if item.isNull then item else .string (function.apply item.plainText)))
  | literal value => literal (.string (function.apply value.plainText))

/-- Trims a comparand if so told. -/
def trimIf (trim : Bool) (comparand : Comparand) : Comparand :=
  if trim then comparand.mapText .trim else comparand

/-- Maps a comparand to upper case if letter case is to be ignored. -/
def foldIf (ignoreCase : Bool) (comparand : Comparand) : Comparand :=
  if ignoreCase then comparand.mapText .upper else comparand

def isNullLiteral : Comparand → Bool
  | literal .null => true
  | _ => false

def toExpr : Comparand → Expr
  | expr e => e
  | literal value => .literal value

/-- The descriptor, if there is one, asks for blanks around texts to be ignored. -/
def trims (d : Option Descriptor) : Bool := (d.map (·.directives.trim)).getD false

/-- The two sides of a comparison. Each is converted for the other one, and both are trimmed if a
field on either side asks for it. -/
def pair (operator : String) (left right : Operand) : Except Fault (Comparand × Comparand) := do
  let trim := trims left.descriptor? || trims right.descriptor?
  let leftSide ← ofOperand operator right.descriptor? left
  let rightSide ← ofOperand operator left.descriptor? right
  return (leftSide.trimIf trim, rightSide.trimIf trim)

end Comparand

end RecordQuery
