import RecordQuery.Fault
import RecordQuery.Text.Blank

/-! # Sort criteria

A sort key is the path of a field, after a minus sign for descending order. -/

namespace RecordQuery

inductive Direction where
  | ascending
  | descending
deriving DecidableEq, Repr

namespace Direction

def text : Direction → String
  | ascending => "Ascending"
  | descending => "Descending"

/-- The order of two keys in a direction. -/
def orient : Direction → Ordering → Ordering
  | ascending, order => order
  | descending, order => order.swap

end Direction

/-- A field to sort by. -/
structure SortCriterion where
  path : String
  direction : Direction
deriving DecidableEq, Repr

namespace SortCriterion

/-- Reads a sort key; blanks around the key and its path are ignored. -/
def ofText (key : String) : Except Fault SortCriterion :=
  let cs := Text.trimChars key.toList
  let (path, direction) :=
    match cs with
    | '-' :: rest => (Text.trimChars rest, Direction.descending)
    | cs => (cs, Direction.ascending)
  if path.isEmpty then .error (.invalidRequest s!"empty sort key '{String.ofList cs}'")
  else .ok { path := String.ofList path, direction }

end SortCriterion

end RecordQuery
