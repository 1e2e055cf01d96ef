/-! # Scripts

A script of writing has a name, a code of four letters and the code points that belong to it alone
or first of all. -/

namespace RecordQuery.Text

/-- A script of writing. -/
structure Script where
  name : String
  code : String
  ranges : List (Nat × Nat)
deriving Repr

end RecordQuery.Text
