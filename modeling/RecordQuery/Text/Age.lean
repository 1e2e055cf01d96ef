import RecordQuery.Text.CharSet
import RecordQuery.Text.Age.Table

/-! # Ages of characters

The age of a code point is the version of Unicode that assigned it. -/

namespace RecordQuery.Text.Age

/-- The version has a loose name: its two numbers with a point between them or after a letter. -/
def isNamed (name : String) (major minor : Nat) : Bool :=
  name == toString major ++ "." ++ toString minor || name == "v" ++ toString major ++ toString minor

/-- The code points that are at least as old as the version with a loose name. -/
def ofName? (name : String) : Option CharSet :=
  let older := versions.takeWhile fun (major, minor, _) => !isNamed name major minor
  match versions.drop older.length with
  | [] => none
  | (_, _, ranges) :: _ => some (.ranges (older.flatMap (·.2.2) ++ ranges))

end RecordQuery.Text.Age
