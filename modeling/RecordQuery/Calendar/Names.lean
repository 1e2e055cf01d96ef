/-! # Names of months and weekdays

English names; the first three letters of a name are its short form. -/

namespace RecordQuery.Calendar

def monthNames : List String :=
  ["January", "February", "March", "April", "May", "June", "July", "August", "September",
    "October", "November", "December"]

/-- The names of the days from Monday on. -/
def weekdayNames : List String :=
  ["Monday", "Tuesday", "Wednesday", "Thursday", "Friday", "Saturday", "Sunday"]

/-- The name at a place of a list of names, in full or cut to three letters. -/
def nameAt (names : List String) (short : Bool) (index : Nat) : List Char :=
  let name := (names.getD index "").toList
  if short then name.take 3 else name

/-- The texts agree apart from the case of ASCII letters. -/
def sameLetters (xs ys : List Char) : Bool := xs.map Char.toLower == ys.map Char.toLower

/-- Reads the short form of a name and, where `long` allows it, the rest of the name. The result is
the place of the name and the text after it. -/
def readName? (names : List String) (long : Bool) (cs : List Char) : Option (Nat × List Char) := do
  let index ← names.findIdx? fun name => sameLetters (name.toList.take 3) (cs.take 3)
  let ending := (names.getD index "").toList.drop 3
  let rest := cs.drop 3
  if long && sameLetters ending (rest.take ending.length) then
    return (index, rest.drop ending.length)
  else
    return (index, rest)

end RecordQuery.Calendar
