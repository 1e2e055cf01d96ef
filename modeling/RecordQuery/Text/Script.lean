import RecordQuery.Text.CharSet
import RecordQuery.Text.LooseName
import RecordQuery.Text.Script.Table

/-! # Looking up scripts

Scripts by name or code, with the code points that belong to a script and those that are used in it,
on their own or together with other scripts. -/

namespace RecordQuery.Text.Script

/-- Codes that were in use before. -/
def formerCode? : String → Option String
  | "qaac" => some "copt"
  | "qaai" => some "zinh"
  | _ => none

/-- The script with a loose name. -/
def ofName? (name : String) : Option Script :=
  let name := (formerCode? name).getD name
  scripts.find? fun script => looseName script.name == name || looseName script.code == name

/-- The code points of a script. -/
def chars (script : Script) : CharSet := .ranges script.ranges

/-- The code points that are used in other scripts than their own. -/
def shared : CharSet := .ranges (extensions.map fun (first, last, _) => (first, last))

/-- The code points that are used in a script. -/
def extendedChars (script : Script) : CharSet :=
  .union (.diff script.chars shared)
    (.ranges ((extensions.filter fun (_, _, codes) => codes.contains script.code).map
      fun (first, last, _) => (first, last)))

end RecordQuery.Text.Script
