import RecordQuery.Value.Basic
import RecordQuery.Binary64.Shortest
import RecordQuery.Calendar.Writer

/-! # Texts of values

The text of a value as messages quote it, and the plain text that string comparisons use. -/

namespace RecordQuery.Value

mutual

/-- The text of a value. Strings are in quotation marks without escapes, members of enumerations
have their type in front. -/
def text : Value → String
  | null => "null"
  | boolean b => if b then "true" else "false"
  | integer n => String.ofList (Numeral.signed n.toInt)
  | float x => x.text
  | decimal d => d.text
  | string s => "\"" ++ s ++ "\""
  | date d => d.text
  | dateTime i => i.text
  | time t => t.text
  | period p => p.text
  | enumMember e => e.typeName ++ "." ++ e.member
  | list items => "[" ++ ", ".intercalate (textItems items) ++ "]"

def textItems : List Value → List String
  | [] => []
  | item :: rest => text item :: textItems rest

end

/-- The text without quotation marks, and of a member of an enumeration the member alone. -/
def plainText : Value → String
  | string s => s
  | enumMember e => e.member
  | other => other.text

end RecordQuery.Value
