import RecordQuery.Json.Basic
import RecordQuery.Binary64.Shortest

/-! # Writing JSON

A compact form without blanks, and a form with two blanks of indentation for every level. -/

namespace RecordQuery.Json

/-- The four hexadecimal digits of a code below 65536. -/
def hexCode (n : Nat) : List Char :=
  [12, 8, 4, 0].map fun shift => Nat.digitChar (n >>> shift % 16)

/-- A character inside a quoted text. -/
def escapeChar (c : Char) : List Char :=
  match c with
  | '"' => ['\\', '"']
  | '\\' => ['\\', '\\']
  | '\n' => ['\\', 'n']
  | '\r' => ['\\', 'r']
  | '\t' => ['\\', 't']
  | c =>
    if c.toNat = 8 then ['\\', 'b']
    else if c.toNat = 12 then ['\\', 'f']
    else if c.toNat < 32 then '\\' :: 'u' :: hexCode c.toNat
    else [c]

/-- A text in quotation marks. -/
def quote (text : String) : String :=
  "\"" ++ String.ofList (text.toList.flatMap escapeChar) ++ "\""

/-- A finite number; JSON has no other ones. -/
def floatText (x : Binary64) : String := if x.isFinite then x.jsonText else "null"

mutual

/-- The compact form. -/
def compact : Json → String
  | null => "null"
  | bool value => if value then "true" else "false"
  | integer value => String.ofList (Numeral.signed value)
  | float value => floatText value
  | string value => quote value
  | array items => "[" ++ ",".intercalate (compactItems items) ++ "]"
  | object members => "\x7b" ++ ",".intercalate (compactMembers members) ++ "\x7d"

def compactItems : List Json → List String
  | [] => []
  | item :: rest => compact item :: compactItems rest

def compactMembers : List (String × Json) → List String
  | [] => []
  | (key, value) :: rest => (quote key ++ ":" ++ compact value) :: compactMembers rest

end

/-- A line break and the indentation of a level. -/
def lineStart (level : Nat) : String := String.ofList ('\n' :: List.replicate (2 * level) ' ')

/-- The parts of an array or object, one on each line inside brackets. -/
def bracketed (level : Nat) (start finish : String) (parts : List String) : String :=
  if parts.isEmpty then start ++ finish
  else
    start ++ ",".intercalate (parts.map (lineStart (level + 1) ++ ·)) ++ lineStart level ++ finish

mutual

/-- The indented form of a tree at a level. -/
def indented (level : Nat) : Json → String
  | array items => bracketed level "[" "]" (indentedItems (level + 1) items)
  | object members => bracketed level "\x7b" "\x7d" (indentedMembers (level + 1) members)
  | other => compact other

def indentedItems (level : Nat) : List Json → List String
  | [] => []
  | item :: rest => indented level item :: indentedItems level rest

def indentedMembers (level : Nat) : List (String × Json) → List String
  | [] => []
  | (key, value) :: rest =>
    (quote key ++ ": " ++ indented level value) :: indentedMembers level rest

end

/-- The form with indentation. -/
def pretty (json : Json) : String := indented 0 json

end RecordQuery.Json
