import RecordQuery.Text.Age
import RecordQuery.Text.Break
import RecordQuery.Text.LooseName
import RecordQuery.Text.Property
import RecordQuery.Text.Script

/-! # Named classes

The classes of characters that the notation of regular expressions has names for. -/

namespace RecordQuery.Regex

open Text (CharSet)

def digits : CharSet := .ranges Text.Category.decimalNumber

/-- The characters of words. -/
def words : CharSet := .ranges Text.Property.word.toRanges

def asciiWords : CharSet := .ranges [(48, 57), (65, 90), (95, 95), (97, 122)]

/-- The sets of ASCII characters that have a name. -/
def namedAscii? : String → Option CharSet
  | "alnum" => some (.ranges [(48, 57), (65, 90), (97, 122)])
  | "alpha" => some (.ranges [(65, 90), (97, 122)])
  | "ascii" => some .ascii
  | "blank" => some (.ranges [(9, 9), (32, 32)])
  | "cntrl" => some (.ranges [(0, 31), (127, 127)])
  | "digit" => some (.ranges [(48, 57)])
  | "graph" => some (.ranges [(33, 126)])
  | "lower" => some (.ranges [(97, 122)])
  | "print" => some (.ranges [(32, 126)])
  | "punct" => some (.ranges [(33, 47), (58, 64), (91, 96), (123, 126)])
  | "space" => some (.ranges [(9, 13), (32, 32)])
  | "upper" => some (.ranges [(65, 90)])
  | "word" => some asciiWords
  | "xdigit" => some (.ranges [(48, 57), (65, 70), (97, 102)])
  | _ => none

/-- The characters with a property, a general category or a script of the given name. -/
def named? (name : String) : Option CharSet :=
  let name := Text.looseName name
  Text.Property.ofName? name <|> Text.Category.ofName? name <|>
    (Text.Script.ofName? name).map (·.chars)

/-- The characters for which a property has a value. -/
def valued? (property value : String) : Option CharSet :=
  let value := Text.looseName value
  match Text.looseName property with
  | "gc" | "generalcategory" => Text.Category.ofName? value
  | "sc" | "script" => (Text.Script.ofName? value).map (·.chars)
  | "scx" | "scriptextensions" => (Text.Script.ofName? value).map (·.extendedChars)
  | "age" => Text.Age.ofName? value
  | "gcb" | "graphemeclusterbreak" => Text.Break.ofName? Text.Break.graphemeClasses value
  | "wb" | "wordbreak" => Text.Break.ofName? Text.Break.wordClasses value
  | "sb" | "sentencebreak" => Text.Break.ofName? Text.Break.sentenceClasses value
  | _ => none

end RecordQuery.Regex
