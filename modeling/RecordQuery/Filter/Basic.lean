import RecordQuery.Value.Json

/-! # Filters

A filter is a tree of literals, paths of fields and calls of operators. -/

namespace RecordQuery

inductive Filter where
  | literal (value : Value)
  /-- A field by a path in one of its spellings. -/
  | field (path : String)
  | call (operator : String) (args : List Filter)
deriving Inhabited

namespace Filter

/-- The operator name that is reserved for fields. -/
def fieldForm : String := "field"

def isLiteral : Filter → Bool
  | literal _ => true
  | _ => false

mutual

/-- How deep calls nest; a filter without calls has depth one. -/
def depth : Filter → Nat
  | literal _ | field _ => 1
  | call _ args => depthOfArgs args + 1

def depthOfArgs : List Filter → Nat
  | [] => 0
  | arg :: rest => max (depth arg) (depthOfArgs rest)

end

mutual

/-- The paths of the fields of a filter in the order of the text. -/
def fields : Filter → List String
  | literal _ => []
  | field path => [path]
  | call _ args => fieldsOfArgs args

def fieldsOfArgs : List Filter → List String
  | [] => []
  | arg :: rest => fields arg ++ fieldsOfArgs rest

end

mutual

/-- The filter as messages quote it. -/
def text : Filter → String
  | literal value => value.text
  | field path => path
  | call operator args => operator ++ "(" ++ ", ".intercalate (textsOfArgs args) ++ ")"

def textsOfArgs : List Filter → List String
  | [] => []
  | arg :: rest => text arg :: textsOfArgs rest

end

mutual

/-- The filter as JSON: a call is an array that starts with the name of its operator. -/
def toJson : Filter → Json
  | literal value => value.toJson
  | field path => .array [.string fieldForm, .string path]
  | call operator args => .array (.string operator :: argsToJson args)

def argsToJson : List Filter → List Json
  | [] => []
  | arg :: rest => toJson arg :: argsToJson rest

end

end Filter

end RecordQuery
