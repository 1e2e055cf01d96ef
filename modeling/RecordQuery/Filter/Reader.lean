import RecordQuery.Filter.Basic
import RecordQuery.Json.Reader

/-! # Reading filters

An array that starts with a string is a call; any other array is a list literal. Names of operators
have to be known, and calls nest at most to a bound. -/

namespace RecordQuery.Filter

/-- What reading a filter depends on. -/
structure Grammar where
  isOperator : String → Bool
  maxDepth : Nat

/-- A filter that nests deeper than allowed. -/
def tooDeep (maxDepth : Nat) : Fault :=
  .malformed "filter" s!"nesting exceeds the maximum depth of {maxDepth}"

/-- An item of a list literal; objects are none. -/
def literalItem : Json → Except Fault Value
  | .object _ => .error (.malformed "object" "objects are not valid list elements")
  | other => Value.ofJson other

mutual

/-- Reads a filter at a depth. -/
def readAt (grammar : Grammar) (depth : Nat) (json : Json) : Except Fault Filter :=
  if grammar.maxDepth < depth then .error (tooDeep grammar.maxDepth)
  else
    match json with
    | .array (.string head :: args) =>
      if head = fieldForm then
        match args with
        | [.string path] => .ok (field path)
        | _ => .error (.malformed fieldForm "expected exactly one string path")
      else if grammar.isOperator head then
        (readArgsAt grammar (depth + 1) args).map (call head)
      else .error (.unknownOperator head)
    | .array items => (items.mapM literalItem).map fun values => literal (.list values)
    | .object _ => .error (.malformed "object" "objects are not valid filter expressions")
    | scalar => (Value.ofJson scalar).map literal

/-- Reads arguments in order; the first fault is reported. -/
def readArgsAt (grammar : Grammar) (depth : Nat) : List Json → Except Fault (List Filter)
  | [] => .ok []
  | json :: rest => do return (← readAt grammar depth json) :: (← readArgsAt grammar depth rest)

end

/-- Reads a filter. -/
def ofJson (grammar : Grammar) (json : Json) : Except Fault Filter := readAt grammar 1 json

/-- Reads a filter from JSON text. -/
def ofText (grammar : Grammar) (text : String) : Except Fault Filter :=
  match Json.ofText? text with
  | some json => ofJson grammar json
  | none => .error (.invalidRequest "invalid JSON")

end RecordQuery.Filter
