import RecordQuery.Filter.Reader
import RecordQuery.Request.Sort
import RecordQuery.Json.Shape

/-! # Requests

A request is an object with a filter and options for sorting and paging. -/

namespace RecordQuery

/-- What is searched for, in which order it is returned, and which part of it. -/
structure Request where
  filter : Option Filter := none
  sort : List SortCriterion := []
  pageSize : Option Nat := none
  pageOffset : Nat := 0

namespace Request

/-- The options of a request as they are written. -/
structure Options where
  sortKeys : List String := []
  pageSize : Option Nat := none
  pageOffset : Option Nat := none

/-- One sort key or a list of them. -/
def sortKeys? : Json → Option (List String)
  | .string key => some [key]
  | other => other |> Json.list? Json.text?

def Options.ofJson? (json : Json) : Option Options := do
  match ← json.fields? ["sortKey", "pageSize", "pageOffset"] with
  | [sortKey, pageSize, pageOffset] =>
    return {
      sortKeys := (← Json.optional? sortKeys? sortKey).getD []
      pageSize := ← Json.optional? Json.size? pageSize
      pageOffset := ← Json.optional? Json.size? pageOffset }
  | _ => none

/-- Reads the options of a request; null stands for none. -/
def readOptions : Option Json → Except Fault Options
  | none | some .null => .ok {}
  | some json =>
    match Options.ofJson? json with
    | some options => .ok options
    | none => .error (.invalidRequest "invalid options")

/-- Reads the filter of a request; null stands for none. -/
def readFilter (grammar : Filter.Grammar) : Option Json → Except Fault (Option Filter)
  | none | some .null => .ok none
  | some json => (Filter.ofJson grammar json).map some

/-- Reads a request. -/
def ofJson (grammar : Filter.Grammar) (json : Json) : Except Fault Request :=
  match json with
  | .object members => do
    let filter ← readFilter grammar (Json.member? "filter" members)
    let options ← readOptions (Json.member? "options" members)
    let sort ← options.sortKeys.mapM SortCriterion.ofText
    return { filter, sort, pageSize := options.pageSize, pageOffset := options.pageOffset.getD 0 }
  | _ => .error (.invalidRequest "the request must be a JSON object")

/-- Reads a request from JSON text. -/
def ofText (grammar : Filter.Grammar) (text : String) : Except Fault Request :=
  match Json.ofText? text with
  | some json => ofJson grammar json
  | none => .error (.invalidRequest "invalid JSON")

end Request

end RecordQuery
