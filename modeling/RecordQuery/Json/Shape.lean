import RecordQuery.Json.Basic

/-! # Shapes of JSON

Reading typed data out of JSON trees. A record is an object, whose unknown members are ignored, or
an array of its fields in their order; a choice is the name of its alternative, alone or with
content. -/

namespace RecordQuery.Json

/-- How a document is handed over. -/
inductive Form where
  | text
  | tree
deriving DecidableEq, Repr

/-- The fields of a record in the order of their names. A name may not occur twice, and an array may
not be longer than the list of names. -/
def fields? (names : List String) : Json → Option (List (Option Json))
  | object members =>
    if names.all fun name => members.countP (·.1 == name) ≤ 1 then
      some (names.map fun name => member? name members)
    else none
  | array items =>
    if items.length ≤ names.length then some ((List.range names.length).map fun i => items[i]?)
    else none
  | _ => none

/-- The fields of an alternative. They may be given as an array in a text but not in a tree. -/
def contentFields? (form : Form) (names : List String) (content : Json) :
    Option (List (Option Json)) :=
  match form, content with
  | .tree, array _ => none
  | _, content => content.fields? names

/-- The name of an alternative with its content. -/
def alternative? : Json → Option (String × Option Json)
  | string name => some (name, none)
  | object [(name, content)] => some (name, some content)
  | _ => none

/-- The name of an alternative without content. -/
def plainAlternative? (json : Json) : Option String :=
  match alternative? json with
  | some (name, none) | some (name, some null) => some name
  | _ => none

/-- A field that has to be there. -/
def required? {α : Type} (decode : Json → Option α) (field : Option Json) : Option α :=
  field.bind decode

/-- A field that may be missing or null. -/
def optional? {α : Type} (decode : Json → Option α) : Option Json → Option (Option α)
  | none | some null => some none
  | some json => (decode json).map some

/-- A field that may be missing. -/
def defaulted? {α : Type} (default : α) (decode : Json → Option α) : Option Json → Option α
  | none => some default
  | some json => decode json

def text? : Json → Option String
  | string s => some s
  | _ => none

def truth? : Json → Option Bool
  | bool b => some b
  | _ => none

/-- A natural number of sixty-four bits. -/
def size? : Json → Option Nat
  | integer n => if 0 ≤ n ∧ n < 0x10000000000000000 then some n.toNat else none
  | _ => none

def list? {α : Type} (decode : Json → Option α) : Json → Option (List α)
  | array items => items.mapM decode
  | _ => none

end RecordQuery.Json
