import RecordQuery.Schema.Basic

/-! # Inheritance

The base types of an entity, nearest first, the types that may stand in for another, and the fields
that a type has or may have. A chain of base types may end in a type that is not registered, and it
may be cyclic: it is followed as long as it leads to new types. -/

namespace RecordQuery

/-- How a chain of base types ends. -/
inductive ChainEnd where
  /-- A type without base. -/
  | top
  /-- A base that is not registered. -/
  | missing (name : String)
  /-- A base that the chain has met before. -/
  | repeated (name : String)
deriving DecidableEq, Repr

namespace Schema

/-- The chain that goes on with a base, as long as it leads to a candidate; each candidate is taken
once. -/
def chainFrom (schema : Schema) (candidates : List String) :
    Option String → List String × ChainEnd
  | none => ([], .top)
  | some base =>
    if base ∈ candidates then
      let (types, ending) := chainFrom schema (candidates.erase base) (schema.base? base)
      (base :: types, ending)
    else ([], if schema.contains base then .repeated base else .missing base)
termination_by candidates.length
decreasing_by
  rename_i member
  rw [List.length_erase_of_mem member]
  exact Nat.sub_one_lt (Nat.ne_of_gt (List.length_pos_of_mem member))

/-- The registered types above a type, nearest first, and how their chain ends. -/
def chain (schema : Schema) (name : String) : List String × ChainEnd :=
  chainFrom schema (schema.names.erase name) (schema.base? name)

/-- The names of all types above a type, nearest first. -/
def ancestors (schema : Schema) (name : String) : List String :=
  match schema.chain name with
  | (types, .missing base) => types ++ [base]
  | (types, _) => types

/-- Following base types from a type on leads to some type twice. -/
def isCyclic (schema : Schema) (name : String) : Bool :=
  match (schema.chain name).2 with
  | .repeated _ => true
  | _ => false

/-- Records of type `sub` count as records of type `base`. -/
def isAssignable (schema : Schema) (base sub : String) : Bool :=
  base == sub || (schema.ancestors sub).contains base

/-- The registered types strictly below a type, in the order of their registration. -/
def subtypes (schema : Schema) (name : String) : List String :=
  schema.names.filter fun candidate => candidate != name && schema.isAssignable name candidate

/-- The fields that a type declares itself, each with the type. -/
def ownFields (schema : Schema) (name : String) : List (String × Field) :=
  match schema.get? name with
  | some entity => entity.fields.map fun field => (name, field)
  | none => []

/-- The field that a type declares or inherits, with its declaring type; the nearest declaration
counts. -/
def findField? (schema : Schema) (name field : String) : Option (String × Field) :=
  (name :: schema.ancestors name).findSome? fun owner =>
    ((schema.get? owner).bind (·.field? field)).map fun found => (owner, found)

/-- Of declarations with one name keeps the first. -/
def firstByName : List (String × Field) → List (String × Field)
  | [] => []
  | declaration :: rest =>
    declaration :: (firstByName rest).filter fun other => other.2.name != declaration.2.name

/-- The types whose fields may be found on records of a type: its ancestors, the farthest first, the
type itself and its subtypes. -/
def relatedTypes (schema : Schema) (name : String) : List String :=
  (schema.ancestors name).reverse ++ name :: schema.subtypes name

/-- The fields that records of a type may have, each with its declaring type. -/
def visibleFields (schema : Schema) (name : String) : List (String × Field) :=
  firstByName ((schema.relatedTypes name).flatMap schema.ownFields)

end Schema

end RecordQuery
