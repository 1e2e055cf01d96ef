/-! # Faults

Everything that can go wrong between a request and its answer, with the wording of its message and
an entry in the table of explanations. -/

namespace RecordQuery

/-- Why a request, a schema or a search is refused. -/
inductive Fault where
  /-- The request or its options have the wrong shape. -/
  | invalidRequest (reason : String)
  /-- An operator has arguments of the wrong number or kind. -/
  | malformed (operator reason : String)
  /-- No operator has the name. -/
  | unknownOperator (name : String)
  /-- The name of an operator is taken and may not be replaced. -/
  | operatorConflict (name : String)
  /-- The entity has no searchable field at the path. -/
  | unknownField (entity path : String)
  /-- No entity has the name. -/
  | unknownEntity (entity : String)
  /-- A literal does not convert to a type or breaks a constraint of its field. -/
  | coercion (literal target reason : String)
  /-- A segment of a path is declared on a type that is not related to the type reached. -/
  | unresolvableJoin (path segment declaringType currentType : String)
  /-- A schema or a record does not fit together. -/
  | invalidSchema (entity reason : String)
  /-- A search cannot be carried out. -/
  | execution (reason : String)
deriving DecidableEq, Repr

/-- The number of a kind of fault. -/
structure FaultCode where
  number : Nat
deriving DecidableEq, Repr

/-- The explanation of a kind of fault. -/
structure FaultInfo where
  number : Nat
  title : String
  description : String
  help : String
deriving DecidableEq, Repr

/-- The part of the work that a fault belongs to. -/
inductive FaultCategory where
  | parser
  | compilation
  | schema
  | execution
deriving DecidableEq, Repr

namespace FaultCode

/-- The number with four digits at least, after the letters of the program. -/
def text (code : FaultCode) : String :=
  "FS" ++ String.ofList ((Nat.toDigits 10 code.number).leftpad 4 '0')

def category (code : FaultCode) : FaultCategory :=
  if 1 ≤ code.number ∧ code.number ≤ 50 then .parser
  else if 51 ≤ code.number ∧ code.number ≤ 100 then .compilation
  else if 101 ≤ code.number ∧ code.number ≤ 150 then .schema
  else .execution

/-- The table of explanations. -/
def table : List FaultInfo :=
  [ { number := 1
      title := "Invalid search request"
      description :=
        "The request envelope is not an object, or its options have the wrong shape."
      help :=
        "Send an object with a `filter` member and optional `options` carrying `sortKey`, " ++
          "`pageSize` and `pageOffset`." },
    { number := 2
      title := "Malformed filter expression"
      description := "An operator received the wrong number or the wrong kind of arguments."
      help :=
        "Check the operator arity. Combinators take predicates, unary checks take exactly one " ++
          "field." },
    { number := 3
      title := "Unknown operator"
      description := "The first element of a call is not a registered operator name."
      help :=
        "Use one of the built-in operators or register a custom operator before compiling." },
    { number := 4
      title := "Operator name conflict"
      description :=
        "An operator with the same name is already registered and the collision policy rejects " ++
          "overrides."
      help := "Pick another name or configure the engine with the override collision policy." },
    { number := 51
      title := "Unknown field path"
      description := "The field path is not declared searchable on the queried entity."
      help :=
        "Relations are written with `>` (e.g. `>children.name`), embedded values and the final " ++
          "field with `.`." },
    { number := 52
      title := "Unknown entity type"
      description := "The entity type is not registered in the schema."
      help := "Register the entity schema before searching it." },
    { number := 53
      title := "Type coercion failure"
      description :=
        "A literal cannot be converted to the field's type, or violates a declared constraint."
      help :=
        "Check the literal format against the field type, date pattern and size/digit limits." },
    { number := 54
      title := "Unresolvable join"
      description :=
        "A path segment is declared on a type that is not related to the type being traversed."
      help := "Verify the inheritance declared in the schema." },
    { number := 101
      title := "Invalid schema declaration"
      description := "An entity schema references unknown types or is registered twice."
      help := "Register every referenced entity and give each entity a unique name." },
    { number := 151
      title := "Query engine failure"
      description := "The query engine could not execute the compiled query."
      help := "Inspect the message reported by the query engine." } ]

/-- The explanation of a number that is not in the table. -/
def unknownInfo : FaultInfo :=
  { number := 0
    title := "Unknown error"
    description := "An unknown error occurred."
    help := "This is an internal error, please report it." }

/-- The explanation of a kind of fault. -/
def info (code : FaultCode) : FaultInfo :=
  (table.find? (·.number == code.number)).getD unknownInfo

end FaultCode

namespace Fault

def code : Fault → FaultCode
  | invalidRequest _ => ⟨1⟩
  | malformed _ _ => ⟨2⟩
  | unknownOperator _ => ⟨3⟩
  | operatorConflict _ => ⟨4⟩
  | unknownField _ _ => ⟨51⟩
  | unknownEntity _ => ⟨52⟩
  | coercion _ _ _ => ⟨53⟩
  | unresolvableJoin _ _ _ _ => ⟨54⟩
  | invalidSchema _ _ => ⟨101⟩
  | execution _ => ⟨151⟩

/-- What happened, without the number. -/
def description : Fault → String
  | invalidRequest reason => s!"invalid search request: {reason}"
  | malformed operator reason => s!"malformed expression for '{operator}': {reason}"
  | unknownOperator name => s!"unknown operator '{name}'"
  | operatorConflict name => s!"operator '{name}' is already registered"
  | unknownField entity path => s!"unknown field '{path}' on entity '{entity}'"
  | unknownEntity entity => s!"unknown entity '{entity}'"
  | coercion literal target reason => s!"cannot coerce {literal} to {target}: {reason}"
  | unresolvableJoin path segment declaringType currentType =>
    s!"cannot reach '{segment}' of path '{path}': '{declaringType}' is not related to " ++
      s!"'{currentType}'"
  | invalidSchema entity reason => s!"invalid schema for '{entity}': {reason}"
  | execution reason => s!"query execution failed: {reason}"

/-- The message of a fault, which starts with its number. -/
def message (fault : Fault) : String := fault.code.text ++ ": " ++ fault.description

end Fault

end RecordQuery
