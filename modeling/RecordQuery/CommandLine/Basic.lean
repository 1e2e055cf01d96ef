import RecordQuery.CommandLine.Arguments
import RecordQuery.Json.Writer
import RecordQuery.Searcher

/-! # The command line program

Reads a schema, a configuration and records from files and a request from a file or the standard
input, and prints the records that match. -/

namespace RecordQuery.CommandLine

/-- What the program is asked to do. -/
structure Task where
  /-- The file with the entities. -/
  schema : String
  /-- The file with the records of each entity. -/
  data : Option String
  entity : String
  /-- The file with the request; without it the request is the standard input. -/
  request : Option String
  config : Option String
  explain : Bool
  page : Bool
  pretty : Bool
deriving DecidableEq, Repr

/-- The contents that the program may read. -/
structure Inputs where
  file? : String → Option String
  stdin : Option String

/-- Why the program stops: what it was about to do, and the fault behind it if there is one. -/
structure Failure where
  text : String
  cause : Option Fault := none

namespace Failure

def ofFault (fault : Fault) : Failure := { text := fault.message }

/-- The message on the standard error output. -/
def report (failure : Failure) : String :=
  "Error: " ++ failure.text ++
    match failure.cause with
    | some fault => "\n\nCaused by:\n    " ++ fault.message
    | none => ""

end Failure

/-- A task for arguments that name a schema and an entity. -/
def Task.ofArguments? (arguments : Arguments) : Option Task := do
  return {
    schema := ← arguments.get? .schema
    data := arguments.get? .data
    entity := ← arguments.get? .entity
    request := arguments.operands.head?
    config := arguments.get? .config
    explain := arguments.has .explain
    page := arguments.has .page
    pretty := arguments.has .pretty }

/-- How the program is called. -/
def usage : String :=
  "Usage: --schema <FILE> --entity <NAME> [--data <FILE>] [--config <FILE>] " ++
    "[--explain] [--page] [--pretty] [REQUEST]"

/-- The content of a file that has to be there. -/
def Inputs.read (inputs : Inputs) (path : String) : Except Failure String :=
  match inputs.file? path with
  | some content => .ok content
  | none => .error { text := s!"reading {path}" }

/-- Reads the schema. -/
def loadSchema (inputs : Inputs) (path : String) : Except Failure Schema := do
  let content ← inputs.read path
  (Schema.ofText content).mapError fun fault =>
    { text := s!"loading schema {path}", cause := some fault }

/-- Reads the configuration; without a file it is the default. -/
def loadConfig (inputs : Inputs) : Option String → Except Failure Config
  | none => .ok {}
  | some path => do
    match (Json.ofTextRaw? (← inputs.read path)).bind Config.ofJson? with
    | some config => return config
    | none => throw { text := s!"parsing configuration {path}" }

/-- Adds the records of each entity to a store. -/
def loadMembers (store : Store) : List (String × Json) → Except Failure Store
  | [] => .ok store
  | (entity, records) :: rest =>
    match store.load entity records with
    | (larger, .ok _) => loadMembers larger rest
    | (_, .error fault) =>
      .error { text := s!"loading '{entity}' records", cause := some fault }

/-- Reads the records; without a file there are none. -/
def loadStore (inputs : Inputs) (schema : Schema) : Option String → Except Failure Store
  | none => .ok { schema }
  | some path => do
    match Json.ofText? (← inputs.read path) with
    | some (.object members) => loadMembers { schema } members
    | some _ => throw { text := s!"{path} must hold an object keyed by entity name" }
    | none => throw { text := s!"parsing {path}" }

/-- Reads the text of the request. -/
def requestText (inputs : Inputs) : Option String → Except Failure String
  | some path => inputs.read path
  | none =>
    match inputs.stdin with
    | some text => .ok text
    | none => .error { text := "reading request from stdin" }

/-- The lines that explain a query. -/
def explanation (query : Query) (filter : Option Filter) : List String :=
  let condition := (query.predicate.map Predicate.text).getD "TRUE"
  let orders := query.orders.map fun order =>
    s!"ORDER BY {order.expr.text} {order.direction.text}"
  let fields := filter.toList.map fun filter => "FIELDS " ++ ", ".intercalate filter.fields
  [s!"WHERE {condition}"] ++ orders ++ fields ++ [s!"JOINS {query.joinCount}"]

/-- The records or the page that a request asks for, as JSON. -/
def results (task : Task) (searcher : Searcher) (store : Store) (request : Request) :
    Except Fault Json := do
  if task.page then
    return (← searcher.searchPage store task.entity request).toJson Record.toJson
  else return .array ((← searcher.search store task.entity request).map Record.toJson)

/-- Everything that the program prints. -/
def run (task : Task) (inputs : Inputs) : Except Failure String := do
  let schema ← loadSchema inputs task.schema
  let config ← loadConfig inputs task.config
  let searcher ← (Searcher.ofSchema schema config).mapError Failure.ofFault
  let store ← loadStore inputs schema task.data
  let text ← requestText inputs task.request
  let request ← (searcher.readRequestText text).mapError Failure.ofFault
  if task.explain then
    let query ← (searcher.compile task.entity request).mapError Failure.ofFault
    return "".intercalate ((explanation query request.filter).map (· ++ "\n"))
  else
    let output ← (results task searcher store request).mapError Failure.ofFault
    return (if task.pretty then output.pretty else output.compact) ++ "\n"

end RecordQuery.CommandLine
