import RecordQuery.Compilation.Request
import RecordQuery.Request.Page
import RecordQuery.Store.Search

/-! # Searchers

A searcher answers requests over a schema with its configuration and its operators. -/

namespace RecordQuery

structure Searcher where
  schema : Schema
  config : Config := {}
  operators : Registry := .builtin

namespace Searcher

/-- A searcher over a schema, which has to be valid, with the operators that are built in. -/
def ofSchema (schema : Schema) (config : Config) : Except Fault Searcher := do
  schema.validate
  return { schema, config }

/-- The searchable fields of an entity. -/
def metadata (searcher : Searcher) (entity : String) : Except Fault Metadata :=
  Metadata.discover searcher.schema searcher.config.maxDiscoveryDepth entity

/-- Adds an operator; the answer is the operator that it replaces. -/
def register (searcher : Searcher) (name : String) (operator : Operator) :
    Except Fault (Option Operator × Searcher) := do
  let (replaced, operators) ←
    searcher.operators.register searcher.config.collisionPolicy name operator
  return (replaced, { searcher with operators })

/-- What filters may be written of. -/
def grammar (searcher : Searcher) : Filter.Grammar where
  isOperator := searcher.operators.contains
  maxDepth := searcher.config.maxExpressionDepth

def readRequest (searcher : Searcher) (json : Json) : Except Fault Request :=
  Request.ofJson searcher.grammar json

def readRequestText (searcher : Searcher) (text : String) : Except Fault Request :=
  Request.ofText searcher.grammar text

/-- The query of a request for an entity. -/
def compile (searcher : Searcher) (entity : String) (request : Request) : Except Fault Query := do
  let metadata ← searcher.metadata entity
  request.compile searcher.operators searcher.config.maxExpressionDepth searcher.schema metadata

/-- All records that a request asks for, whatever page it names. -/
def search (searcher : Searcher) (store : Store) (entity : String) (request : Request) :
    Except Fault (List Record) := do
  store.fetch (← searcher.compile entity request)

/-- The page that a request asks for. -/
def searchPage (searcher : Searcher) (store : Store) (entity : String) (request : Request) :
    Except Fault (Page Record) := do
  let page ← PageRequest.normalize request.pageSize request.pageOffset searcher.config
  let query ← searcher.compile entity request
  let total ← store.count query
  let (first, last) := page.bounds total
  let content ← if first < last then store.fetchSection query first (last - first) else pure []
  return Page.ofContent content page total

end Searcher

end RecordQuery
