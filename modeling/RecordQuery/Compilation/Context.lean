import RecordQuery.Catalog.Metadata
import RecordQuery.Catalog.Traversal
import RecordQuery.Query.Expr

/-! # Compilation contexts

While a request is compiled, sources are made once for each text of the steps that lead to them, and
the joins among them are counted. -/

namespace RecordQuery

/-- What is known while a request for an entity is compiled. -/
structure Context where
  schema : Schema
  /-- The searchable fields of the entity. -/
  metadata : Metadata
  /-- The sources made so far, each under the text of its steps. -/
  sources : List (String × Source) := []
  /-- How many joins are among the sources. -/
  joinCount : Nat := 0

/-- A part of the compilation of a request. -/
abbrev Compiler (α : Type) := StateT Context (Except Fault) α

/-- The source that a step leads to from another one; an attribute is no source. -/
def Step.source? (parent : Source) : Step → Option Source
  | narrow type => some (.narrow parent type)
  | join relation => some (.join parent relation .left)
  | embedded name => some (.embedded parent name)
  | attr _ => none

namespace Context

/-- The entity searched for. -/
def entity (context : Context) : String := context.metadata.entity

def root (context : Context) : Source := .root context.entity

/-- The source under a key; if there is none yet, the one given is put there. -/
def enter (context : Context) (key : String) (isJoin : Bool) (made : Source) : Source × Context :=
  match context.sources.lookup key with
  | some source => (source, context)
  | none =>
    (made,
      { context with
        sources := (key, made) :: context.sources
        joinCount := context.joinCount + if isJoin then 1 else 0 })

/-- The attribute that steps end in. They go on from a source that has been reached by steps with
the text `key`. -/
def follow (context : Context) (key : String) (reached : Source) :
    Traversal → Option Expr × Context
  | [] => (none, context)
  | .attr name :: _ => (some (.attr reached name), context)
  | step :: rest =>
    match step.source? reached with
    | none => (none, context)
    | some made =>
      let key := key ++ step.text
      let (source, context) := context.enter key step.isJoin made
      follow context key source rest

/-- The expression of a field. -/
def expr (context : Context) (d : Descriptor) : Except Fault (Expr × Context) := do
  let steps ← Traversal.resolve context.schema context.entity d
  match context.follow "" context.root steps with
  | (some expr, context) => return (expr, context)
  | (none, _) =>
    throw (.execution s!"traversal '{Traversal.text steps}' does not end in an attribute")

/-- The field that a written path means, and its expression. -/
def field (context : Context) (path : String) : Except Fault ((Expr × Descriptor) × Context) := do
  let d ← context.metadata.field path
  let (expr, context) ← context.expr d
  return ((expr, d), context)

end Context

end RecordQuery
