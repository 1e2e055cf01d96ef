import RecordQuery.Catalog.Descriptor

/-! # Traversals

The steps that lead from records of an entity to a field. Where a segment is declared on a subtype
of the type reached, the records are narrowed to the subtype first. -/

namespace RecordQuery

/-- A step from a record towards a field. -/
inductive Step where
  /-- Only records of a subtype. -/
  | narrow (type : String)
  | join (relation : String)
  | embedded (name : String)
  | attr (name : String)
deriving DecidableEq, Repr

namespace Step

def text : Step → String
  | narrow type => "<" ++ type ++ ">"
  | join relation => ">" ++ relation
  | embedded name => "." ++ name
  | attr name => "." ++ name

def isJoin : Step → Bool
  | join _ => true
  | _ => false

end Step

/-- Steps in order. -/
abbrev Traversal := List Step

namespace Traversal

def text (steps : Traversal) : String := String.join (steps.map Step.text)

def joinCount (steps : Traversal) : Nat := steps.countP Step.isJoin

/-- The step of a segment and the type that is reached by it. -/
def segmentStep (current : String) (segment : Segment) : Step × String :=
  match segment.kind with
  | .relation target _ => (.join segment.name, target)
  | .embedded type => (.embedded segment.name, type)
  | .attr => (.attr segment.name, current)

/-- The narrowing before a segment, if the type reached does not have the segment itself; none if
the types are not related. -/
def narrowing? (schema : Schema) (current declaring : String) : Option (List Step) :=
  if schema.isAssignable declaring current then some []
  else if schema.isAssignable current declaring then some [.narrow declaring]
  else none

/-- The steps of segments from a type on. -/
def ofSegments (schema : Schema) (path : String) (current : String) :
    List Segment → Except Fault Traversal
  | [] => .ok []
  | segment :: rest =>
    match narrowing? schema current segment.declaringType with
    | none => .error (.unresolvableJoin path segment.name segment.declaringType current)
    | some narrowing => do
      let reached := if narrowing.isEmpty then current else segment.declaringType
      let (step, next) := segmentStep reached segment
      let steps ← ofSegments schema path next rest
      return narrowing ++ step :: steps

/-- The steps from records of an entity to a field. -/
def resolve (schema : Schema) (root : String) (d : Descriptor) : Except Fault Traversal :=
  ofSegments schema d.path root d.segments

end Traversal

end RecordQuery
