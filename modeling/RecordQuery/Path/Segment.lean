import RecordQuery.Schema.Type

/-! # Segments of paths

A searchable path is a sequence of segments that starts at an entity. In its canonical text a
relation is written after `>`; any other segment after `.`, unless it is the first. -/

namespace RecordQuery

/-- What a segment leads to. -/
inductive SegmentKind where
  | relation (target : String) (cardinality : Cardinality)
  | embedded (type : String)
  | attr
deriving DecidableEq, Repr

/-- A step from a type to one of its fields. -/
structure Segment where
  name : String
  declaringType : String
  kind : SegmentKind
deriving DecidableEq, Repr

namespace Segment

def isRelation (segment : Segment) : Bool :=
  match segment.kind with
  | .relation _ _ => true
  | _ => false

/-- The segment crosses a relation to many records. -/
def isToMany (segment : Segment) : Bool :=
  match segment.kind with
  | .relation _ .many => true
  | _ => false

/-- The type that a segment leads to. -/
def target? (segment : Segment) : Option String :=
  match segment.kind with
  | .relation target _ => some target
  | .embedded type => some type
  | .attr => none

/-- Writes a segment behind what is written of its path. -/
def appendTo (written : List Char) (segment : Segment) : List Char :=
  (if segment.isRelation then written ++ ['>']
    else if written.isEmpty then written
    else written ++ ['.']) ++ segment.name.toList

/-- The canonical text of a path. -/
def canonicalChars (segments : List Segment) : List Char := segments.foldl appendTo []

def canonicalText (segments : List Segment) : String := String.ofList (canonicalChars segments)

end Segment

end RecordQuery
