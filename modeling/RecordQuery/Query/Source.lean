/-! # Sources

A source is a place that a query draws values from: the record searched for, a record that a
relation leads to, an embedded value, or one of these narrowed to a subtype. -/

namespace RecordQuery

inductive JoinKind where
  /-- Where the relation leads nowhere, nothing matches. -/
  | inner
  /-- Where the relation leads nowhere, the values behind it are missing. -/
  | left
deriving DecidableEq, Repr

/-- A place that values are drawn from. -/
inductive Source where
  /-- The record searched for. -/
  | root (entity : String)
  /-- A record that a relation of another source leads to. -/
  | join (parent : Source) (relation : String) (kind : JoinKind)
  /-- A value inside the record of another source. -/
  | embedded (parent : Source) (name : String)
  /-- The record of another source, if it is of a subtype. -/
  | narrow (parent : Source) (type : String)
deriving DecidableEq, Repr

/-- A relation that a query follows from a source. -/
structure Join where
  parent : Source
  relation : String
  kind : JoinKind
deriving DecidableEq, Repr

/-- The source that a join leads to. -/
def Join.source (j : Join) : Source := .join j.parent j.relation j.kind

namespace Source

/-- The joins on the way from the record searched for, the outermost first. -/
def joins : Source → List Join
  | root _ => []
  | join parent relation kind => parent.joins ++ [⟨parent, relation, kind⟩]
  | embedded parent _ | narrow parent _ => parent.joins

def text : Source → String
  | root entity => entity
  | join parent relation .left => parent.text ++ ">" ++ relation
  | join parent relation .inner => parent.text ++ ">>" ++ relation
  | embedded parent name => parent.text ++ "." ++ name
  | narrow parent type => parent.text ++ "<" ++ type ++ ">"

end Source

end RecordQuery
