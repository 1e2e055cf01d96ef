import RecordQuery.Query.Basic
import RecordQuery.Record.Basic
import RecordQuery.Schema.Inheritance

/-! # Assignments

Every join of a query is a variable over the records that its relation leads to. An assignment gives
each join one of these records, or none where a left join leads nowhere. -/

namespace RecordQuery

/-- What joins stand for. A join that is not listed stands for no record. -/
abbrev Assignment := List (Join × Option Record)

namespace Assignment

/-- The record that a join stands for. -/
def record? (assignment : Assignment) (j : Join) : Option Record := (assignment.lookup j).join

end Assignment

namespace Source

/-- The record of a source under an assignment. A narrowed source has a record only if it is of the
subtype. -/
def record? (schema : Schema) (root : Record) (assignment : Assignment) : Source → Option Record
  | .root _ => some root
  | join parent relation kind => assignment.record? ⟨parent, relation, kind⟩
  | embedded parent name =>
    match (parent.record? schema root assignment).bind (·.get? name) with
    | some (.embedded value) => some value
    | _ => none
  | narrow parent type =>
    (parent.record? schema root assignment).filter fun record =>
      schema.isAssignable type record.entity

/-- What a source holds under a name. -/
def datum? (schema : Schema) (root : Record) (assignment : Assignment) (source : Source)
    (name : String) : Option Datum :=
  (source.record? schema root assignment).bind (·.get? name)

end Source

namespace Join

/-- The records that a join leads to. -/
def targets (schema : Schema) (root : Record) (assignment : Assignment) (j : Join) : List Record :=
  ((j.parent.datum? schema root assignment j.relation).map Datum.targets).getD []

/-- What a join may stand for: one of the records that it leads to, or if there are none, no record
for a left join and nothing at all for an inner one. -/
def choices (schema : Schema) (root : Record) (assignment : Assignment) (j : Join) :
    List (Option Record) :=
  match j.targets schema root assignment, j.kind with
  | [], .left => [none]
  | [], .inner => []
  | targets, _ => targets.map some

end Join

namespace Assignment

/-- The ways to go on with an assignment for further joins, of which each one follows the joins on
the way to it. Earlier joins vary more slowly. -/
def extensions (schema : Schema) (root : Record) (assignment : Assignment) :
    List Join → List Assignment
  | [] => [assignment]
  | j :: rest =>
    (j.choices schema root assignment).flatMap fun choice =>
      extensions schema root ((j, choice) :: assignment) rest

/-- The assignments of joins for a record that is searched for. -/
def all (schema : Schema) (root : Record) (joins : List Join) : List Assignment :=
  extensions schema root [] joins

end Assignment

end RecordQuery
