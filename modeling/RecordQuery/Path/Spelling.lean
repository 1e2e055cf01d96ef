import RecordQuery.Path.Segment

/-! # Spellings of paths

The parts of a path as someone writes it. A part is a nonempty name without `.` and `>`; each part
but the first follows one of the two signs, and `>` may stand before the first. -/

namespace RecordQuery

/-- A name in a written path, and whether it is written as a relation. -/
structure PathPart where
  relation : Bool
  name : List Char
deriving DecidableEq, Repr

namespace PathPart

def isNameChar (c : Char) : Bool := c != '.' && c != '>'

/-- Takes the sign before a part; the first part has no `.` before it. -/
def sign? (first : Bool) : List Char → Option (Bool × List Char)
  | '>' :: rest => some (true, rest)
  | '.' :: rest => if first then none else some (false, rest)
  | rest => some (false, rest)

theorem length_of_sign? {first relation : Bool} {cs rest : List Char}
    (taken : sign? first cs = some (relation, rest)) : rest.length ≤ cs.length := by
  unfold sign? at taken
  split at taken
  · cases taken
    simp
  · split at taken
    · cases taken
    · cases taken
      simp
  · cases taken
    exact Nat.le_refl _

/-- The parts of a written path, if it is well formed. -/
def split? (first : Bool) (cs : List Char) : Option (List PathPart) :=
  if !first && cs.isEmpty then some []
  else
    match _taken : sign? first cs with
    | none => none
    | some (relation, rest) =>
      match _named : rest.takeWhile isNameChar with
      | [] => none
      | c :: name =>
        (split? false (rest.dropWhile isNameChar)).map ({ relation, name := c :: name } :: ·)
termination_by cs.length
decreasing_by
  have whole := congrArg List.length (List.takeWhile_append_dropWhile (p := isNameChar) (l := rest))
  have shorter := length_of_sign? _taken
  simp only [_named, List.length_append, List.length_cons] at whole
  omega

/-- The parts of a written path. -/
def ofText? (path : String) : Option (List PathPart) := split? true path.toList

/-- The part may stand for a segment. The sign `>` is for relations only, and only a relation to one
record may do without it. -/
def stands (part : PathPart) (segment : Segment) : Bool :=
  String.ofList part.name == segment.name &&
    match segment.kind with
    | .relation _ cardinality => part.relation || cardinality == .one
    | _ => !part.relation

/-- The parts may stand for the segments one by one. -/
def spells : List PathPart → List Segment → Bool
  | [], [] => true
  | part :: parts, segment :: segments => part.stands segment && spells parts segments
  | _, _ => false

end PathPart

end RecordQuery
