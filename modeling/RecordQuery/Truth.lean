/-! # Truth

Truth with three values. A condition on values that are missing or not comparable is unknown, which
is written `none`. -/

namespace RecordQuery

/-- True, false or unknown. -/
abbrev Truth := Option Bool

namespace Truth

def not : Truth → Truth
  | some b => some !b
  | none => none

/-- Both: false if one of the two is false, else unknown if one is. -/
def and : Truth → Truth → Truth
  | some false, _ => some false
  | _, some false => some false
  | some true, some true => some true
  | _, _ => none

/-- At least one: true if one of the two is true, else unknown if one is. -/
def or : Truth → Truth → Truth
  | some true, _ => some true
  | _, some true => some true
  | some false, some false => some false
  | _, _ => none

/-- All of a list; all of no conditions is true. -/
def all (truths : List Truth) : Truth := truths.foldr and (some true)

/-- At least one of a list; one of no conditions is false. -/
def any (truths : List Truth) : Truth := truths.foldr or (some false)

end Truth

end RecordQuery
