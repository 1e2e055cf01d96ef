import RecordQuery.Path.Spelling
import RecordQuery.Schema.Validation

/-! # Descriptors

A descriptor is a searchable field together with the path that leads to it. -/

namespace RecordQuery

/-- A searchable field at the end of a path. -/
structure Descriptor where
  /-- The segments on the way to the field. -/
  leading : List Segment
  terminal : Segment
  kind : FieldKind
  directives : Directives
deriving DecidableEq, Repr

namespace Descriptor

def segments (d : Descriptor) : List Segment := d.leading ++ [d.terminal]

/-- The canonical text of the path. -/
def path (d : Descriptor) : String := Segment.canonicalText d.segments

/-- A written path means this field. -/
def accepts (d : Descriptor) (spelling : String) : Bool :=
  match PathPart.ofText? spelling with
  | some parts => PathPart.spells parts d.segments
  | none => false

def name (d : Descriptor) : String := d.terminal.name

/-- The type that declares the field. -/
def declaringType (d : Descriptor) : String := d.terminal.declaringType

def valueType? (d : Descriptor) : Option ValueType := d.kind.valueType?

/-- What literals for the field are converted to: the target of the directives, or else that of the
field's type. -/
def target (d : Descriptor) : Target :=
  match d.directives.target, d.valueType? with
  | .untyped, some type => type.target
  | target, _ => target

def isCollection (d : Descriptor) : Bool := d.kind.isCollection

/-- The path crosses a relation to many records. -/
def crossesCollection (d : Descriptor) : Bool := d.segments.any Segment.isToMany

/-- The expression of the field's pattern, if there is one and it is well formed. -/
def pattern? (d : Descriptor) : Option Regex :=
  d.directives.regexPattern.bind Regex.ofFieldPattern?

end Descriptor

end RecordQuery
