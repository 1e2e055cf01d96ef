/-! # Types of fields

The types of the values that scalar fields hold, the targets that literals convert to, and what a
field of an entity is. -/

namespace RecordQuery

/-- The type of the values of a field. -/
inductive ValueType where
  | boolean
  | integer
  | float
  | decimal
  | string
  | date
  | dateTime
  | time
  | period
  | enumeration (name : String) (members : List String)
  | list (item : ValueType)
deriving DecidableEq, Repr

/-- What a literal is converted to before it is compared with a field. -/
inductive Target where
  | untyped
  | string
  | integer
  | float
  | decimal
  | boolean
  | date
  | dateTime
  | time
  | period
  | enumeration
deriving DecidableEq, Repr

inductive Cardinality where
  | one
  | many
deriving DecidableEq, Repr

namespace ValueType

def text : ValueType → String
  | boolean => "Boolean"
  | integer => "Integer"
  | float => "Float"
  | decimal => "Decimal"
  | string => "String"
  | date => "Date"
  | dateTime => "DateTime"
  | time => "Time"
  | period => "Period"
  | enumeration name _ => name
  | list item => "List<" ++ item.text ++ ">"

/-- The name of an enumeration. -/
def enumName? : ValueType → Option String
  | enumeration name _ => some name
  | _ => none

def isList : ValueType → Bool
  | list _ => true
  | _ => false

/-- The type of the items of a list, any other type itself. -/
def itemOrSelf : ValueType → ValueType
  | list item => item
  | other => other

/-- The target of a type; the target of a list is that of its items. -/
def target : ValueType → Target
  | boolean => .boolean
  | integer => .integer
  | float => .float
  | decimal => .decimal
  | string => .string
  | date => .date
  | dateTime => .dateTime
  | time => .time
  | period => .period
  | enumeration _ _ => .enumeration
  | list item => item.target

end ValueType

namespace Target

def text : Target → String
  | untyped => "Untyped"
  | string => "String"
  | integer => "Integer"
  | float => "Float"
  | decimal => "Decimal"
  | boolean => "Boolean"
  | date => "Date"
  | dateTime => "DateTime"
  | time => "Time"
  | period => "Period"
  | enumeration => "Enum"

end Target

/-- How literals for a field are converted, what they have to satisfy, and whether results may be
sorted by the field. -/
structure Directives where
  target : Target := .untyped
  datePattern : Option String := none
  maxSize : Option Nat := none
  minSize : Option Nat := none
  regexPattern : Option String := none
  maxDigits : Option Nat := none
  minDigits : Option Nat := none
  decimalFormat : Option String := none
  sortable : Bool := true
  trim : Bool := false
deriving DecidableEq, Repr

/-- What a field holds. -/
inductive FieldKind where
  | scalar (type : ValueType)
  /-- A value object of a type. -/
  | embedded (type : String)
  /-- Records of a type. -/
  | relation (target : String) (cardinality : Cardinality)
deriving DecidableEq, Repr

namespace FieldKind

def valueType? : FieldKind → Option ValueType
  | scalar type => some type
  | _ => none

/-- The type of the records or value objects of a field. -/
def target? : FieldKind → Option String
  | scalar _ => none
  | embedded type => some type
  | relation target _ => some target

def isCollection : FieldKind → Bool
  | scalar type => type.isList
  | embedded _ => false
  | relation _ cardinality => cardinality == .many

end FieldKind

/-- A field of an entity. Only fields with directives can be searched, and only nested fields lead
on to the fields of their type. -/
structure Field where
  name : String
  kind : FieldKind
  searchable : Option Directives := none
  nested : Bool := false
deriving DecidableEq, Repr

/-- A type of records. It has the fields of its base type besides its own. -/
structure Entity where
  name : String
  base : Option String := none
  fields : List Field := []
deriving DecidableEq, Repr

/-- The field of an entity's own with a name. -/
def Entity.field? (entity : Entity) (name : String) : Option Field :=
  entity.fields.find? (·.name == name)

end RecordQuery
