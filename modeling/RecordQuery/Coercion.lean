import RecordQuery.Catalog.Descriptor
import RecordQuery.Value.Text
import RecordQuery.Fault
import RecordQuery.Binary64.Reader
import RecordQuery.Decimal.Reader
import RecordQuery.Decimal.Format
import RecordQuery.Calendar.Reader

/-! # Coercion

Literals are converted to what their field asks for before they are compared, and checked against
the constraints of the field. Loaded data is converted to the types of its fields. -/

namespace RecordQuery

namespace Value

/-- A value that does not convert to a target. -/
def mismatch {α : Type} (value : Value) (target : String) : Except Fault α :=
  .error (.coercion value.text target s!"{value.kindName} literals do not convert to {target}")

/-- A text that is not in the form of a target or of a pattern for it. -/
def unreadable {α : Type} (value : Value) (target : String) (pattern : Option String) :
    Except Fault α :=
  .error (.coercion value.text target <|
    match pattern with
    | some pattern => s!"does not match pattern '{pattern}'"
    | none => "not an ISO-8601 value")

/-- A moment in the form of a pattern. -/
def formatMoment (value : Value) (pattern : String) (moment : Calendar.Moment) :
    Except Fault String :=
  let items := Calendar.patternItems pattern
  if items.contains .invalid then
    .error (.coercion value.text "String" s!"invalid date pattern '{pattern}'")
  else
    match moment.format? items with
    | some text => .ok text
    | none => .error (.coercion value.text "String" s!"cannot format with '{pattern}'")

/-- The words in which the decimal library refuses a text without an exponent. It has several others
for texts with one, according to what is wrong with them; they are its own, no decision depends on
them, and these words stand for all. -/
def noDecimal : String := "Failed to parse"

/-- The decimal that the shortest text of a binary number stands for. -/
def decimalOfFloat (value : Value) (x : Binary64) : Except Fault Decimal :=
  match Decimal.ofText? x.text with
  | some d => .ok d
  | none => .error (.coercion value.text "Decimal" noDecimal)

/-- The decimal that a text stands for; blanks around it are ignored. -/
def decimalOfText (text : String) : Except Fault Decimal :=
  match Decimal.ofText? (Text.trim text) with
  | some d => .ok d
  | none => .error (.coercion ("\"" ++ text ++ "\"") "Decimal" noDecimal)

/-- The instant of a text in the form of RFC 3339, of a pattern, or else of a date with or without a
time in UTC. A date alone means its beginning. -/
def instantOfText? (pattern : Option String) (text : String) : Option Instant :=
  let dateAt (pattern : String) : Option Instant :=
    (Date.ofPattern? pattern text).map Instant.atMidnight
  (Instant.ofRfc3339? text).or <|
    match pattern with
    | some pattern => (Instant.ofPattern? pattern text).or (dateAt pattern)
    | none => (Instant.ofPattern? "%Y-%m-%dT%H:%M:%S%.f" text).or (dateAt "%Y-%m-%d")

/-- The text of a value in the form that directives ask for. -/
def toText (value : Value) (directives : Directives) : Except Fault String :=
  match value with
  | string s => .ok s
  | float x =>
    match directives.decimalFormat with
    | some pattern => (value.decimalOfFloat x).map (·.format pattern)
    | none => .ok x.text
  | decimal d =>
    match directives.decimalFormat with
    | some pattern => .ok (d.format pattern)
    | none => .ok d.text
  | date d =>
    match directives.datePattern with
    | some pattern => value.formatMoment pattern (.date d)
    | none => .ok d.text
  | dateTime i =>
    match directives.datePattern with
    | some pattern => value.formatMoment pattern (.instant i)
    | none => .ok i.text
  | time t =>
    match directives.datePattern with
    | some pattern => value.formatMoment pattern (.time t)
    | none => .ok t.text
  | list _ | null => value.mismatch "String"
  | other => .ok other.plainText

/-- A whole binary number is an integer if it has sixty-four bits and is not the least of these. -/
def toInteger (value : Value) : Except Fault Int64 :=
  let result : Option Int64 :=
    match value with
    | integer n => some n
    | float x => x.toInt?.bind fun n => if n = Int64.minValue.toInt then none else int64? n
    | decimal d => d.toInt?.bind int64?
    | string s => (Numeral.toInt? (Text.trimChars s.toList)).bind int64?
    | _ => none
  match result with
  | some n => .ok n
  | none => value.mismatch "Integer"

def toFloat (value : Value) : Except Fault Binary64 :=
  let result : Option Binary64 :=
    match value with
    | integer n => some (Binary64.ofInt n.toInt)
    | float x => some x
    | decimal d => some d.toBinary64
    | string s => Binary64.ofText? (Text.trim s)
    | _ => none
  match result with
  | some x => .ok x
  | none => value.mismatch "Float"

def toDecimal (value : Value) : Except Fault Decimal :=
  match value with
  | integer n => .ok (Decimal.ofInt64 n)
  | float x => value.decimalOfFloat x
  | decimal d => .ok d
  | string s => decimalOfText s
  | _ => value.mismatch "Decimal"

/-- The words for truth values are read in any case of ASCII letters. -/
def toBoolean (value : Value) : Except Fault Bool :=
  let result : Option Bool :=
    match value with
    | boolean b => some b
    | string s =>
      match String.ofList ((Text.trimChars s.toList).map Char.toLower) with
      | "true" => some true
      | "false" => some false
      | _ => none
    | _ => none
  match result with
  | some b => .ok b
  | none => value.mismatch "Boolean"

/-- The date of an instant is that of UTC; the date of a text with an offset is the local one. -/
def toDate (value : Value) (pattern : Option String) : Except Fault Date :=
  match value with
  | date d => .ok d
  | dateTime i => .ok i.date
  | string s =>
    let text := Text.trim s
    let result : Option Date :=
      match pattern with
      | some pattern => Date.ofPattern? pattern text
      | none =>
        (Date.ofPattern? "%Y-%m-%d" text).or ((Calendar.Local.ofText? text).map (·.date))
    match result with
    | some d => .ok d
    | none => value.unreadable "Date" pattern
  | _ => value.mismatch "Date"

def toInstant (value : Value) (pattern : Option String) : Except Fault Instant :=
  match value with
  | dateTime i => .ok i
  | date d => .ok (Instant.atMidnight d)
  | string s =>
    match instantOfText? pattern (Text.trim s) with
    | some i => .ok i
    | none => value.unreadable "DateTime" pattern
  | _ => value.mismatch "DateTime"

def toTime (value : Value) (pattern : Option String) : Except Fault TimeOfDay :=
  match value with
  | time t => .ok t
  | dateTime i => .ok i.time
  | string s =>
    let text := Text.trim s
    let result : Option TimeOfDay :=
      match pattern with
      | some pattern => TimeOfDay.ofPattern? pattern text
      | none =>
        (TimeOfDay.ofPattern? "%H:%M:%S%.f" text).or (TimeOfDay.ofPattern? "%H:%M" text)
    match result with
    | some t => .ok t
    | none => value.unreadable "Time" pattern
  | _ => value.mismatch "Time"

/-- The period of a text, which a fault quotes. -/
def periodOfText (text : String) : Except Fault Period :=
  (Period.ofText text).mapError fun problem =>
    .coercion ("\"" ++ text ++ "\"") "Period" problem.message

def toPeriod (value : Value) : Except Fault Period :=
  match value with
  | period p => .ok p
  | string s => periodOfText s
  | _ => value.mismatch "Period"

/-- A member of the enumeration that a field declares for itself or its items. -/
def toMember (value : Value) (native : Option ValueType) : Except Fault EnumMember :=
  match native.map ValueType.itemOrSelf with
  | some (.enumeration name members) => do
    let member ←
      match value with
      | enumMember e =>
        if e.typeName = name then .ok e.member
        else .error (.coercion value.text name
          s!"member of '{e.typeName}' used where '{name}' is expected")
      | string s => .ok s
      | _ => value.mismatch name
    if members.contains member then return { typeName := name, member }
    else .error (.coercion value.text name s!"'{member}' is not a member of '{name}'")
  | _ => .error (.coercion value.text "Enum" "field does not declare an enumeration type")

/-- Converts a value to a target. -/
def convert (value : Value) (target : Target) (native : Option ValueType)
    (directives : Directives) : Except Fault Value :=
  match target with
  | .untyped => .ok value
  | .string => (value.toText directives).map string
  | .integer => value.toInteger.map integer
  | .float => value.toFloat.map float
  | .decimal => value.toDecimal.map decimal
  | .boolean => value.toBoolean.map boolean
  | .date => (value.toDate directives.datePattern).map date
  | .dateTime => (value.toInstant directives.datePattern).map dateTime
  | .time => (value.toTime directives.datePattern).map time
  | .period => value.toPeriod.map period
  | .enumeration => (value.toMember native).map enumMember

/-- The number of digits of a number or text. -/
def digitCount? (value : Value) : Option Nat :=
  match value with
  | integer _ | float _ | decimal _ | string _ =>
    some (value.plainText.toList.countP Char.isDigit)
  | _ => none

/-- A count that has to lie between two limits; the messages say which limit it breaks. -/
def checkCount (count : Nat) (least most : Option Nat) (below above : Nat → String)
    (fault : String → Fault) : Except Fault Unit := do
  match least with
  | some least => if count < least then throw (fault (below least))
  | none => pure ()
  match most with
  | some most => if most < count then throw (fault (above most))
  | none => pure ()

/-- Checks a converted value against the constraints of a field. -/
def check (value : Value) (d : Descriptor) : Except Fault Unit := do
  let fault (reason : String) : Fault := .coercion value.text d.target.text reason
  match value with
  | string s =>
    checkCount s.length d.directives.minSize d.directives.maxSize
      (fun least => s!"length {s.length} is below the minimum of {least}")
      (fun most => s!"length {s.length} exceeds the maximum of {most}") fault
  | _ => pure ()
  match d.directives.regexPattern with
  | some pattern =>
    match d.pattern? with
    | some regex =>
      if !regex.isMatch value.plainText then throw (fault s!"does not match pattern '{pattern}'")
    | none =>
      throw (.invalidSchema d.declaringType s!"invalid pattern '{pattern}' on '{d.path}'")
  | none => pure ()
  match value.digitCount? with
  | some count =>
    checkCount count d.directives.minDigits d.directives.maxDigits
      (fun least => s!"{count} digits, at least {least} required")
      (fun most => s!"{count} digits, at most {most} allowed") fault
  | none => pure ()

mutual

/-- Converts a literal to what a field asks for and checks it. Null stays null, and lists are
converted item by item. -/
def coerce (d : Descriptor) : Value → Except Fault Value
  | null => .ok null
  | list items => (coerceItems d items).map list
  | other => do
    let converted ← other.convert d.target d.valueType? d.directives
    converted.check d
    return converted

def coerceItems (d : Descriptor) : List Value → Except Fault (List Value)
  | [] => .ok []
  | item :: rest => do return (← coerce d item) :: (← coerceItems d rest)

end

mutual

/-- Converts loaded data to a type. Null stays null, and only lists are lists. -/
def convertNative : ValueType → Value → Except Fault Value
  | _, null => .ok null
  | .list item, list items => (convertNativeItems item items).map list
  | .list item, other => .error (.coercion other.text (ValueType.list item).text "expected a list")
  | type, other => other.convert type.target (some type) {}

def convertNativeItems (type : ValueType) : List Value → Except Fault (List Value)
  | [] => .ok []
  | item :: rest => do return (← convertNative type item) :: (← convertNativeItems type rest)

end

end Value

end RecordQuery
