import RecordQuery.Calendar.Pattern
import RecordQuery.Calendar.Names
import RecordQuery.Calendar.Time
import RecordQuery.Text.Numeral

/-! # Writing dates and times

The ISO forms of dates, times and instants, and the form a pattern asks for. -/

namespace RecordQuery

open Calendar

namespace Calendar

/-- A number with a sign if `showSign` holds, filled up to a width; a sign takes one place more. -/
def padNumber (width : Nat) (padding : Padding) (showSign : Bool) (n : Int) : List Char :=
  let sign := if n < 0 then ['-'] else if showSign then ['+'] else []
  let width := if showSign then width + 1 else width
  let digits := Numeral.digits n.natAbs
  match padding with
  | .none => sign ++ digits
  | .zero => sign ++ digits.leftpad (width - sign.length) '0'
  | .space => (sign ++ digits).leftpad width ' '

/-- A year has four digits; one outside of 0 to 9999 is written with its sign. -/
def yearText (padding : Padding) (year : Int) : List Char :=
  padNumber 4 padding (year < 0 || 9999 < year) year

/-- A number below a hundred in two places. The tens of a greater number are written as the
character that many places after `0`. -/
def twoDigits (padding : Padding) (n : Nat) : List Char :=
  let tens :=
    match n / 10, padding with
    | 0, .none => []
    | 0, .space => [' ']
    | tens, _ => [Char.ofNat (48 + tens)]
  tens ++ [Nat.digitChar (n % 10)]

/-- The leading digits of nine that show thousandths, millionths or thousand-millionths. -/
def fractionText (digits nanos : Nat) : List Char :=
  Numeral.padded digits (nanos / Nat.pow 10 (9 - digits))

/-- The shortest of no, three, six or nine digits after a point that show all of a fraction. -/
def shortestFraction (nanos : Nat) : List Char :=
  if nanos = 0 then []
  else if nanos % 1000000 = 0 then '.' :: fractionText 3 nanos
  else if nanos % 1000 = 0 then '.' :: fractionText 6 nanos
  else '.' :: fractionText 9 nanos

end Calendar

def Date.chars (d : Date) : List Char :=
  yearText .zero d.year ++ '-' :: twoDigits .zero d.month ++ '-' :: twoDigits .zero d.day

/-- The date in the form `2024-06-09`. -/
def Date.text (d : Date) : String := String.ofList d.chars

def TimeOfDay.chars (t : TimeOfDay) : List Char :=
  twoDigits .zero t.hour ++ ':' :: twoDigits .zero t.minute ++ ':' :: twoDigits .zero t.second ++
    shortestFraction t.fraction

/-- The time in the form `12:30:00`, with a fraction where there is one. -/
def TimeOfDay.text (t : TimeOfDay) : String := String.ofList t.chars

def Instant.localChars (i : Instant) : List Char := i.date.chars ++ 'T' :: i.time.chars

/-- The instant in the form `2024-06-09T10:00:00Z`. -/
def Instant.text (i : Instant) : String := String.ofList (i.localChars ++ ['Z'])

namespace Calendar

/-- What a pattern is filled in from. -/
inductive Moment where
  | date (d : Date)
  | time (t : TimeOfDay)
  | instant (i : Instant)
deriving DecidableEq, Repr

namespace Moment

def date? : Moment → Option Date
  | .date d => some d
  | .time _ => none
  | .instant i => some i.date

def time? : Moment → Option TimeOfDay
  | .date _ => none
  | .time t => some t
  | .instant i => some i.time

/-- An instant, which alone has a time zone. -/
def instant? : Moment → Option Instant
  | .instant i => some i
  | _ => none

/-- The text of a numeric field, if the moment has it. -/
def numericText? (m : Moment) (padding : Padding) : NumericField → Option (List Char)
  | .year => m.date?.map fun d => yearText padding d.year
  | .yearDiv100 => m.date?.map fun d => twoDigits padding (d.year / 100 % 256).toNat
  | .yearMod100 => m.date?.map fun d => twoDigits padding (d.year % 100).toNat
  | .isoYear => m.date?.map fun d => yearText padding d.isoWeek.1
  | .isoYearMod100 => m.date?.map fun d => twoDigits padding (d.isoWeek.1 % 100).toNat
  | .quarter => m.date?.map fun d => Numeral.digits d.quarter
  | .month => m.date?.map fun d => twoDigits padding d.month
  | .day => m.date?.map fun d => twoDigits padding d.day
  | .weekFromSunday => m.date?.map fun d => twoDigits padding (d.weekFrom 6)
  | .weekFromMonday => m.date?.map fun d => twoDigits padding (d.weekFrom 0)
  | .isoWeek => m.date?.map fun d => twoDigits padding d.isoWeek.2
  | .daysFromSunday => m.date?.map fun d => Numeral.digits ((d.weekday + 1) % 7)
  | .weekdayFromMonday => m.date?.map fun d => Numeral.digits (d.weekday + 1)
  | .ordinal => m.date?.map fun d => padNumber 3 padding false d.ordinal
  | .hour => m.time?.map fun t => twoDigits padding t.hour
  | .hour12 => m.time?.map fun t => twoDigits padding t.hour12
  | .minute => m.time?.map fun t => twoDigits padding t.minute
  | .second => m.time?.map fun t => twoDigits padding t.second
  | .nanosecond => m.time?.map fun t => padNumber 9 padding false t.fraction
  | .timestamp => m.instant?.map fun i => padNumber 9 padding false i.timestamp

/-- The text of a fixed field, if the moment has it. -/
def fixedText? (m : Moment) : FixedField → Option (List Char)
  | .shortMonth => m.date?.map fun d => nameAt monthNames true (d.month - 1)
  | .longMonth => m.date?.map fun d => nameAt monthNames false (d.month - 1)
  | .shortWeekday => m.date?.map fun d => nameAt weekdayNames true d.weekday
  | .longWeekday => m.date?.map fun d => nameAt weekdayNames false d.weekday
  | .lowerAmPm => m.time?.map fun t => if t.isAfternoon then ['p', 'm'] else ['a', 'm']
  | .upperAmPm => m.time?.map fun t => if t.isAfternoon then ['P', 'M'] else ['A', 'M']
  | .fraction => m.time?.map fun t => shortestFraction t.fraction
  | .fractionDigits count => m.time?.map fun t => '.' :: fractionText count t.fraction
  | .bareFraction count => m.time?.map fun t => fractionText count t.fraction
  | .zoneName => m.instant?.map fun _ => ['U', 'T', 'C']
  | .offset .plain => m.instant?.map fun _ => "+0000".toList
  | .offset .colon => m.instant?.map fun _ => "+00:00".toList
  | .offset .doubleColon => m.instant?.map fun _ => "+00:00:00".toList
  | .offset .hoursOnly => m.instant?.map fun _ => "+00".toList
  | .offset .permissive => none
  | .rfc3339 => m.instant?.map fun i => i.localChars ++ "+00:00".toList

/-- The text of one item, if the item means something and the moment has it. -/
def itemText? (m : Moment) : Item → Option (List Char)
  | .literal text => some text
  | .space text => some text
  | .numeric field padding => m.numericText? padding field
  | .fixed field => m.fixedText? field
  | .invalid => none

/-- The moment in the form that the items ask for. -/
def format? (m : Moment) (items : List Item) : Option String :=
  (items.mapM m.itemText?).map fun parts => String.ofList parts.flatten

end Moment

end Calendar

end RecordQuery
