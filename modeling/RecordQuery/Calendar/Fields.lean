import RecordQuery.Calendar.Time

/-! # Fields of a date and time

What a text says about a date and time, field by field, and the date and time that the fields
determine. A field that is given twice has to have one value, and all fields have to agree with the
result. -/

namespace RecordQuery.Calendar

/-- Values of fields; a field without a value is not given. Years come whole or as a century and a
year within it, hours as a half of the day and an hour within it. Weekdays count from Monday. -/
structure Fields where
  year : Option Int := none
  yearDiv100 : Option Int := none
  yearMod100 : Option Int := none
  isoYear : Option Int := none
  isoYearMod100 : Option Int := none
  quarter : Option Nat := none
  month : Option Nat := none
  day : Option Nat := none
  weekFromSunday : Option Nat := none
  weekFromMonday : Option Nat := none
  isoWeek : Option Nat := none
  weekday : Option Nat := none
  ordinal : Option Nat := none
  halfDay : Option Nat := none
  hourOfHalf : Option Nat := none
  minute : Option Nat := none
  second : Option Nat := none
  nanosecond : Option Nat := none
  timestamp : Option Int := none
  offset : Option Int := none
deriving DecidableEq, Repr

/-- Why fields determine no date or time. -/
inductive Unresolved where
  | incomplete
  | contradictory
  | outOfRange
deriving DecidableEq, Repr

/-- Gives a value to a field that has none or the same one. -/
def agree {α : Type} [BEq α] (old : Option α) (new : α) : Option (Option α) :=
  match old with
  | none => some (some new)
  | some value => if value == new then some (some new) else none

namespace Fields

def setHour (f : Fields) (hour : Nat) : Option Fields := do
  let halfDay ← agree f.halfDay (hour / 12)
  let hourOfHalf ← agree f.hourOfHalf (hour % 12)
  return { f with halfDay, hourOfHalf }

/-- A year from a whole year, a century and a year within a century, as far as they are given. Two
digits alone stand for a year from 1970 to 2069. -/
def resolveYear (year century within : Option Int) : Except Unresolved (Option Int) :=
  match year, century, within with
  | year, none, none => .ok year
  | some y, century, within =>
    if y < 0 then .error .contradictory
    else if century.getD (y / 100) = y / 100 ∧ within.getD (y % 100) = y % 100 then .ok (some y)
    else .error .contradictory
  | none, some c, some w =>
    if c < 0 then .error .contradictory
    else if c * 100 + w < 0x80000000 then .ok (some (c * 100 + w))
    else .error .outOfRange
  | none, none, some w => .ok (some (if w < 70 then w + 2000 else w + 1900))
  | none, some _, none => .error .incomplete

/-- A field that is given has the value. -/
def allows {α : Type} [BEq α] (field : Option α) (value : α) : Bool :=
  field.all (· == value)

/-- A century or a year within one that is given belongs to the year; negative years have none. -/
def allowsPart (field : Option Int) (year part : Int) : Bool :=
  field.all fun given => 0 ≤ year && given == part

/-- The date agrees with the given year, month, day and quarter. -/
def allowsYmd (f : Fields) (d : Date) : Bool :=
  allows f.year d.year && allowsPart f.yearDiv100 d.year (d.year / 100) &&
    allowsPart f.yearMod100 d.year (d.year % 100) && allows f.month d.month && allows f.day d.day

/-- The date agrees with the given ISO year and week and with the weekday. -/
def allowsIsoWeek (f : Fields) (d : Date) : Bool :=
  allows f.isoYear d.isoWeek.1 && allowsPart f.isoYearMod100 d.isoWeek.1 (d.isoWeek.1 % 100) &&
    allows f.isoWeek d.isoWeek.2 && allows f.weekday d.weekday

/-- The date agrees with the given place in the year and the weeks counted from a weekday. -/
def allowsOrdinal (f : Fields) (d : Date) : Bool :=
  allows f.ordinal d.ordinal && allows f.weekFromSunday (d.weekFrom 6) &&
    allows f.weekFromMonday (d.weekFrom 0)

/-- The day of a week of a year, if weeks start on the given day since Monday. -/
def dateOfWeek (year : Int) (week weekday first : Nat) : Except Unresolved Date := do
  let some newYear := Date.ofYmd? year 1 1 | throw .outOfRange
  let firstStart := 1 + (first + 7 - newYear.weekday) % 7
  let ordinal : Int := firstStart + ((week : Int) - 1) * 7 + ((weekday + 7 - first) % 7 : Nat)
  if ordinal ≤ 0 then throw .contradictory
  let some date := Date.ofOrdinal? year ordinal.toNat | throw .contradictory
  return date

/-- The date if it agrees with the fields. -/
def verified (date : Date) (agrees : Bool) (f : Fields) : Except Unresolved Date :=
  if agrees && allows f.quarter date.quarter then .ok date else .error .contradictory

/-- The date that the fields determine: by month and day, by the place in the year, by a week of the
year, or by an ISO week, whichever comes first. -/
def toDate (f : Fields) : Except Unresolved Date := do
  let year ← resolveYear f.year f.yearDiv100 f.yearMod100
  let isoYear ← resolveYear f.isoYear none f.isoYearMod100
  match year, f.month, f.day with
  | some y, some m, some d =>
    let some date := Date.ofYmd? y m d | throw .outOfRange
    verified date (f.allowsIsoWeek date && f.allowsOrdinal date) f
  | _, _, _ =>
  match year, f.ordinal with
  | some y, some n =>
    let some date := Date.ofOrdinal? y n | throw .outOfRange
    verified date (f.allowsYmd date && f.allowsIsoWeek date && f.allowsOrdinal date) f
  | _, _ =>
  match year, f.weekFromSunday, f.weekday with
  | some y, some week, some weekday =>
    let date ← dateOfWeek y week weekday 6
    verified date (f.allowsYmd date && f.allowsIsoWeek date && f.allowsOrdinal date) f
  | _, _, _ =>
  match year, f.weekFromMonday, f.weekday with
  | some y, some week, some weekday =>
    let date ← dateOfWeek y week weekday 0
    verified date (f.allowsYmd date && f.allowsIsoWeek date && f.allowsOrdinal date) f
  | _, _, _ =>
  match isoYear, f.isoWeek, f.weekday with
  | some y, some week, some weekday =>
    let some date := Date.ofIsoWeek? y week weekday | throw .outOfRange
    verified date (f.allowsYmd date && f.allowsOrdinal date) f
  | _, _, _ => throw .incomplete

/-- The time of day that the fields determine. Hours and minutes are needed; a fraction needs
seconds; sixty seconds are a leap second. -/
def toTime (f : Fields) : Except Unresolved TimeOfDay := do
  let some halfDay := f.halfDay | throw .incomplete
  let some hourOfHalf := f.hourOfHalf | throw .incomplete
  let some minute := f.minute | throw .incomplete
  let (second, leap) := if f.second = some 60 then (59, 1000000000) else (f.second.getD 0, 0)
  if f.nanosecond.isSome && f.second.isNone then throw .incomplete
  let nanos := leap + f.nanosecond.getD 0
  let some time := TimeOfDay.ofParts? (halfDay * 12 + hourOfHalf) minute second nanos
    | throw .outOfRange
  return time

/-- Adds what a timestamp says to the fields. -/
def withTimestamp (f : Fields) (timestamp : Int) : Except Unresolved Fields := do
  let some start := Instant.ofTimestamp? timestamp | throw .outOfRange
  let (instant, second) ←
    if f.second = some 60 then
      if start.time.second = 59 then pure (start, f.second)
      else if start.time.second = 0 then
        let some before := Instant.ofTimestamp? (timestamp - 1) | throw .outOfRange
        pure (before, f.second)
      else throw .contradictory
    else
      let some second := agree f.second start.time.second | throw .contradictory
      pure (start, second)
  let some year := agree f.year instant.date.year | throw .contradictory
  let some ordinal := agree f.ordinal instant.date.ordinal | throw .contradictory
  let some f := Fields.setHour { f with year, ordinal, second } instant.time.hour
    | throw .contradictory
  let some minute := agree f.minute instant.time.minute | throw .contradictory
  return { f with minute }

/-- The date and time that the fields determine, read as UTC. A timestamp stands in for a date or
time that is not given in full and has to agree with one that is; of a leap second it may be the
second after. -/
def toDateTime (f : Fields) : Except Unresolved Instant :=
  match f.toDate, f.toTime, f.timestamp with
  | .ok date, .ok time, none => .ok ⟨date, time⟩
  | .ok date, .ok time, some timestamp =>
    let instant : Instant := ⟨date, time⟩
    if timestamp = instant.timestamp ∨
        (1000000000 ≤ time.nanos ∧ timestamp = instant.timestamp + 1) then
      .ok instant
    else .error .contradictory
  | .error reason, _, none => .error reason
  | .ok _, .error reason, none => .error reason
  | date, time, some timestamp => do
    let failed (reason : Unresolved) : Bool :=
      (match date with | .error r => r == reason | .ok _ => false) ||
        (match time with | .error r => r == reason | .ok _ => false)
    if failed .outOfRange then throw .outOfRange
    if failed .contradictory then throw .contradictory
    let complete ← f.withTimestamp timestamp
    return ⟨← complete.toDate, ← complete.toTime⟩

end Fields

end RecordQuery.Calendar
