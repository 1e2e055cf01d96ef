/-! # Calendar dates

Dates of the proleptic Gregorian calendar, their day numbers, weekdays, ordinals and ISO weeks. Day
zero is the first of January of the year one, a Monday. -/

namespace RecordQuery

namespace Calendar

def isLeapYear (year : Int) : Bool := year % 4 == 0 && (year % 100 != 0 || year % 400 == 0)

/-- The number of days in a month. -/
def daysInMonth (year : Int) (month : Nat) : Nat :=
  if month = 2 then (if isLeapYear year then 29 else 28)
  else if month = 4 ∨ month = 6 ∨ month = 9 ∨ month = 11 then 30
  else 31

/-- The number of days in the months of a year before the given one. -/
def daysBeforeMonth (year : Int) (month : Nat) : Nat :=
  (List.range' 1 (month - 1)).foldl (fun days m => days + daysInMonth year m) 0

def daysInYear (year : Int) : Nat := if isLeapYear year then 366 else 365

/-- The number of the first day of a year. -/
def daysBeforeYear (year : Int) : Int :=
  let before := year - 1
  365 * before + before / 4 - before / 100 + before / 400

/-- The year that a day belongs to. -/
def yearOfDay (day : Int) : Int :=
  let estimate := 400 * day / 146097 + 1
  if daysBeforeYear (estimate + 1) ≤ day then estimate + 1
  else if daysBeforeYear estimate ≤ day then estimate
  else estimate - 1

end Calendar

open Calendar

/-- A day of the proleptic Gregorian calendar between the years −262143 and 262142. -/
structure Date where
  year : Int
  month : Nat
  day : Nat
  year_ge : -262143 ≤ year
  year_le : year ≤ 262142
  month_ge : 1 ≤ month
  month_le : month ≤ 12
  day_ge : 1 ≤ day
  day_le : day ≤ daysInMonth year month
deriving DecidableEq, Repr

namespace Date

/-- The date with the given year, month and day, if there is one. -/
def ofYmd? (year : Int) (month day : Nat) : Option Date :=
  if valid : -262143 ≤ year ∧ year ≤ 262142 ∧ 1 ≤ month ∧ month ≤ 12 ∧ 1 ≤ day ∧
      day ≤ daysInMonth year month then
    some ⟨year, month, day, valid.1, valid.2.1, valid.2.2.1, valid.2.2.2.1, valid.2.2.2.2.1,
      valid.2.2.2.2.2⟩
  else none

/-- The place of the day within its year, from one on. -/
def ordinal (d : Date) : Nat := daysBeforeMonth d.year d.month + d.day

/-- The date at a place of a year. -/
def ofOrdinal? (year : Int) (ordinal : Nat) : Option Date :=
  (List.range' 1 12).findSome? fun month =>
    let before := daysBeforeMonth year month
    if before < ordinal ∧ ordinal ≤ before + daysInMonth year month then
      ofYmd? year month (ordinal - before)
    else none

def dayNumber (d : Date) : Int := daysBeforeYear d.year + (d.ordinal - 1 : Nat)

def ofDayNumber? (day : Int) : Option Date :=
  let year := yearOfDay day
  ofOrdinal? year ((day - daysBeforeYear year).toNat + 1)

/-- Dates in the order of time. -/
def compare (x y : Date) : Ordering :=
  (Ord.compare x.year y.year).then ((Ord.compare x.month y.month).then (Ord.compare x.day y.day))

/-- The days since Monday. -/
def weekday (d : Date) : Nat := (d.dayNumber % 7).toNat

/-- The number of the week within the year, if weeks start on the given day since Monday and the
days before the first start are in week zero. -/
def weekFrom (first : Nat) (d : Date) : Nat := (d.ordinal + 6 - (d.weekday + 7 - first) % 7) / 7

/-- The ISO year and week: those of the Thursday in the same week from Monday to Sunday. -/
def isoWeek (d : Date) : Int × Nat :=
  let thursday := d.dayNumber - d.weekday + 3
  let year := yearOfDay thursday
  (year, ((thursday - daysBeforeYear year) / 7).toNat + 1)

/-- The date with the given ISO year, week and days since Monday, if the year has that week. -/
def ofIsoWeek? (year : Int) (week weekday : Nat) : Option Date :=
  let fourth := daysBeforeYear year + 3
  let monday := fourth - fourth % 7
  (ofDayNumber? (monday + 7 * ((week : Int) - 1) + weekday)).filter fun d =>
    d.isoWeek == (year, week)

def quarter (d : Date) : Nat := (d.month - 1) / 3 + 1

end Date

end RecordQuery
