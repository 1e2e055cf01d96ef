import RecordQuery.Calendar.Date

/-! # Times of day and instants

A time of day has nanoseconds; a leap second is the last second of a minute with a thousand million
nanoseconds or more. An instant is a date and a time of day in UTC. -/

namespace RecordQuery

/-- A time of day. -/
structure TimeOfDay where
  seconds : Nat
  nanos : Nat
  seconds_lt : seconds < 86400
  nanos_lt : nanos < 2000000000
deriving DecidableEq, Repr

namespace TimeOfDay

def midnight : TimeOfDay := ⟨0, 0, by decide, by decide⟩

def hour (t : TimeOfDay) : Nat := t.seconds / 3600

def minute (t : TimeOfDay) : Nat := t.seconds / 60 % 60

/-- The second of the minute; sixty for a leap second. -/
def second (t : TimeOfDay) : Nat := t.seconds % 60 + t.nanos / 1000000000

/-- The nanoseconds after the last full second. -/
def fraction (t : TimeOfDay) : Nat := t.nanos % 1000000000

/-- The hour on a clock face. -/
def hour12 (t : TimeOfDay) : Nat := if t.hour % 12 = 0 then 12 else t.hour % 12

def isAfternoon (t : TimeOfDay) : Bool := 12 ≤ t.hour

/-- The time with the given parts; more than a thousand million nanoseconds mean a leap second and
need the last second of a minute. -/
def ofParts? (hour minute second nanos : Nat) : Option TimeOfDay :=
  let seconds := hour * 3600 + minute * 60 + second
  if hour < 24 ∧ minute < 60 ∧ second < 60 ∧ (nanos < 1000000000 ∨ second = 59) then
    if inRange : seconds < 86400 ∧ nanos < 2000000000 then
      some ⟨seconds, nanos, inRange.1, inRange.2⟩
    else none
  else none

/-- Times in the order of the day. -/
def compare (x y : TimeOfDay) : Ordering :=
  (Ord.compare x.seconds y.seconds).then (Ord.compare x.nanos y.nanos)

end TimeOfDay

/-- A point in time, by its date and time of day in UTC. -/
structure Instant where
  date : Date
  time : TimeOfDay
deriving DecidableEq, Repr

namespace Instant

def compare (x y : Instant) : Ordering := (x.date.compare y.date).then (x.time.compare y.time)

def atMidnight (date : Date) : Instant := ⟨date, .midnight⟩

/-- The day number of the first of January 1970. -/
def epochDay : Int := 719162

/-- Whole seconds since the start of 1970. -/
def timestamp (i : Instant) : Int := (i.date.dayNumber - epochDay) * 86400 + i.time.seconds

/-- The instant a number of seconds after the start of 1970. -/
def ofTimestamp? (seconds : Int) : Option Instant :=
  (Date.ofDayNumber? (seconds / 86400 + epochDay)).map fun date =>
    ⟨date, (seconds % 86400).toNat, 0, by omega, by decide⟩

/-- The instant of a local date and time that are ahead of UTC by a number of seconds. -/
def ofLocal? (date : Date) (time : TimeOfDay) (offset : Int) : Option Instant :=
  let seconds := (time.seconds : Int) - offset
  (Date.ofDayNumber? (date.dayNumber + seconds / 86400)).map fun date =>
    ⟨date, (seconds % 86400).toNat, time.nanos, by omega, time.nanos_lt⟩

end Instant

end RecordQuery
