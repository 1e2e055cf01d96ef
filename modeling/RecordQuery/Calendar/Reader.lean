import RecordQuery.Calendar.Pattern
import RecordQuery.Calendar.Names
import RecordQuery.Calendar.Fields
import RecordQuery.Text.Numeral

/-! # Reading dates and times

A text is read item by item of a pattern into fields, which then determine a date, a time of day or
both. Beside patterns there is the form of RFC 3339 with an offset from UTC. -/

namespace RecordQuery.Calendar

/-- Reads at least `least` and at most `most` digits as a number of sixty-four bits. -/
def readNumber? (least most : Nat) (cs : List Char) : Option (Int × List Char) :=
  let digits := (cs.take most).takeWhile Char.isDigit
  let n := Numeral.value digits
  if least ≤ digits.length ∧ n < 0x8000000000000000 then some (n, cs.drop digits.length) else none

/-- Reads a number as above that is in a range. -/
def readWithin? (width : Nat) (low high : Nat) (cs : List Char) : Option (Nat × List Char) := do
  let (n, rest) ← readNumber? 1 width cs
  if (low : Int) ≤ n ∧ n ≤ high then return (n.toNat, rest) else none

/-- Reads a year: four digits at most without a sign, any number with one. -/
def readYear? (cs : List Char) : Option (Int × List Char) := do
  let (year, rest) ←
    match cs with
    | '-' :: cs => (readNumber? 1 cs.length cs).map fun (n, rest) => (-n, rest)
    | '+' :: cs => readNumber? 1 cs.length cs
    | cs => readNumber? 1 4 cs
  if -0x80000000 ≤ year ∧ year < 0x80000000 then return (year, rest) else none

/-- Reads the digits after a point as nanoseconds; digits after the ninth do not count. -/
def readFraction? (cs : List Char) : Option (Nat × List Char) := do
  let digits := (cs.take 9).takeWhile Char.isDigit
  if digits.isEmpty then none
  else return (Numeral.value digits * Nat.pow 10 (9 - digits.length), cs.dropWhile Char.isDigit)

/-- Reads exactly `count` digits as the leading digits of nanoseconds. -/
def readBareFraction? (count : Nat) (cs : List Char) : Option (Nat × List Char) := do
  let (n, rest) ← readNumber? count count cs
  return (n.toNat * Nat.pow 10 (9 - count), rest)

/-- Reads an offset from UTC in seconds: a sign, two digits of hours, what `separator` drops, and
two digits of minutes. -/
def readOffset? (separator : List Char → Option (List Char)) (zulu bareHours : Bool)
    (cs : List Char) : Option (Int × List Char) :=
  let signed : Option (Bool × List Char) :=
    match cs with
    | '+' :: rest => some (false, rest)
    | '-' :: rest => some (true, rest)
    | '−' :: rest => some (true, rest)
    | _ => none
  match zulu, cs with
  | true, 'Z' :: rest => some (0, rest)
  | true, 'z' :: rest => some (0, rest)
  | _, _ => do
    let (negative, rest) ← signed
    let (hours, rest) ← readNumber? 2 2 rest
    let rest ← separator rest
    let (minutes, rest) ←
      match rest with
      | [] => if bareHours then some (0, []) else none
      | rest => readNumber? 2 2 rest
    if 59 < minutes then none
    else
      let seconds := hours * 3600 + minutes * 60
      return (if negative then -seconds else seconds, rest)

/-- Drops colons and blanks. -/
def dropColons (cs : List Char) : Option (List Char) :=
  some (cs.dropWhile fun c => c == ':' || Text.isBlank c)

/-- Drops one given character. -/
def dropChar (expected : Char) : List Char → Option (List Char)
  | c :: rest => if c = expected then some rest else none
  | [] => none

/-- Reads the value of a numeric field after blanks. -/
def readNumeric? (field : NumericField) (cs : List Char) (f : Fields) :
    Option (Fields × List Char) := do
  let cs := Text.trimStart cs
  match field with
  | .year =>
    let (n, rest) ← readYear? cs
    return ({ f with year := ← agree f.year n }, rest)
  | .yearDiv100 =>
    let (n, rest) ← readWithin? 2 0 99 cs
    return ({ f with yearDiv100 := ← agree f.yearDiv100 n }, rest)
  | .yearMod100 =>
    let (n, rest) ← readWithin? 2 0 99 cs
    return ({ f with yearMod100 := ← agree f.yearMod100 n }, rest)
  | .isoYear =>
    let (n, rest) ← readYear? cs
    return ({ f with isoYear := ← agree f.isoYear n }, rest)
  | .isoYearMod100 =>
    let (n, rest) ← readWithin? 2 0 99 cs
    return ({ f with isoYearMod100 := ← agree f.isoYearMod100 n }, rest)
  | .quarter =>
    let (n, rest) ← readWithin? 1 1 4 cs
    return ({ f with quarter := ← agree f.quarter n }, rest)
  | .month =>
    let (n, rest) ← readWithin? 2 1 12 cs
    return ({ f with month := ← agree f.month n }, rest)
  | .day =>
    let (n, rest) ← readWithin? 2 1 31 cs
    return ({ f with day := ← agree f.day n }, rest)
  | .weekFromSunday =>
    let (n, rest) ← readWithin? 2 0 53 cs
    return ({ f with weekFromSunday := ← agree f.weekFromSunday n }, rest)
  | .weekFromMonday =>
    let (n, rest) ← readWithin? 2 0 53 cs
    return ({ f with weekFromMonday := ← agree f.weekFromMonday n }, rest)
  | .isoWeek =>
    let (n, rest) ← readWithin? 2 1 53 cs
    return ({ f with isoWeek := ← agree f.isoWeek n }, rest)
  | .daysFromSunday =>
    let (n, rest) ← readWithin? 1 0 6 cs
    return ({ f with weekday := ← agree f.weekday ((n + 6) % 7) }, rest)
  | .weekdayFromMonday =>
    let (n, rest) ← readWithin? 1 1 7 cs
    return ({ f with weekday := ← agree f.weekday (n - 1) }, rest)
  | .ordinal =>
    let (n, rest) ← readWithin? 3 1 366 cs
    return ({ f with ordinal := ← agree f.ordinal n }, rest)
  | .hour =>
    let (n, rest) ← readWithin? 2 0 23 cs
    return (← f.setHour n, rest)
  | .hour12 =>
    let (n, rest) ← readWithin? 2 1 12 cs
    return ({ f with hourOfHalf := ← agree f.hourOfHalf (n % 12) }, rest)
  | .minute =>
    let (n, rest) ← readWithin? 2 0 59 cs
    return ({ f with minute := ← agree f.minute n }, rest)
  | .second =>
    let (n, rest) ← readWithin? 2 0 60 cs
    return ({ f with second := ← agree f.second n }, rest)
  | .nanosecond =>
    let (n, rest) ← readWithin? 9 0 999999999 cs
    return ({ f with nanosecond := ← agree f.nanosecond n }, rest)
  | .timestamp =>
    let (n, rest) ← readNumber? 1 cs.length cs
    return ({ f with timestamp := ← agree f.timestamp n }, rest)

/-- Reads the date and time of RFC 3339 with fields of free width and blanks between its parts. -/
def readLooseRfc3339? (cs : List Char) (f : Fields) : Option (Fields × List Char) := do
  let (f, cs) ← readNumeric? .year cs f
  let cs ← dropChar '-' (Text.trimStart cs)
  let (f, cs) ← readNumeric? .month cs f
  let cs ← dropChar '-' (Text.trimStart cs)
  let (f, cs) ← readNumeric? .day cs f
  let cs ← (dropChar 'T' cs).or ((dropChar 't' cs).or (dropChar ' ' cs))
  let (f, cs) ← readNumeric? .hour cs f
  let cs ← dropChar ':' (Text.trimStart cs)
  let (f, cs) ← readNumeric? .minute cs f
  let cs ← dropChar ':' (Text.trimStart cs)
  let (f, cs) ← readNumeric? .second cs f
  let (f, cs) ←
    match cs with
    | '.' :: rest => do
      let (nanos, rest) ← readFraction? rest
      pure ({ f with nanosecond := ← agree f.nanosecond nanos }, rest)
    | cs => pure (f, cs)
  let cs := Text.trimStart cs
  let (offset, rest) ←
    if sameLetters (cs.take 3) ['u', 't', 'c'] then pure (0, cs.drop 3)
    else readOffset? dropColons true false cs
  return ({ f with offset := ← agree f.offset offset }, rest)

/-- Reads the value of a fixed field. -/
def readFixed? (field : FixedField) (cs : List Char) (f : Fields) :
    Option (Fields × List Char) := do
  match field with
  | .shortMonth =>
    let (index, rest) ← readName? monthNames false cs
    return ({ f with month := ← agree f.month (index + 1) }, rest)
  | .longMonth =>
    let (index, rest) ← readName? monthNames true cs
    return ({ f with month := ← agree f.month (index + 1) }, rest)
  | .shortWeekday =>
    let (index, rest) ← readName? weekdayNames false cs
    return ({ f with weekday := ← agree f.weekday index }, rest)
  | .longWeekday =>
    let (index, rest) ← readName? weekdayNames true cs
    return ({ f with weekday := ← agree f.weekday index }, rest)
  | .lowerAmPm | .upperAmPm =>
    let halfDay ←
      if sameLetters (cs.take 2) ['a', 'm'] then some 0
      else if sameLetters (cs.take 2) ['p', 'm'] then some 1
      else none
    return ({ f with halfDay := ← agree f.halfDay halfDay }, cs.drop 2)
  | .fraction =>
    match cs with
    | '.' :: rest => do
      let (nanos, rest) ← readFraction? rest
      return ({ f with nanosecond := ← agree f.nanosecond nanos }, rest)
    | cs => return (f, cs)
  | .fractionDigits count =>
    match cs with
    | '.' :: rest => do
      let (nanos, rest) ← readBareFraction? count rest
      return ({ f with nanosecond := ← agree f.nanosecond nanos }, rest)
    | cs => return (f, cs)
  | .bareFraction count =>
    let (nanos, rest) ← readBareFraction? count cs
    return ({ f with nanosecond := ← agree f.nanosecond nanos }, rest)
  | .zoneName => return (f, cs.dropWhile (!Text.isBlank ·))
  | .offset .permissive =>
    let (offset, rest) ← readOffset? dropColons true true (Text.trimStart cs)
    return ({ f with offset := ← agree f.offset offset }, rest)
  | .offset _ =>
    let (offset, rest) ← readOffset? dropColons false false (Text.trimStart cs)
    return ({ f with offset := ← agree f.offset offset }, rest)
  | .rfc3339 => readLooseRfc3339? cs f

/-- Reads one item. A run of blanks of the pattern stands for any blanks or none. -/
def readItem? (item : Item) (cs : List Char) (f : Fields) : Option (Fields × List Char) :=
  match item with
  | .literal text => if cs.take text.length == text then some (f, cs.drop text.length) else none
  | .space _ => some (f, Text.trimStart cs)
  | .numeric field _ => readNumeric? field cs f
  | .fixed field => readFixed? field cs f
  | .invalid => none

/-- Reads the items of a pattern one after the other. -/
def readItems? : List Item → List Char → Fields → Option (Fields × List Char)
  | [], cs, f => some (f, cs)
  | item :: items, cs, f => (readItem? item cs f).bind fun (f, rest) => readItems? items rest f

/-- The fields of a whole text of the form of a pattern. -/
def readFields? (pattern : String) (text : String) : Option Fields :=
  match readItems? (patternItems pattern) text.toList {} with
  | some (f, []) => some f
  | _ => none

/-- Reads a number of exactly `width` digits in a range. -/
def readExact? (width low high : Nat) (cs : List Char) : Option (Nat × List Char) := do
  let (n, rest) ← readNumber? width width cs
  if (low : Int) ≤ n ∧ n ≤ high then return (n.toNat, rest) else none

/-- A date and time with an offset, as RFC 3339 writes them. -/
structure Local where
  date : Date
  time : TimeOfDay
  offset : Int
deriving DecidableEq, Repr

/-- Reads the form of RFC 3339: every field in its full width, an offset that is `Z` or has a
colon, and a leap second at any minute. -/
def Local.ofText? (text : String) : Option Local := do
  let cs := text.toList
  let (year, cs) ← readExact? 4 0 9999 cs
  let cs ← dropChar '-' cs
  let (month, cs) ← readExact? 2 1 12 cs
  let cs ← dropChar '-' cs
  let (day, cs) ← readExact? 2 1 31 cs
  let cs ← (dropChar 'T' cs).or ((dropChar 't' cs).or (dropChar ' ' cs))
  let (hour, cs) ← readExact? 2 0 23 cs
  let cs ← dropChar ':' cs
  let (minute, cs) ← readExact? 2 0 59 cs
  let cs ← dropChar ':' cs
  let (second, cs) ← readExact? 2 0 60 cs
  let (nanos, cs) ←
    match cs with
    | '.' :: rest => readFraction? rest
    | cs => some (0, cs)
  let (offset, cs) ← readOffset? (dropChar ':') true false cs
  let date ← Date.ofYmd? year month day
  let time ←
    if second = 60 then TimeOfDay.ofParts? hour minute 59 (1000000000 + nanos)
    else TimeOfDay.ofParts? hour minute second nanos
  if cs.isEmpty ∧ offset.natAbs < 86400 then return { date, time, offset } else none

/-- The instant of a local date and time. -/
def Local.instant? (l : Local) : Option Instant := Instant.ofLocal? l.date l.time l.offset

end RecordQuery.Calendar

namespace RecordQuery

open Calendar

/-- Reads a date in the form of a pattern. -/
def Date.ofPattern? (pattern text : String) : Option Date :=
  (readFields? pattern text).bind fun f => f.toDate.toOption

/-- Reads a time of day in the form of a pattern. -/
def TimeOfDay.ofPattern? (pattern text : String) : Option TimeOfDay :=
  (readFields? pattern text).bind fun f => f.toTime.toOption

/-- Reads a date and time of UTC in the form of a pattern. -/
def Instant.ofPattern? (pattern text : String) : Option Instant :=
  (readFields? pattern text).bind fun f => f.toDateTime.toOption

/-- Reads an instant in the form of RFC 3339. -/
def Instant.ofRfc3339? (text : String) : Option Instant := (Local.ofText? text).bind Local.instant?

end RecordQuery
