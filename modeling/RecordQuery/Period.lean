import RecordQuery.Text.Numeral
import RecordQuery.Text.Blank

/-! # Date-based periods

An amount of years, months and days in the notation of ISO 8601 (`P1Y2M3D`). Components are signed
numbers of thirty-two bits; weeks are read as seven days each. -/

namespace RecordQuery

/-- A date-based amount of time. Twelve months and one year are different periods. -/
structure Period where
  years : Int32
  months : Int32
  days : Int32
deriving DecidableEq, Repr

namespace Period

def isZero (p : Period) : Bool := p.years == 0 && p.months == 0 && p.days == 0

/-- The months of a period with its years counted in; days do not count. -/
def totalMonths (p : Period) : Int := p.years.toInt * 12 + p.months.toInt

/-- A component that is not zero, followed by the letter of its unit. -/
def componentText (n : Int32) (unit : Char) : List Char :=
  if n = 0 then [] else Numeral.signed n.toInt ++ [unit]

/-- The components that are not zero; the period without any is zero days. -/
def chars (p : Period) : List Char :=
  if p.isZero then ['P', '0', 'D']
  else 'P' :: (componentText p.years 'Y' ++ componentText p.months 'M' ++ componentText p.days 'D')

def text (p : Period) : String := String.ofList p.chars

/-- Why a text is no period. -/
inductive Problem where
  | malformed
  | noComponent
  | outOfRange
deriving DecidableEq, Repr

def Problem.message : Problem → String
  | .malformed => "expected an ISO-8601 period such as P1Y2M3D"
  | .noComponent => "a period needs at least one component"
  | .outOfRange => "period component out of range"

/-- A number of thirty-two bits. -/
def bounded? (n : Int) : Except Problem Int32 :=
  if Int32.minValue.toInt ≤ n ∧ n ≤ Int32.maxValue.toInt then .ok (Int32.ofInt n)
  else .error .outOfRange

/-- Reads a signed number followed by the letter of a unit in either case, if the text starts with
one. -/
def readComponent (unit : Char) (cs : List Char) : Option Int × List Char :=
  let (negative, unsigned) := Numeral.splitSign cs
  match unsigned.takeWhile Char.isDigit, unsigned.dropWhile Char.isDigit with
  | [], _ => (none, cs)
  | digits, c :: rest =>
    if c.toUpper = unit then (some (Numeral.withSign negative (Numeral.value digits)), rest)
    else (none, cs)
  | _, [] => (none, cs)

/-- The components of a period text as they are written, weeks and days apart. -/
structure Written where
  negative : Bool
  years : Option Int
  months : Option Int
  weeks : Option Int
  days : Option Int
deriving DecidableEq, Repr

/-- Splits a whole text into its sign and components. -/
def readWritten? (cs : List Char) : Option Written :=
  let (negative, cs) := Numeral.splitSign cs
  match cs with
  | mark :: cs =>
    if mark.toUpper = 'P' then
      let (years, cs) := readComponent 'Y' cs
      let (months, cs) := readComponent 'M' cs
      let (weeks, cs) := readComponent 'W' cs
      let (days, cs) := readComponent 'D' cs
      if cs.isEmpty then some { negative, years, months, weeks, days } else none
    else none
  | [] => none

def Written.hasComponent (w : Written) : Bool :=
  w.years.isSome || w.months.isSome || w.weeks.isSome || w.days.isSome

/-- The period a written form stands for. Every component, the weeks counted as days, their sum and
the components under the sign of the whole have to fit into thirty-two bits. -/
def Written.toPeriod (w : Written) : Except Problem Period := do
  let signed (n : Int) : Except Problem Int32 := bounded? (if w.negative then -n else n)
  let weeks ← bounded? (w.weeks.getD 0)
  let plainDays ← bounded? (w.days.getD 0)
  let weekDays ← bounded? (weeks.toInt * 7)
  let days ← bounded? (weekDays.toInt + plainDays.toInt)
  let years ← bounded? (w.years.getD 0)
  let months ← bounded? (w.months.getD 0)
  return { years := ← signed years.toInt, months := ← signed months.toInt,
           days := ← signed days.toInt }

/-- Reads a period from the characters of a text without blanks around it. -/
def ofChars (cs : List Char) : Except Problem Period :=
  match readWritten? cs with
  | none => .error .malformed
  | some written => if written.hasComponent then written.toPeriod else .error .noComponent

/-- Reads a period; blanks around it are ignored. -/
def ofText (text : String) : Except Problem Period := ofChars (Text.trimChars text.toList)

end Period

end RecordQuery
