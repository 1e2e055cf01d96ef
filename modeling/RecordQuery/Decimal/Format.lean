import RecordQuery.Decimal.Basic
import RecordQuery.Rounding

/-! # Decimal patterns

A pattern such as `#.##` or `0.00` bounds the places after the point: every `#` and `0` after the
first point of the pattern allows one place, and every `0` among them asks for one. -/

namespace RecordQuery.Decimal

/-- The least and the greatest number of places. -/
structure Places where
  least : Nat
  greatest : Nat
deriving DecidableEq, Repr

/-- The places that a pattern asks for and allows. -/
def Places.ofPattern (pattern : String) : Places :=
  let fraction := (pattern.toList.dropWhile (· != '.')).drop 1
  { least := fraction.countP (· == '0'), greatest := fraction.countP fun c => c == '#' || c == '0' }

/-- The coefficient and scale after rounding to at most `greatest` places, a half to even. -/
def roundTo (greatest : Nat) (coefficient scale : Nat) : Nat × Nat :=
  if greatest < scale then (roundHalfEven coefficient (Nat.pow 10 (scale - greatest)), greatest)
  else (coefficient, scale)

/-- Drops trailing zeros after the point. -/
def dropZeros (coefficient : Nat) : Nat → Nat × Nat
  | 0 => (coefficient, 0)
  | scale + 1 =>
    if coefficient % 10 = 0 then dropZeros (coefficient / 10) scale else (coefficient, scale + 1)

/-- Appends up to `count` zeros, as long as the coefficient stays below ninety-six bits. -/
def appendZeros (coefficient scale : Nat) : Nat → Nat × Nat
  | 0 => (coefficient, scale)
  | count + 1 =>
    if coefficient * 10 < coefficientBound then appendZeros (coefficient * 10) (scale + 1) count
    else (coefficient, scale)

/-- Fills up to `least` places; zero takes at most twenty-eight. -/
def fillTo (least : Nat) (coefficient scale : Nat) : Nat × Nat :=
  if least ≤ scale then (coefficient, scale)
  else if coefficient = 0 then (0, min least 28)
  else appendZeros coefficient scale (least - scale)

/-- The coefficient and scale that a pattern shows of the magnitude of a decimal. -/
def shown (x : Decimal) (places : Places) : Nat × Nat :=
  let (rounded, scale) := roundTo places.greatest x.magnitude x.scale
  let (stripped, scale) := dropZeros rounded scale
  fillTo places.least stripped scale

/-- The decimal in the form a pattern asks for. -/
def format (x : Decimal) (pattern : String) : String :=
  let (coefficient, scale) := x.shown (Places.ofPattern pattern)
  (if x.isNegative && coefficient != 0 then "-" else "") ++
    String.ofList (Numeral.pointed coefficient scale)

end RecordQuery.Decimal
