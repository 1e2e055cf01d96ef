import RecordQuery.Binary64.Basic
import RecordQuery.Text.Numeral

/-! # Shortest decimal digits

The fewest significant decimal digits that determine a finite binary64 number, and two layouts of
them: in full without an exponent, and the layout of JSON numbers.

The reals that round to `m · 2 ^ q` form an interval, with its ends included exactly if `m` is even.
For one, two, … seventeen digits the two neighbours of the value on the grid of decimals of that
length are tried; of two neighbours inside the interval the nearer one is taken. If both are equally
near, a layout says which one it takes. -/

namespace RecordQuery.Binary64

/-- Which of two decimals is taken that are equally near to a number. -/
inductive Tie where
  | upper
  /-- The one whose last digit is even. -/
  | even
deriving DecidableEq, Repr

/-- A decimal number `digits · 10 ^ exponent`. -/
structure Scientific where
  digits : Nat
  exponent : Int
deriving DecidableEq, Repr

/-- The greatest `k` with `10 ^ k ≤ num / den`, for positive `num` and `den`. -/
def decimalOrder (num den : Nat) : Int :=
  if den ≤ num then (Numeral.digits (num / den)).length - 1
  else -((Numeral.digits ((den - 1) / num)).length : Int)

/-- The interval of reals around a finite number that round to it, as numerators over a shared
denominator: lower end, value, upper end. Below a power of two the gap is half as wide. -/
def roundingInterval (x : Binary64) : (Nat × Nat × Nat) × Nat :=
  let up := scaleUp (x.exponent - 2)
  let lowerGap := if x.significand = exponentWeight ∧ -1074 < x.exponent then 1 else 2
  ((up * (4 * x.significand - lowerGap), up * (4 * x.significand), up * (4 * x.significand + 2)),
    scaleUp (2 - x.exponent))

/-- The decimal on the grid of multiples of `10 ^ exponent` that is inside the rounding interval and
nearest to the value, if there is one. -/
def onGrid? (tie : Tie) (x : Binary64) (exponent : Int) : Option Scientific :=
  let ((lower, value, upper), den) := x.roundingInterval
  let finer := Nat.pow 10 (-exponent).toNat
  let unit := den * Nat.pow 10 exponent.toNat
  let inside (n : Nat) : Bool :=
    if x.significand % 2 = 0 then lower * finer ≤ n * unit && n * unit ≤ upper * finer
    else lower * finer < n * unit && n * unit < upper * finer
  let below := value * finer / unit
  let above := below + 1
  let toAbove := above * unit - value * finer
  let toBelow := value * finer - below * unit
  let aboveNearer : Bool :=
    toAbove < toBelow || (toAbove == toBelow && (tie == .upper || above % 2 == 0))
  if inside above && (aboveNearer || !inside below) then some ⟨above, exponent⟩
  else if inside below then some ⟨below, exponent⟩
  else none

/-- Drops trailing zeros of the digits. -/
def Scientific.trim (s : Scientific) : Scientific :=
  if _nonzero : s.digits = 0 then ⟨0, 0⟩
  else if _divides : s.digits % 10 = 0 then Scientific.trim ⟨s.digits / 10, s.exponent + 1⟩
  else s
termination_by s.digits
decreasing_by omega

/-- The fewest digits that determine a finite number. -/
def shortest (tie : Tie) (x : Binary64) : Scientific :=
  if x.isZero then ⟨0, 0⟩
  else
    let order := decimalOrder x.ratio.1 x.ratio.2
    let candidates := (List.range 17).findSome? fun (count : Nat) => x.onGrid? tie (order - count)
    (candidates.getD ⟨0, 0⟩).trim

/-- The digits in full: never an exponent, and no point in a whole number. -/
def text (x : Binary64) : String :=
  if x.isNaN then "NaN"
  else
    let sign := if x.isNegative then "-" else ""
    if x.isInfinite then sign ++ "inf"
    else
      let s := shortest .upper x
      sign ++ String.ofList (Numeral.scaled s.digits s.exponent)

/-- The digits with a point after the first one. -/
def leadingPoint : List Char → List Char
  | [] => []
  | [first] => [first]
  | first :: rest => first :: '.' :: rest

/-- A finite number as JSON writes it: in full with at least one digit after the point where the
value is below `10 ^ 16` and at least `10 ^ -5`, otherwise with a signed exponent. -/
def jsonText (x : Binary64) : String :=
  let sign := if x.isNegative then "-" else ""
  let s := shortest .even x
  let ds := Numeral.digits s.digits
  let order := s.exponent + ds.length - 1
  let body :=
    if x.isZero then ['0', '.', '0']
    else if -5 ≤ order ∧ order < 16 then
      if 0 ≤ s.exponent then Numeral.scaled s.digits s.exponent ++ ['.', '0']
      else Numeral.scaled s.digits s.exponent
    else
      leadingPoint ds ++ 'e' :: (if order < 0 then '-' else '+') :: Numeral.digits order.natAbs
  sign ++ String.ofList body

end RecordQuery.Binary64
