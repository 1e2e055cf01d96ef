import RecordQuery.Binary64.Basic
import RecordQuery.Text.Numeral

/-! # Decimal numbers

An exact decimal is a whole coefficient of at most ninety-six bits over a power of ten. The scale is
part of the number: `1.5` and `1.50` are different decimals of one value. So is the sign: a zero
that a negative number was rounded to keeps it. -/

namespace RecordQuery

/-- The bound of coefficients, the ninety-sixth power of two. -/
def Decimal.coefficientBound : Nat := 0x1000000000000000000000000

/-- The decimal `magnitude / 10 ^ scale` with a sign. -/
structure Decimal where
  isNegative : Bool
  magnitude : Nat
  scale : Nat
  magnitude_lt : magnitude < Decimal.coefficientBound
  scale_le : scale ≤ 28
deriving DecidableEq, Repr

namespace Decimal

/-- The coefficient with its sign. -/
def coefficient (x : Decimal) : Int := Numeral.withSign x.isNegative x.magnitude

/-- The decimal with the given sign, coefficient and scale, if they are in range. -/
def ofSigned? (isNegative : Bool) (magnitude scale : Nat) : Option Decimal :=
  if inRange : magnitude < coefficientBound ∧ scale ≤ 28 then
    some ⟨isNegative, magnitude, scale, inRange.1, inRange.2⟩
  else none

/-- The decimal with the given coefficient and scale, if they are in range. -/
def ofParts? (coefficient : Int) (scale : Nat) : Option Decimal :=
  ofSigned? (coefficient < 0) coefficient.natAbs scale

/-- A whole number of sixty-four bits. -/
def ofInt64 (n : Int64) : Decimal :=
  ⟨n.toInt < 0, n.toInt.natAbs, 0,
    by have := n.le_toInt; have := n.toInt_lt; unfold coefficientBound; omega, by decide⟩

/-- The order of the values. -/
def compareValues (x y : Decimal) : Ordering :=
  compare (x.coefficient * Nat.pow 10 y.scale) (y.coefficient * Nat.pow 10 x.scale)

/-- The whole number a decimal is equal to, if it is one. -/
def toInt? (x : Decimal) : Option Int :=
  let power : Int := Nat.pow 10 x.scale
  if x.coefficient % power = 0 then some (x.coefficient / power) else none

/-- The digits with as many places as the scale says. -/
def text (x : Decimal) : String :=
  (if x.isNegative then "-" else "") ++ String.ofList (Numeral.pointed x.magnitude x.scale)

/-- A nearby binary number. The whole part and the fraction are converted separately and added, and
the sum is rounded to the decimal places of the scale in binary arithmetic. -/
def toBinary64 (x : Decimal) : Binary64 :=
  let power := Nat.pow 10 x.scale
  let whole := x.magnitude / power
  let fraction := x.magnitude % power
  let magnitude :=
    if fraction = 0 then Binary64.ofRatio false whole 1
    else
      let unit := Binary64.ofRatio false power 1
      let part := (Binary64.ofRatio false fraction 1).div unit
      let sum := (Binary64.ofRatio false whole 1).addMagnitudes part
      (sum.mul unit).roundHalfUp.div unit
  if x.isNegative then magnitude.neg else magnitude

end Decimal

end RecordQuery
