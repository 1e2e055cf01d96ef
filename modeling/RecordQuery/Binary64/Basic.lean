import RecordQuery.Rounding

/-! # Binary floating point numbers

An IEEE 754 binary64 number is kept as its bit pattern. Its finite values are `m · 2 ^ q` with whole
`m` and `q`; order, rounding and arithmetic are defined exactly on them. -/

namespace RecordQuery

/-- A binary64 number: one sign bit, eleven bits of exponent, fifty-two bits of significand. -/
structure Binary64 where
  bits : UInt64
deriving DecidableEq, Repr

namespace Binary64

/-- The weight of the sign bit, the sixty-third power of two. -/
def signWeight : Nat := 0x8000000000000000

/-- The weight of the lowest bit of the exponent, the fifty-second power of two. It is also the
least significand of a number that has all its bits. -/
def exponentWeight : Nat := 0x10000000000000

/-- The sign bit is set. -/
def isNegative (x : Binary64) : Bool := signWeight ≤ x.bits.toNat

/-- The bits below the sign bit; among numbers of one sign they follow the order of the values. -/
def magnitude (x : Binary64) : Nat := x.bits.toNat % signWeight

/-- The magnitude of an infinity; every larger magnitude is that of a NaN. -/
def infinityMagnitude : Nat := 2047 * exponentWeight

/-- The number with the given sign and magnitude bits. -/
def ofMagnitude (negative : Bool) (magnitude : Nat) : Binary64 :=
  ⟨UInt64.ofNat (if negative then magnitude + signWeight else magnitude)⟩

def zero : Binary64 := ofMagnitude false 0

def infinity (negative : Bool) : Binary64 := ofMagnitude negative infinityMagnitude

def nan : Binary64 := ofMagnitude false (infinityMagnitude + exponentWeight / 2)

def isNaN (x : Binary64) : Bool := infinityMagnitude < x.magnitude

def isInfinite (x : Binary64) : Bool := x.magnitude == infinityMagnitude

def isFinite (x : Binary64) : Bool := x.magnitude < infinityMagnitude

def isZero (x : Binary64) : Bool := x.magnitude == 0

/-- The place of a number among all numbers that are no NaN; both zeros have place zero. -/
def rank (x : Binary64) : Int := if x.isNegative then -(x.magnitude : Int) else x.magnitude

/-- The order of two numbers; a NaN has no place in it. -/
def compare? (x y : Binary64) : Option Ordering :=
  if x.isNaN || y.isNaN then none else some (compare x.rank y.rank)

/-- Equality as IEEE 754 defines it: zeros are equal, a NaN is equal to nothing. -/
def equals (x y : Binary64) : Bool := x.compare? y == some .eq

/-- The number with the other sign. -/
def neg (x : Binary64) : Binary64 := ofMagnitude (!x.isNegative) x.magnitude

/-- The whole number `m` of a finite value `m · 2 ^ q`. -/
def significand (x : Binary64) : Nat :=
  if x.magnitude < exponentWeight then x.magnitude
  else exponentWeight + x.magnitude % exponentWeight

/-- The exponent `q` of a finite value `m · 2 ^ q`. -/
def exponent (x : Binary64) : Int :=
  if x.magnitude < exponentWeight then -1074
  else (x.magnitude / exponentWeight : Nat) - 1075

/-- The power of two for a nonnegative exponent, one for a negative exponent. -/
def scaleUp (q : Int) : Nat := Nat.pow 2 q.toNat

/-- A finite magnitude as a quotient of whole numbers. -/
def ratio (x : Binary64) : Nat × Nat :=
  (x.significand * scaleUp x.exponent, scaleUp (-x.exponent))

/-- The magnitude nearest to `num / den`, a half going to the even neighbour and values beyond the
greatest finite one to infinity. -/
def magnitudeOfRatio (num den : Nat) : Nat :=
  if num = 0 then 0
  else
    let estimate : Int := (Nat.log2 num : Int) - Nat.log2 den
    let floorLog :=
      if den * scaleUp estimate ≤ num * scaleUp (-estimate) then estimate else estimate - 1
    let q := max (floorLog - 52) (-1074)
    let m := roundHalfEven (num * scaleUp (-q)) (den * scaleUp q)
    min ((q + 1074).toNat * exponentWeight + m) infinityMagnitude

/-- The number nearest to `± num / den`. -/
def ofRatio (negative : Bool) (num den : Nat) : Binary64 :=
  ofMagnitude negative (magnitudeOfRatio num den)

/-- The number nearest to a whole number. -/
def ofInt (n : Int) : Binary64 := ofRatio (n < 0) n.natAbs 1

/-- The product, rounded once. Meant for finite factors. -/
def mul (x y : Binary64) : Binary64 :=
  ofRatio (x.isNegative != y.isNegative) (x.ratio.1 * y.ratio.1) (x.ratio.2 * y.ratio.2)

/-- The quotient, rounded once. Meant for finite arguments and a divisor that is not zero. -/
def div (x y : Binary64) : Binary64 :=
  ofRatio (x.isNegative != y.isNegative) (x.ratio.1 * y.ratio.2) (x.ratio.2 * y.ratio.1)

/-- The sum of two finite nonnegative numbers, rounded once. -/
def addMagnitudes (x y : Binary64) : Binary64 :=
  ofRatio false (x.ratio.1 * y.ratio.2 + y.ratio.1 * x.ratio.2) (x.ratio.2 * y.ratio.2)

/-- The nearest whole number to a finite nonnegative one, a half going up. -/
def roundHalfUp (x : Binary64) : Binary64 :=
  ofRatio false ((2 * x.ratio.1 + x.ratio.2) / (2 * x.ratio.2)) 1

/-- The whole number a finite value is equal to, if it is one. -/
def toInt? (x : Binary64) : Option Int :=
  if x.isFinite && x.ratio.1 % x.ratio.2 == 0 then
    let n : Int := (x.ratio.1 / x.ratio.2 : Nat)
    some (if x.isNegative then -n else n)
  else none

/-- The number `± n · 10 ^ exponent`, rounded once. An exponent so far out that the result is
certainly zero or infinite is not carried out. -/
def ofScientific (negative : Bool) (n : Nat) (exponent : Int) : Binary64 :=
  if n = 0 then ofMagnitude negative 0
  else if 310 < exponent then infinity negative
  else if exponent + ((Nat.log2 n : Nat) : Int) < -1200 then ofMagnitude negative 0
  else ofRatio negative (n * Nat.pow 10 exponent.toNat) (Nat.pow 10 (-exponent).toNat)

end Binary64

end RecordQuery
