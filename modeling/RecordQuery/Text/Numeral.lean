/-! # Decimal numerals

Whole numbers in base ten, signed numerals, and numbers with a decimal point. A numeral is written
without leading zeros, and a run of digits is read back as its positional value. -/

namespace RecordQuery.Numeral

/-- The digits of a number, most significant first. -/
def digits (n : Nat) : List Char := Nat.toDigits 10 n

/-- The number that a run of digits stands for. -/
def value (cs : List Char) : Nat := Nat.ofDigitChars 10 cs 0

theorem value_digits (n : Nat) : value (digits n) = n :=
  Nat.ofDigitChars_toDigits (by decide) (by decide)

/-- A signed numeral; a negative number has a leading minus sign. -/
def signed (n : Int) : List Char :=
  if n < 0 then '-' :: digits n.natAbs else digits n.natAbs

/-- The digits of a number, filled up with zeros on the left. -/
def padded (width n : Nat) : List Char := (digits n).leftpad width '0'

/-- The number `n` divided by ten to the power `scale`, written with exactly `scale` digits after
the point and no point when there are none. -/
def pointed (n scale : Nat) : List Char :=
  if scale = 0 then digits n
  else
    let all := padded (scale + 1) n
    all.take (all.length - scale) ++ '.' :: all.drop (all.length - scale)

/-- The number `n · 10 ^ exponent` written in full. -/
def scaled (n : Nat) (exponent : Int) : List Char :=
  match exponent with
  | .ofNat zeros => digits n ++ List.replicate zeros '0'
  | .negSucc places => pointed n (places + 1)

/-- Reads a nonempty run of digits with nothing around it. -/
def toNat? (cs : List Char) : Option Nat :=
  if !cs.isEmpty && cs.all Char.isDigit then some (value cs) else none

/-- Splits an optional leading sign off; `true` stands for a minus sign. -/
def splitSign : List Char → Bool × List Char
  | '-' :: rest => (true, rest)
  | '+' :: rest => (false, rest)
  | rest => (false, rest)

/-- Applies a sign to a magnitude. -/
def withSign (negative : Bool) (n : Nat) : Int := if negative then -(n : Int) else n

/-- Reads digits with an optional leading sign. -/
def toInt? (cs : List Char) : Option Int :=
  (toNat? (splitSign cs).2).map (withSign (splitSign cs).1)

/-- Splits the longest leading run of digits off. -/
def spanDigits (cs : List Char) : List Char × List Char :=
  (cs.takeWhile Char.isDigit, cs.dropWhile Char.isDigit)

end RecordQuery.Numeral
