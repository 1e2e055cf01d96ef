import RecordQuery.Decimal.Basic

/-! # Reading decimals

Digits with an optional sign, an optional point among or around them, and underscores after the
first digit. Places that do not fit into a decimal are rounded off, a half away from zero, by the
first digit that is left out; digits before the point are never left out. An exponent moves the
point, and what then has too many places is rounded in the same way. -/

namespace RecordQuery.Decimal

/-- Rounds a coefficient by the character that follows it in the text. Nothing but digits and
underscores may follow; an underscore leaves the coefficient as it is. -/
def roundBy (following : List Char) (coefficient scale : Nat) : Option (Nat × Nat) :=
  if following.all fun c => c.isDigit || c = '_' then
    if (following.head?.map fun c => c = '_' || c < '5').getD true then some (coefficient, scale)
    else if coefficient + 1 < coefficientBound then some (coefficient + 1, scale)
    else if scale = 0 then none
    else some ((coefficient + 5) / 10, scale - 1)
  else none

/-- Coefficients from this bound on are read with care for underscores after the last place. -/
def longBound : Nat := 1844674407370954906

/-- Reads the rest of an unsigned decimal: whether the point and a digit have been read, and the
coefficient and scale so far. In a long coefficient an underscore after the last place lets one more
digit be read. -/
def readDigits (pointRead digitRead : Bool) (coefficient scale : Nat) :
    List Char → Option (Nat × Nat)
  | [] => if digitRead then some (coefficient, scale) else none
  | c :: rest =>
    if c.isDigit then
      let next := 10 * coefficient + (c.toNat - '0'.toNat)
      let nextScale := if pointRead then scale + 1 else scale
      if coefficientBound ≤ next then
        if pointRead then roundBy (c :: rest) coefficient scale else none
      else if pointRead && 28 ≤ nextScale &&
          !(longBound ≤ coefficient && rest.head? == some '_') then
        roundBy rest next nextScale
      else readDigits pointRead true next nextScale rest
    else if c = '.' && !pointRead then readDigits true digitRead coefficient scale rest
    else if c = '_' && digitRead then readDigits pointRead true coefficient scale rest
    else none

/-- Reads a decimal without an exponent. Scales count modulo twenty-nine, so that a digit beyond the
last place leaves a whole number. -/
def ofPlain? (cs : List Char) : Option Decimal :=
  let (negative, rest) := Numeral.splitSign cs
  (readDigits false false 0 0 rest).bind fun (coefficient, scale) =>
    ofParts? (Numeral.withSign negative coefficient) (scale % 29)

/-- Reads an exponent of at most thirty-two bits. -/
def readExponent? (cs : List Char) : Option Nat :=
  let digits := match cs with
    | '+' :: rest => rest
    | rest => rest
  (Numeral.toNat? digits).bind fun n => if n < 0x100000000 then some n else none

/-- Multiplies by a power of ten. A smaller exponent than the scale lowers the scale; a greater one
gives a whole number. -/
def shiftUp? (x : Decimal) (exponent : Nat) : Option Decimal :=
  if exponent ≤ x.scale then ofParts? x.coefficient (x.scale - exponent)
  else if 28 < exponent then none
  else
    ofParts? (x.coefficient * Nat.pow 10 (exponent - x.scale)) 0

/-- A magnitude without its last digits, rounded by the first of them. -/
def dropDigits (count magnitude : Nat) : Nat :=
  (magnitude + 5 * Nat.pow 10 (count - 1)) / Nat.pow 10 count

/-- Divides by a power of ten, which raises the scale. Places that do not fit are rounded off. -/
def shiftDown? (x : Decimal) (exponent : Nat) : Option Decimal :=
  if 28 < exponent then none
  else if x.scale + exponent ≤ 28 then ofSigned? x.isNegative x.magnitude (x.scale + exponent)
  else ofSigned? x.isNegative (dropDigits (x.scale + exponent - 28) x.magnitude) 28

/-- Reads a decimal with an exponent. -/
def ofExponential? (cs : List Char) : Option Decimal :=
  let isMark (c : Char) : Bool := c = 'e' || c = 'E'
  match cs.dropWhile (!isMark ·) with
  | [] => none
  | _ :: exponent =>
    (ofPlain? (cs.takeWhile (!isMark ·))).bind fun base =>
      match exponent with
      | '-' :: digits => (readExponent? digits).bind base.shiftDown?
      | digits => (readExponent? digits).bind base.shiftUp?

/-- Reads a whole text as a decimal. -/
def ofText? (text : String) : Option Decimal :=
  (ofPlain? text.toList).or (ofExponential? text.toList)

end RecordQuery.Decimal
