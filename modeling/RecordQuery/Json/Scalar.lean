import RecordQuery.Json.Basic
import RecordQuery.Text.Numeral

/-! # Reading JSON scalars

The digits of a number with a fraction or exponent, or of a number beyond the range of whole
numbers, are read as a significand of at most sixty-four bits, which is rounded to binary64 and then
scaled by rounded powers of ten.

A reader gives nothing when the text breaks the grammar. A number that overflows and a text with
half of a surrogate pair obey the grammar but have no value: readers give the rest of the text and
no value for them. -/

namespace RecordQuery.Json

def isSpace (c : Char) : Bool := c == ' ' || c == '\n' || c == '\t' || c == '\r'

def skipSpace (cs : List Char) : List Char := cs.dropWhile isSpace

/-- The power of ten nearest to `10 ^ n`. -/
def powerOfTen (n : Nat) : Binary64 := Binary64.ofScientific false 1 n

/-- Scales a nonnegative number by a power of ten. Steps of more than 308 places are taken in
parts; a result beyond the greatest finite number is refused. -/
def scaleFloat? (x : Binary64) (exponent : Int) : Option Binary64 :=
  if exponent.natAbs ≤ 308 then
    let result :=
      if 0 ≤ exponent then x.mul (powerOfTen exponent.natAbs)
      else x.div (powerOfTen exponent.natAbs)
    if result.isInfinite then none else some result
  else if x.isZero then some x
  else if 0 ≤ exponent then none
  else scaleFloat? (x.div (powerOfTen 308)) (exponent + 308)
termination_by exponent.natAbs
decreasing_by omega

/-- The number `± significand · 10 ^ exponent`. -/
def floatOf? (negative : Bool) (significand : Nat) (exponent : Int) : Option Json :=
  (scaleFloat? (Binary64.ofRatio false significand 1) exponent).map fun x =>
    float (if negative then x.neg else x)

/-- A whole number; one out of range and the negative zero are binary numbers. -/
def integerOf (negative : Bool) (n : Nat) : Json :=
  if !negative then integer n
  else if n = 0 ∨ 0x8000000000000000 < n then float (Binary64.ofRatio true n 1)
  else integer (-n)

/-- Extends a significand by digits as long as it has at most sixty-four bits. The results are the
significand, the number of digits taken and the number of digits left out. -/
def extend (significand taken : Nat) : List Char → Nat × Nat × Nat
  | [] => (significand, taken, 0)
  | c :: rest =>
    let next := 10 * significand + (c.toNat - '0'.toNat)
    if next < 0x10000000000000000 then extend next (taken + 1) rest
    else (significand, taken, rest.length + 1)

/-- Reads the exponent of a number after its mark. -/
def readExponent? (cs : List Char) : Option (Int × List Char) :=
  let (negative, rest) := Numeral.splitSign cs
  let (digits, rest) := Numeral.spanDigits rest
  if digits.isEmpty then none
  else some (Numeral.withSign negative (Numeral.value digits), rest)

/-- Adds a scaled exponent in the range of thirty-two bits. An exponent beyond that range makes a
nonzero number overflow or vanish. -/
def exponentFloat? (negative : Bool) (significand : Nat) (start exponent : Int) : Option Json :=
  if exponent < 0x80000000 ∧ -0x80000000 < exponent then
    floatOf? negative significand (start + exponent)
  else if significand ≠ 0 ∧ 0 < exponent then none
  else some (float (Binary64.ofMagnitude negative 0))

/-- Reads the digits, fraction and exponent of a number after its sign. -/
def readUnsigned? (negative : Bool) (cs : List Char) : Option (Option Json × List Char) := do
  let (whole, rest) := Numeral.spanDigits cs
  if whole.isEmpty || (whole.length != 1 && whole.head? == some '0') then none
  else
    let (significand, _, dropped) := extend 0 0 whole
    let withExponent (significand : Nat) (start : Int) (cs : List Char) :
        Option (Option Json × List Char) :=
      match cs with
      | 'e' :: rest | 'E' :: rest => do
        let (exponent, rest) ← readExponent? rest
        return (exponentFloat? negative significand start exponent, rest)
      | rest => some (floatOf? negative significand start, rest)
    match rest with
    | '.' :: rest =>
      let (fraction, rest) := Numeral.spanDigits rest
      if fraction.isEmpty then none
      else
        let (significand, taken, _) := extend significand 0 fraction
        withExponent significand ((dropped : Int) - taken) rest
    | 'e' :: _ | 'E' :: _ => withExponent significand dropped rest
    | rest =>
      if dropped = 0 then some (some (integerOf negative significand), rest)
      else withExponent significand dropped rest

/-- Reads a number. -/
def readNumber? : List Char → Option (Option Json × List Char)
  | '-' :: rest => readUnsigned? true rest
  | cs => readUnsigned? false cs

/-- Reads four hexadecimal digits. -/
def readHex? : List Char → Option (Nat × List Char)
  | a :: b :: c :: d :: rest => do
    let digit (c : Char) : Option Nat :=
      if c.isDigit then some (c.toNat - '0'.toNat)
      else if 'a' ≤ c ∧ c ≤ 'f' then some (c.toNat - 'a'.toNat + 10)
      else if 'A' ≤ c ∧ c ≤ 'F' then some (c.toNat - 'A'.toNat + 10)
      else none
    return (4096 * (← digit a) + 256 * (← digit b) + 16 * (← digit c) + (← digit d), rest)
  | _ => none

/-- The character of a code, or the half of a surrogate pair that no other half follows. -/
def characterOf? (code : Nat) : Option Char :=
  if 0xD800 ≤ code ∧ code < 0xE000 then none else some (Char.ofNat code)

/-- Reads the code of an escape after its letter. The first half of a surrogate pair is read with
the second half if that comes next. -/
def readCode? (cs : List Char) : Option (Option Char × List Char) := do
  let (first, rest) ← readHex? cs
  if 0xD800 ≤ first ∧ first < 0xDC00 then
    match rest with
    | '\\' :: 'u' :: after =>
      let (second, after) ← readHex? after
      if 0xDC00 ≤ second ∧ second < 0xE000 then
        return (characterOf? (0x10000 + (first - 0xD800) * 1024 + (second - 0xDC00)), after)
      else return (none, rest)
    | rest => return (none, rest)
  else return (characterOf? first, rest)

/-- Reads the escape after a backslash. -/
def readEscape? : List Char → Option (Option Char × List Char)
  | '"' :: rest => some ('"', rest)
  | '\\' :: rest => some ('\\', rest)
  | '/' :: rest => some ('/', rest)
  | 'b' :: rest => some ('\x08', rest)
  | 'f' :: rest => some ('\x0c', rest)
  | 'n' :: rest => some ('\n', rest)
  | 'r' :: rest => some ('\r', rest)
  | 't' :: rest => some ('\t', rest)
  | 'u' :: rest => readCode? rest
  | _ => none

/-- Reads the characters of a text up to its closing quotation mark; `fuel` bounds their number. -/
def readCharacters? : Nat → List Char → Option (List (Option Char) × List Char)
  | 0, _ => none
  | _ + 1, [] => none
  | fuel + 1, c :: rest =>
    if c = '"' then some ([], rest)
    else if c = '\\' then do
      let (escaped, rest) ← readEscape? rest
      let (chars, rest) ← readCharacters? fuel rest
      return (escaped :: chars, rest)
    else if c.toNat < 32 then none
    else do
      let (chars, rest) ← readCharacters? fuel rest
      return (some c :: chars, rest)

/-- Reads a text after its opening quotation mark. -/
def readText? (cs : List Char) : Option (Option String × List Char) := do
  let (chars, rest) ← readCharacters? (cs.length + 1) cs
  return ((chars.mapM id).map String.ofList, rest)

/-- Reads a value other than an array or object. -/
def readScalar? : List Char → Option (Option Json × List Char)
  | 'n' :: 'u' :: 'l' :: 'l' :: rest => some (some null, rest)
  | 't' :: 'r' :: 'u' :: 'e' :: rest => some (some (bool true), rest)
  | 'f' :: 'a' :: 'l' :: 's' :: 'e' :: rest => some (some (bool false), rest)
  | '"' :: rest => (readText? rest).map fun (text, rest) => (text.map string, rest)
  | cs => readNumber? cs

end RecordQuery.Json
