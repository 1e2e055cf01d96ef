import RecordQuery.Binary64.Basic
import RecordQuery.Text.Numeral

/-! # Reading binary64 numbers

A number is an optional sign followed by digits with an optional point among them and an optional
exponent, or by one of the words for infinity and NaN in any case of letters. The value is the
binary64 number nearest to the decimal one. -/

namespace RecordQuery.Binary64

/-- An unsigned decimal number: the digits around the point and the exponent. -/
def readMagnitude? (negative : Bool) (cs : List Char) : Option Binary64 :=
  let whole := cs.takeWhile Char.isDigit
  let rest := cs.dropWhile Char.isDigit
  let (fraction, rest) :=
    match rest with
    | '.' :: rest => Numeral.spanDigits rest
    | rest => ([], rest)
  if whole.isEmpty && fraction.isEmpty then none
  else
    let digits := Numeral.value (whole ++ fraction)
    let exponent? : Option Int :=
      match rest with
      | [] => some 0
      | 'e' :: rest | 'E' :: rest => Numeral.toInt? rest
      | _ => none
    exponent?.map fun exponent => ofScientific negative digits (exponent - fraction.length)

/-- Reads a whole text as a number. -/
def ofText? (text : String) : Option Binary64 :=
  let (negative, cs) := Numeral.splitSign text.toList
  match String.ofList (cs.map Char.toLower) with
  | "inf" | "infinity" => some (infinity negative)
  | "nan" => some nan
  | _ => readMagnitude? negative cs

end RecordQuery.Binary64
