import RecordQuery.Text.Blank

/-! # Date and time patterns

A pattern is a text with specifiers that start with a percent sign. It is split into items: literal
text, runs of blanks, numeric fields, names and other fixed fields, and parts that mean nothing. -/

namespace RecordQuery.Calendar

/-- How a numeric field is filled up to its width when it is written. -/
inductive Padding where
  | none
  | zero
  | space
deriving DecidableEq, Repr

/-- A number taken from a date or time. -/
inductive NumericField where
  | year | yearDiv100 | yearMod100
  | isoYear | isoYearMod100
  | quarter | month | day
  | weekFromSunday | weekFromMonday | isoWeek
  | daysFromSunday | weekdayFromMonday
  | ordinal
  | hour | hour12 | minute | second | nanosecond
  | timestamp
deriving DecidableEq, Repr

/-- The separators in a time zone offset and the smallest unit it shows. -/
inductive OffsetStyle where
  | plain
  | colon
  | doubleColon
  | hoursOnly
  | permissive
deriving DecidableEq, Repr

/-- A part of a date or time that has one form. -/
inductive FixedField where
  | shortMonth | longMonth
  | shortWeekday | longWeekday
  | lowerAmPm | upperAmPm
  | fraction
  | fractionDigits (count : Nat)
  | bareFraction (count : Nat)
  | zoneName
  | offset (style : OffsetStyle)
  | rfc3339
deriving DecidableEq, Repr

/-- One part of a pattern. -/
inductive Item where
  | literal (text : List Char)
  | space (text : List Char)
  | numeric (field : NumericField) (padding : Padding)
  | fixed (field : FixedField)
  | invalid
deriving DecidableEq, Repr

namespace Item

def zeroPadded (field : NumericField) : Item := .numeric field .zero

def spacePadded (field : NumericField) : Item := .numeric field .space

def unpadded (field : NumericField) : Item := .numeric field .none

def slashDate : List Item :=
  [zeroPadded .month, .literal ['/'], zeroPadded .day, .literal ['/'], zeroPadded .yearMod100]

def clockTime : List Item :=
  [zeroPadded .hour, .literal [':'], zeroPadded .minute, .literal [':'], zeroPadded .second]

/-- The items of a specifier that is one letter. -/
def ofLetter : Char → List Item
  | 'A' => [.fixed .longWeekday]
  | 'B' => [.fixed .longMonth]
  | 'C' => [zeroPadded .yearDiv100]
  | 'D' => slashDate
  | 'F' =>
    [zeroPadded .year, .literal ['-'], zeroPadded .month, .literal ['-'], zeroPadded .day]
  | 'G' => [zeroPadded .isoYear]
  | 'H' => [zeroPadded .hour]
  | 'I' => [zeroPadded .hour12]
  | 'M' => [zeroPadded .minute]
  | 'P' => [.fixed .lowerAmPm]
  | 'R' => [zeroPadded .hour, .literal [':'], zeroPadded .minute]
  | 'S' => [zeroPadded .second]
  | 'T' => clockTime
  | 'U' => [zeroPadded .weekFromSunday]
  | 'V' => [zeroPadded .isoWeek]
  | 'W' => [zeroPadded .weekFromMonday]
  | 'X' => clockTime
  | 'Y' => [zeroPadded .year]
  | 'Z' => [.fixed .zoneName]
  | 'a' => [.fixed .shortWeekday]
  | 'b' => [.fixed .shortMonth]
  | 'c' =>
    [.fixed .shortWeekday, .space [' '], .fixed .shortMonth, .space [' '], spacePadded .day,
      .space [' ']] ++ clockTime ++ [.space [' '], zeroPadded .year]
  | 'd' => [zeroPadded .day]
  | 'e' => [spacePadded .day]
  | 'f' => [zeroPadded .nanosecond]
  | 'g' => [zeroPadded .isoYearMod100]
  | 'h' => [.fixed .shortMonth]
  | 'j' => [zeroPadded .ordinal]
  | 'k' => [spacePadded .hour]
  | 'l' => [spacePadded .hour12]
  | 'm' => [zeroPadded .month]
  | 'n' => [.space ['\n']]
  | 'p' => [.fixed .upperAmPm]
  | 'q' => [unpadded .quarter]
  | 'r' =>
    [zeroPadded .hour12, .literal [':'], zeroPadded .minute, .literal [':'], zeroPadded .second,
      .space [' '], .fixed .upperAmPm]
  | 's' => [unpadded .timestamp]
  | 't' => [.space ['\t']]
  | 'u' => [unpadded .weekdayFromMonday]
  | 'v' =>
    [spacePadded .day, .literal ['-'], .fixed .shortMonth, .literal ['-'], zeroPadded .year]
  | 'w' => [unpadded .daysFromSunday]
  | 'x' => slashDate
  | 'y' => [zeroPadded .yearMod100]
  | 'z' => [.fixed (.offset .plain)]
  | '+' => [.fixed .rfc3339]
  | '%' => [.literal ['%']]
  | _ => [.invalid]

/-- Reads the specifier after a percent sign and its flag; the letters it takes are dropped. -/
def ofSpecifier : List Char → List Item × List Char
  | ':' :: ':' :: ':' :: 'z' :: rest => ([.fixed (.offset .hoursOnly)], rest)
  | ':' :: ':' :: 'z' :: rest => ([.fixed (.offset .doubleColon)], rest)
  | ':' :: 'z' :: rest => ([.fixed (.offset .colon)], rest)
  | '.' :: 'f' :: rest => ([.fixed .fraction], rest)
  | '.' :: '3' :: 'f' :: rest => ([.fixed (.fractionDigits 3)], rest)
  | '.' :: '6' :: 'f' :: rest => ([.fixed (.fractionDigits 6)], rest)
  | '.' :: '9' :: 'f' :: rest => ([.fixed (.fractionDigits 9)], rest)
  | '3' :: 'f' :: rest => ([.fixed (.bareFraction 3)], rest)
  | '6' :: 'f' :: rest => ([.fixed (.bareFraction 6)], rest)
  | '9' :: 'f' :: rest => ([.fixed (.bareFraction 9)], rest)
  | letter :: rest => (ofLetter letter, rest)
  | [] => ([.invalid], [])

/-- A padding flag applies to a specifier that is one numeric field and to no other. -/
def withPadding (padding : Padding) : List Item → List Item
  | [.numeric field _] => [.numeric field padding]
  | _ => [.invalid]

/-- Reads what follows a percent sign. -/
def ofDirective : List Char → List Item × List Char
  | '-' :: rest => ((ofSpecifier rest).map (withPadding .none) id)
  | '0' :: rest => ((ofSpecifier rest).map (withPadding .zero) id)
  | '_' :: rest => ((ofSpecifier rest).map (withPadding .space) id)
  | '#' :: 'z' :: rest => ([.fixed (.offset .permissive)], rest)
  | '#' :: rest => ([.invalid], rest.drop 1)
  | rest => ofSpecifier rest

theorem ofSpecifier_length (cs : List Char) : (ofSpecifier cs).2.length ≤ cs.length := by
  unfold ofSpecifier
  split <;> simp only [List.length_cons, List.length_nil] <;> omega

theorem ofDirective_length (cs : List Char) : (ofDirective cs).2.length ≤ cs.length := by
  unfold ofDirective
  split
  · exact Nat.le_succ_of_le (ofSpecifier_length _)
  · exact Nat.le_succ_of_le (ofSpecifier_length _)
  · exact Nat.le_succ_of_le (ofSpecifier_length _)
  · simp only [List.length_cons]; omega
  · simp only [List.length_cons, List.length_drop]; omega
  · exact ofSpecifier_length _

/-- The character is ordinary text of a pattern. -/
def isPlain (c : Char) : Bool := c != '%' && !Text.isBlank c

/-- The items of a pattern, in order. -/
def ofPattern : List Char → List Item
  | [] => []
  | c :: rest =>
    if c = '%' then
      (ofDirective rest).1 ++ ofPattern (ofDirective rest).2
    else if Text.isBlank c then
      .space (c :: rest.takeWhile Text.isBlank) :: ofPattern (rest.dropWhile Text.isBlank)
    else
      .literal (c :: rest.takeWhile isPlain) :: ofPattern (rest.dropWhile isPlain)
termination_by cs => cs.length
decreasing_by
  · exact Nat.lt_succ_of_le (ofDirective_length rest)
  · exact Nat.lt_succ_of_le (List.dropWhile_sublist _).length_le
  · exact Nat.lt_succ_of_le (List.dropWhile_sublist _).length_le

end Item

/-- The items of a pattern text. -/
def patternItems (pattern : String) : List Item := Item.ofPattern pattern.toList

end RecordQuery.Calendar
