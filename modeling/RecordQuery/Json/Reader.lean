import RecordQuery.Json.Scalar

/-! # Reading JSON

A reader for whole JSON texts with a bound on how deep arrays and objects nest. What obeys the
grammar but has no value is a number that overflows, a text with half of a surrogate pair, an object
with such a name, and an array or object nested beyond the bound. A tree that is read with its gaps
holds `Json.gap` in these places, so that typed data can be read from a text whose gaps all lie in
members that are ignored. -/

namespace RecordQuery.Json

/-- What stands for a value that a text spells but no tree holds. No text denotes an infinite
number, and no typed data is read from one. -/
def gap : Json := float (Binary64.infinity false)

mutual

/-- Whether a tree has no gap. -/
def isWhole : Json → Bool
  | float x => !x.isInfinite
  | array items => isWholeItems items
  | object members => isWholeMembers members
  | _ => true

def isWholeItems : List Json → Bool
  | [] => true
  | item :: rest => isWhole item && isWholeItems rest

def isWholeMembers : List (String × Json) → Bool
  | [] => true
  | (_, value) :: rest => isWhole value && isWholeMembers rest

end

/-- An array or object that is read over. -/
inductive Bracket where
  | array
  | object
deriving DecidableEq, Repr

/-- Reads over the name of a member up to its value. -/
def skipName? (cs : List Char) : Option (List Char) :=
  match skipSpace cs with
  | '"' :: rest => do
    let (_, rest) ← readText? rest
    match skipSpace rest with
    | ':' :: rest => some rest
    | _ => none
  | _ => none

mutual

/-- Reads over a value and on to the end of the outermost open bracket; `fuel` bounds the number of
values and brackets. -/
def skipValue? : Nat → List Bracket → List Char → Option (List Char)
  | 0, _, _ => none
  | fuel + 1, opened, cs =>
    match skipSpace cs with
    | '[' :: rest =>
      match skipSpace rest with
      | ']' :: rest => skipOn? fuel opened rest
      | rest => skipValue? fuel (.array :: opened) rest
    | '\x7b' :: rest =>
      match skipSpace rest with
      | '\x7d' :: rest => skipOn? fuel opened rest
      | rest => (skipName? rest).bind (skipValue? fuel (.object :: opened))
    | cs => (readScalar? cs).bind fun (_, rest) => skipOn? fuel opened rest

/-- Reads on after a value to the end of the outermost open bracket. -/
def skipOn? : Nat → List Bracket → List Char → Option (List Char)
  | _, [], cs => some cs
  | 0, _ :: _, _ => none
  | fuel + 1, bracket :: opened, cs =>
    match bracket, skipSpace cs with
    | .array, ',' :: rest => skipValue? fuel (.array :: opened) rest
    | .object, ',' :: rest => (skipName? rest).bind (skipValue? fuel (.object :: opened))
    | .array, ']' :: rest | .object, '\x7d' :: rest => skipOn? fuel opened rest
    | _, _ => none

end

/-- Reads over a value of any depth. -/
def skip? (cs : List Char) : Option (List Char) := skipValue? (2 * cs.length + 1) [] cs

/-- Reads the items of a nonempty array up to its closing bracket; `fuel` bounds their number. -/
def readItems? (value? : List Char → Option (Json × List Char)) :
    Nat → List Char → Option (List Json × List Char)
  | 0, _ => none
  | fuel + 1, cs => do
    let (item, rest) ← value? cs
    match skipSpace rest with
    | ',' :: rest => do
      let (items, rest) ← readItems? value? fuel rest
      return (item :: items, rest)
    | ']' :: rest => return ([item], rest)
    | _ => none

/-- Reads the members of a nonempty object up to its closing brace; `fuel` bounds their number. -/
def readMembers? (value? : List Char → Option (Json × List Char)) :
    Nat → List Char → Option (List (Option String × Json) × List Char)
  | 0, _ => none
  | fuel + 1, cs => do
    match skipSpace cs with
    | '"' :: rest => do
      let (key, rest) ← readText? rest
      match skipSpace rest with
      | ':' :: rest => do
        let (value, rest) ← value? rest
        match skipSpace rest with
        | ',' :: rest => do
          let (members, rest) ← readMembers? value? fuel rest
          return ((key, value) :: members, rest)
        | '\x7d' :: rest => return ([(key, value)], rest)
        | _ => none
      | _ => none
    | _ => none

/-- The object of some members; a gap if one has no name. -/
def objectOf (members : List (Option String × Json)) : Json :=
  let named : Option (List (String × Json)) := members.mapM fun (key, value) => do
    return (← key, value)
  (named.map object).getD gap

/-- Reads a value with its gaps. Arrays and objects nest at most `depth` deep. -/
def readValue? (depth : Nat) (cs : List Char) : Option (Json × List Char) :=
  match depth, skipSpace cs with
  | 0, '[' :: rest => (skip? ('[' :: rest)).map (gap, ·)
  | 0, '\x7b' :: rest => (skip? ('\x7b' :: rest)).map (gap, ·)
  | depth + 1, '[' :: rest =>
    match skipSpace rest with
    | ']' :: rest => some (array [], rest)
    | rest => (readItems? (readValue? depth) (rest.length + 1) rest).map fun (items, rest) =>
        (array items, rest)
  | depth + 1, '\x7b' :: rest =>
    match skipSpace rest with
    | '\x7d' :: rest => some (object [], rest)
    | rest => (readMembers? (readValue? depth) (rest.length + 1) rest).map fun (members, rest) =>
        (objectOf members, rest)
  | _, cs => (readScalar? cs).map fun (json, rest) => (json.getD gap, rest)

/-- Reads a whole text with its gaps; objects keep all members in the order of the text. -/
def readWithGaps? (depth : Nat) (text : String) : Option Json :=
  match readValue? depth text.toList with
  | some (json, rest) => if (skipSpace rest).isEmpty then some json else none
  | none => none

/-- Reads a whole text without gaps; objects keep all members in the order of the text. -/
def readText (depth : Nat) (text : String) : Option Json :=
  (readWithGaps? depth text).filter isWhole

/-- How deep arrays and objects of a text may nest. -/
def depthLimit : Nat := 127

/-- Reads a whole text as typed data is read from it, with repeated members and gaps. -/
def ofTextRaw? (text : String) : Option Json := readWithGaps? depthLimit text

/-- Reads a whole text as a tree of sorted objects. -/
def ofText? (text : String) : Option Json := (readText depthLimit text).map sorted

end RecordQuery.Json
