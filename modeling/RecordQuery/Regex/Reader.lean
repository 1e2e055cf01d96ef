import RecordQuery.Regex.Storage
import RecordQuery.Text.Blank

/-! # Reading regular expressions

The textual notation of regular expressions: classes with set operations, groups with flags, counted
repetitions and assertions, but neither back references nor conditions on the text around a match.
Reading fails where the notation is not well formed, names an unknown class, nests too deep or takes
too much storage. -/

namespace RecordQuery.Regex

open Text (CharSet)

/-- The flags that hold at a place of an expression. -/
structure Flags where
  ignoreCase : Bool := false
  multiLine : Bool := false
  dotAll : Bool := false
  swapGreed : Bool := false
  unicode : Bool := true
  crlf : Bool := false
  verbose : Bool := false
deriving DecidableEq, Repr

namespace Flags

/-- Sets the flag that a letter names. -/
def set? (flags : Flags) (letter : Char) (value : Bool) : Option Flags :=
  match letter with
  | 'i' => some { flags with ignoreCase := value }
  | 'm' => some { flags with multiLine := value }
  | 's' => some { flags with dotAll := value }
  | 'U' => some { flags with swapGreed := value }
  | 'u' => some { flags with unicode := value }
  | 'R' => some { flags with crlf := value }
  | 'x' => some { flags with verbose := value }
  | _ => none

end Flags

/-- Where a reader is: the characters to come, the flags in force and the names of groups so far. -/
structure Place where
  rest : List Char
  flags : Flags
  names : List String

/-- A reader of a part of the notation. -/
abbrev Reader (α : Type) := StateT Place Option α

/-- An expression with the depth of its nesting. A directive only sets flags and may not be
repeated. -/
structure Node where
  regex : Regex
  depth : Nat
  isDirective : Bool := false

/-- A set of characters with the depth of its nesting. -/
structure ClassNode where
  set : CharSet
  depth : Nat

namespace Reader

def fail {α : Type} : Reader α := fun _ => none

def rest : Reader (List Char) := do return (← get).rest

def flags : Reader Flags := do return (← get).flags

def setRest (cs : List Char) : Reader Unit := modify fun place => { place with rest := cs }

def setFlags (flags : Flags) : Reader Unit := modify fun place => { place with flags }

def peek? : Reader (Option Char) := do return (← rest).head?

/-- The next character, which has to be there. -/
def peek : Reader Char := fun place => place.rest.head?.map (·, place)

def skip : Reader Unit := modify fun place => { place with rest := place.rest.tail }

/-- The characters that are left after blanks and comments. -/
def afterSpace : Bool → List Char → List Char
  | _, [] => []
  | inComment, c :: cs =>
    if inComment then afterSpace (c != '\n') cs
    else if Text.isBlank c then afterSpace false cs
    else if c = '#' then afterSpace true cs
    else c :: cs

/-- Skips blanks and comments where the notation allows them. -/
def skipSpace : Reader Unit :=
  modify fun place =>
    if place.flags.verbose then { place with rest := afterSpace false place.rest } else place

/-- Skips one character and the space after it. -/
def skipOne : Reader Unit := do skip; skipSpace

/-- Skips one character and the space after it; something has to follow. -/
def skipToNext : Reader Unit := do skipOne; let _ ← peek

/-- Skips a text if it is next. -/
def accept (text : String) : Reader Bool := do
  let cs ← rest
  if text.toList.isPrefixOf cs then
    setRest (cs.drop text.length)
    return true
  else return false

/-- The first character after blanks and the mark of a comment, or else the first of all. What a
comment says counts here like anything else. -/
def headAfterSpace? (cs : List Char) : Option Char :=
  let candidates :=
    match cs.dropWhile Text.isBlank with
    | '#' :: comment => comment.dropWhile Text.isBlank
    | cs => cs
  candidates.head? <|> cs.head?

/-- The next character but one, after space where that is allowed. -/
def peekSecond? : Reader (Option Char) := do
  let following := (← rest).tail
  return if (← flags).verbose then headAfterSpace? following else following.head?

def guard (condition : Bool) : Reader Unit := if condition then pure () else fail

/-- The value of hexadecimal digits as a character. -/
def charOfHex? (digits : List Char) : Option Char :=
  let digit (c : Char) : Option Nat :=
    if c.isDigit then some (c.toNat - 48)
    else if 'a' ≤ c ∧ c ≤ 'f' then some (c.toNat - 87)
    else if 'A' ≤ c ∧ c ≤ 'F' then some (c.toNat - 55)
    else none
  match digits.mapM digit with
  | none => none
  | some values =>
    let n := values.foldl (fun n d => 16 * n + d) 0
    if !values.isEmpty && n.isValidChar then some (Char.ofNat n) else none

/-- Reads as many digits as given. -/
def takeHex : Nat → Reader (List Char)
  | 0 => return []
  | n + 1 => do
    let c ← peek
    skipOne
    return c :: (← takeHex n)

/-- Reads up to a closing brace; the argument bounds the number of characters. -/
def takeBraced : Nat → Reader (List Char)
  | 0 => fail
  | n + 1 => do
    let c ← peek
    if c = '\x7d' then return []
    else
      skipOne
      return c :: (← takeBraced n)

/-- Reads the digits of a character after one of the letters `x`, `u` and `U`. -/
def readHex (letter : Char) : Reader (Char × Bool) := do
  skipToNext
  if (← peek) = '\x7b' then
    skipOne
    let digits ← takeBraced ((← rest).length + 1)
    skipOne
    match charOfHex? digits with
    | some c => return (c, false)
    | none => fail
  else
    let digits ← takeHex (match letter with | 'x' => 2 | 'u' => 4 | _ => 8)
    match charOfHex? digits with
    | some c => return (c, letter == 'x')
    | none => fail

/-- What an escape or a plain character stands for. -/
inductive Primitive where
  /-- A character; `byte` marks one that is written as two hexadecimal digits. -/
  | literal (c : Char) (byte : Bool)
  | set (set : CharSet)
  | regex (regex : Regex)

/-- The index where a text occurs first in another. -/
def splitAt? (mark : List Char) : List Char → Option (List Char × List Char)
  | [] => none
  | c :: cs =>
    if mark.isPrefixOf (c :: cs) then some ([], (c :: cs).drop mark.length)
    else (splitAt? mark cs).map fun (before, after) => (c :: before, after)

/-- Closes a set under case folding if the flags ask for it. -/
def withCase (set : CharSet) : Reader CharSet := do
  return if (← flags).ignoreCase then .folded set else set

/-- A set as the flags allow it: without Unicode it consists of ASCII characters. -/
def checked (set : CharSet) : Reader CharSet := do
  if (← flags).unicode then return set
  else if (List.range 128).any fun i => set.contains (128 + i) then fail
  else return .inter set .ascii

/-- The set that a property stands for; the first component says whether its complement is meant. -/
def propertySet? (name : List Char) : Option (Bool × CharSet) :=
  let valued (negated : Bool) (property value : List Char) : Option (Bool × CharSet) :=
    (valued? (String.ofList property) (String.ofList value)).map (negated, ·)
  match splitAt? ['!', '='] name with
  | some (property, value) => valued true property value
  | none =>
    match splitAt? [':'] name with
    | some (property, value) => valued false property value
    | none =>
      match splitAt? ['='] name with
      | some (property, value) => valued false property value
      | none => (named? (String.ofList name)).map (false, ·)

/-- Reads a property after one of the letters `p` and `P`. -/
def readProperty (letter : Char) : Reader Primitive := do
  skipToNext
  let c ← peek
  let name ←
    if c = '\x7b' then
      skipOne
      let name ← takeBraced ((← rest).length + 1)
      skip
      pure name
    else
      guard (c != '\\')
      skipOne
      pure [c]
  guard (← flags).unicode
  match propertySet? name with
  | some (negated, set) =>
    return .set (CharSet.complIf ((letter == 'P') != negated) (← withCase set))
  | none => fail

/-- The set of one of the letters `d`, `s` and `w` in either case. -/
def readShorthand (letter : Char) : Reader Primitive := do
  skip
  let unicode := (← flags).unicode
  let set : CharSet :=
    match letter.toLower with
    | 'd' => if unicode then digits else .ranges [(48, 57)]
    | 's' => if unicode then Text.Property.whiteSpace else .ranges [(9, 13), (32, 32)]
    | _ => if unicode then words else asciiWords
  return .set (← checked (CharSet.complIf letter.isUpper set))

/-- Reads letters and hyphens; the argument bounds their number. -/
def takeBoundaryName : Nat → Reader (List Char)
  | 0 => return []
  | n + 1 => do
    match ← peek? with
    | some c =>
      if c.isAlpha || c == '-' then
        skipOne
        return c :: (← takeBoundaryName n)
      else return []
    | none => return []

/-- Reads the kind of a word boundary in braces. Braces that hold a count are left to be read as a
repetition. -/
def readBoundary (ascii : Bool) : Reader Assertion := do
  if (← peek?) == some '\x7b' then
    let start ← get
    skipToNext
    let c ← peek
    if c.isAlpha || c == '-' then
      let name ← takeBoundaryName (← rest).length
      guard ((← peek?) == some '\x7d')
      skip
      match String.ofList name with
      | "start" => return .wordStart ascii
      | "end" => return .wordEnd ascii
      | "start-half" => return .wordStartHalf ascii
      | "end-half" => return .wordEndHalf ascii
      | _ => fail
    else
      set start
      return .wordBoundary ascii
  else return .wordBoundary ascii

/-- Reads an escape; the backslash is next. -/
def readEscape : Reader Primitive := do
  skip
  let c ← peek
  match c with
  | 'x' | 'u' | 'U' =>
    let (c, byte) ← readHex c
    return .literal c byte
  | 'p' | 'P' => readProperty c
  | 'd' | 's' | 'w' | 'D' | 'S' | 'W' => readShorthand c
  | _ =>
    let ascii := !(← flags).unicode
    skip
    match c with
    | 'a' => return .literal '\x07' false
    | 'f' => return .literal '\x0c' false
    | 't' => return .literal '\t' false
    | 'n' => return .literal '\n' false
    | 'r' => return .literal '\r' false
    | 'v' => return .literal '\x0b' false
    | 'A' => return .regex (.assertion .textStart)
    | 'z' => return .regex (.assertion .textEnd)
    | 'b' => return .regex (.assertion (← readBoundary ascii))
    | 'B' => return .regex (.assertion (.notWordBoundary ascii))
    | '<' => return .regex (.assertion (.wordStart ascii))
    | '>' => return .regex (.assertion (.wordEnd ascii))
    | c => if c.toNat < 128 && !c.isAlphanum then return .literal c false else fail

/-- Reads a name up to a closing angle bracket; the argument bounds its length. -/
def takeName (first : Bool) : Nat → Reader (List Char)
  | 0 => fail
  | n + 1 => do
    let c ← peek
    if c = '>' then return []
    else
      guard (c == '_' || Text.Property.alphabetic.contains c.toNat ||
        (!first && (c == '.' || c == '[' || c == ']' || Text.Category.numbers.contains c.toNat)))
      skip
      return c :: (← takeName false n)

/-- Reads the name of a group, which no other group has. -/
def readName : Reader Unit := do
  let name := String.ofList (← takeName true ((← rest).length + 1))
  skip
  guard (name != "" && !(← get).names.contains name)
  modify fun place => { place with names := name :: place.names }

/-- Reads letters of flags up to a colon or a closing parenthesis. Flags after a hyphen are unset;
a letter or a hyphen occurs at most once, and a letter follows the hyphen. The result says whether
there are any. -/
def readFlags (negated : Bool) (seen : List Char) : Nat → Reader Bool
  | 0 => fail
  | n + 1 => do
    let c ← peek
    if c = ':' ∨ c = ')' then
      guard (seen.head? != some '-')
      return !seen.isEmpty
    else
      guard (!seen.contains c)
      skip
      if c = '-' then readFlags true (c :: seen) n
      else
        match (← flags).set? c (!negated) with
        | some flags =>
          -- Space is skipped only once all flags are read.
          setFlags flags
          readFlags negated (c :: seen) n
        | none => fail

/-- Reads a count in braces; blanks may be around it. -/
def readCount? : Reader (Option Nat) := do
  setRest ((← rest).dropWhile Text.isBlank)
  let digits ← takeDigits (← rest).length
  dropBlanks (← rest).length
  if digits.isEmpty then return none
  else
    let n := Nat.ofDigitChars 10 digits 0
    guard (n < 0x100000000)
    return some n
where
  takeDigits : Nat → Reader (List Char)
    | 0 => return []
    | n + 1 => do
      match ← peek? with
      | some c =>
        if c.isDigit then
          skipOne
          return c :: (← takeDigits n)
        else return []
      | none => return []
  dropBlanks : Nat → Reader Unit
    | 0 => return ()
    | n + 1 => do
      match ← peek? with
      | some c =>
        if Text.isBlank c then
          skipOne
          dropBlanks n
        else return ()
      | none => return ()

/-- Reads the counts of a repetition; the opening brace is next. -/
def readCounts : Reader (Nat × Option Nat) := do
  skipToNext
  let least? ← readCount?
  let counts ←
    if (← peek) = ',' then
      skipToNext
      if (← peek) = '\x7d' then
        match least? with
        | some least => pure (least, none)
        | none => fail
      else
        match least?, ← readCount? with
        | some least, some most => pure (least, some most)
        | _, _ => fail
    else
      match least? with
      | some n => pure (n, some n)
      | none => fail
  guard ((← peek) == '\x7d')
  skipOne
  let _ ← accept "?"
  guard ((counts.2.map (decide <| counts.1 ≤ ·)).getD true)
  return counts

/-- A character as an expression. -/
def ofLiteral (c : Char) (byte : Bool) : Reader Regex := do
  let flags ← flags
  guard (flags.unicode || !byte || c.toNat < 128)
  if flags.ignoreCase && (flags.unicode || c.toNat < 128) then
    let folded := CharSet.folded (.single c.toNat)
    return ofSet (if flags.unicode then folded else .inter folded .ascii)
  else return char c

def ofPrimitive : Primitive → Reader Regex
  | .literal c byte => ofLiteral c byte
  | .set set => return ofSet set
  | .regex regex => return regex

/-- Any character, or any that does not end a line. -/
def dot : Reader Regex := do
  let flags ← flags
  guard flags.unicode
  if flags.dotAll then return ofSet .any
  else if flags.crlf then return ofSet (.compl (.ranges [(10, 10), (13, 13)]))
  else return ofSet (.compl (.single 10))

def caret : Reader Regex := do
  let flags ← flags
  return .assertion (if !flags.multiLine then .textStart
    else if flags.crlf then .lineStartCrlf else .lineStart)

def dollar : Reader Regex := do
  let flags ← flags
  return .assertion (if !flags.multiLine then .textEnd
    else if flags.crlf then .lineEndCrlf else .lineEnd)

/-- A set operation of the notation. -/
inductive SetOperation where
  | intersection
  | difference
  | symmetricDifference

def SetOperation.apply : SetOperation → CharSet → CharSet → CharSet
  | intersection, a, b => .inter a b
  | difference, a, b => .diff a b
  | symmetricDifference, a, b => .symmDiff a b

/-- A set of several items. -/
def unionNode (items : List ClassNode) : ClassNode :=
  match items with
  | [item] => item
  | [] => ⟨.empty, 0⟩
  | items => ⟨.unions (items.map (·.set)), 1 + (items.map (·.depth)).foldl max 0⟩

/-- The result of an operation that waits for its right side. -/
def combined (pending : Option (SetOperation × ClassNode)) (right : ClassNode) :
    Reader ClassNode := do
  match pending with
  | none => return right
  | some (operation, left) =>
    return ⟨operation.apply (← withCase left.set) (← withCase right.set),
      1 + max left.depth right.depth⟩

/-- Reads a named set of ASCII characters in brackets and colons, if there is one. -/
def readNamedSet? : Reader (Option ClassNode) := do
  let start ← get
  if ← accept "[:" then
    let negated ← accept "^"
    match splitAt? [':'] (← rest) with
    | some (name, ']' :: after) =>
      match namedAscii? (String.ofList name) with
      | some set =>
        setRest after
        return some ⟨← checked (CharSet.complIf negated (← withCase set)), 0⟩
      | none => set start; return none
    | _ => set start; return none
  else return none

/-- Reads a member of a class. -/
def readClassItem : Reader Primitive := do
  let c ← peek
  if c = '\\' then readEscape
  else
    skip
    return .literal c false

/-- A character as the end of a range in a class. -/
def classLiteral : Primitive → Reader Char
  | .literal c byte => do
    let unicode := (← flags).unicode
    guard (unicode || c.toNat < 128)
    guard (unicode || !byte || c.toNat < 128)
    return c
  | _ => fail

/-- Reads a single member or a range of a class. -/
def readClassRange : Reader ClassNode := do
  let first ← readClassItem
  skipSpace
  let c ← peek
  let second? ← peekSecond?
  if c != '-' || second? == some ']' || second? == some '-' then
    match first with
    | .literal _ _ => do return ⟨.single (← classLiteral first).toNat, 0⟩
    | .set set => return ⟨set, 0⟩
    | .regex _ => fail
  else
    skipToNext
    let last ← readClassItem
    let low ← classLiteral first
    let high ← classLiteral last
    guard (low ≤ high)
    return ⟨.ranges [(low.toNat, high.toNat)], 0⟩

/-- Reads hyphens at the beginning of a class; the argument bounds their number. -/
def readHyphens : Nat → Reader (List ClassNode)
  | 0 => return []
  | n + 1 => do
    if (← peek) = '-' then
      skipToNext
      return ⟨.single '-'.toNat, 0⟩ :: (← readHyphens n)
    else return []

/-- Reads the beginning of a class; the opening bracket is next. The result says whether the class
is negated and lists the characters that only count as members there. -/
def readClassStart : Reader (Bool × List ClassNode) := do
  skipToNext
  let negated : Bool := (← peek) == '^'
  if negated then skipToNext
  let hyphens ← readHyphens (← rest).length
  if hyphens.isEmpty && (← peek) == ']' then
    skipToNext
    return (negated, [⟨.single ']'.toNat, 0⟩])
  else return (negated, hyphens)

/-- Closes a class. -/
def closeClass (negated : Bool) (node : ClassNode) : Reader ClassNode := do
  return ⟨← checked (CharSet.complIf negated (← withCase node.set)), 1 + node.depth⟩

/-- Reads a class from its members on up to its closing bracket; `fuel` bounds the steps. The items
of the union that is being read are kept last first. -/
def readClass (pending : Option (SetOperation × ClassNode)) (items : List ClassNode) :
    Nat → Reader ClassNode
  | 0 => fail
  | fuel + 1 => do
    skipSpace
    let c ← peek
    let operator (operation : SetOperation) : Reader ClassNode := do
      skip
      skip
      let left ← combined pending (unionNode items.reverse)
      readClass (some (operation, left)) [] fuel
    let second? := (← rest).tail.head?
    if c = '[' then
      match ← readNamedSet? with
      | some node => readClass pending (node :: items) fuel
      | none =>
        let (negated, start) ← readClassStart
        let inner ← readClass none start.reverse fuel
        let node ← closeClass negated inner
        readClass pending (node :: items) fuel
    else if c = ']' then
      let node ← combined pending (unionNode items.reverse)
      skip
      return node
    else if c = '&' && second? == some '&' then operator .intersection
    else if c = '-' && second? == some '-' then operator .difference
    else if c = '~' && second? == some '~' then operator .symmetricDifference
    else
      let item ← readClassRange
      readClass pending (item :: items) fuel

/-- Reads a class; the opening bracket is next. -/
def readBracketed (fuel : Nat) : Reader Node := do
  let (negated, start) ← readClassStart
  let node ← closeClass negated (← readClass none start.reverse fuel)
  return { regex := ofSet node.set, depth := node.depth }

/-- Expressions one after the other. -/
def sequenceNode (items : List Node) : Node :=
  match items with
  | [] => { regex := .empty, depth := 0 }
  | [item] => item
  | items =>
    { regex := concat (items.map (·.regex))
      depth := 1 + (items.map (·.depth)).foldl max 0 }

/-- Expressions to choose from. -/
def choiceNode (first : Node) (others : List Node) : Node :=
  match others with
  | [] => first
  | others =>
    { regex := choice ((first :: others).map (·.regex))
      depth := 1 + ((first :: others).map (·.depth)).foldl max 0 }

/-- Repeats the last of the items, which are kept last first. -/
def repeatLast (items : List Node) (least : Nat) (most : Option Nat) : Reader (List Node) :=
  match items with
  | item :: items =>
    if item.isDirective then fail
    else return { regex := repeated item.regex least most, depth := 1 + item.depth } :: items
  | [] => fail

mutual

/-- Reads the branches of an alternative up to a closing parenthesis or the end. -/
def readChoice : Nat → Reader Node
  | 0 => fail
  | fuel + 1 => do
    let first := sequenceNode (← readSequence [] fuel).reverse
    return choiceNode first (← readBranches fuel)

/-- Reads further branches, each after a bar. -/
def readBranches : Nat → Reader (List Node)
  | 0 => fail
  | fuel + 1 => do
    if ← accept "|" then
      let branch := sequenceNode (← readSequence [] fuel).reverse
      return branch :: (← readBranches fuel)
    else return []

/-- Reads expressions one after the other; those read are kept last first. -/
def readSequence (items : List Node) : Nat → Reader (List Node)
  | 0 => fail
  | fuel + 1 => do
    skipSpace
    match ← peek? with
    | none | some ')' | some '|' => return items
    | some '(' =>
      let node ← readGroup fuel
      readSequence (node :: items) fuel
    | some '[' =>
      let node ← readBracketed fuel
      readSequence (node :: items) fuel
    | some '?' =>
      skip
      let items ← repeatLast items 0 (some 1)
      let _ ← accept "?"
      readSequence items fuel
    | some '*' =>
      skip
      let items ← repeatLast items 0 none
      let _ ← accept "?"
      readSequence items fuel
    | some '+' =>
      skip
      let items ← repeatLast items 1 none
      let _ ← accept "?"
      readSequence items fuel
    | some '\x7b' =>
      let (least, most) ← readCounts
      readSequence (← repeatLast items least most) fuel
    | some '\\' =>
      let regex ← ofPrimitive (← readEscape)
      readSequence ({ regex, depth := 0 } :: items) fuel
    | some '.' =>
      skip
      readSequence ({ regex := ← dot, depth := 0 } :: items) fuel
    | some '^' =>
      skip
      readSequence ({ regex := ← caret, depth := 0 } :: items) fuel
    | some '$' =>
      skip
      readSequence ({ regex := ← dollar, depth := 0 } :: items) fuel
    | some c =>
      skip
      readSequence ({ regex := ← ofLiteral c false, depth := 0 } :: items) fuel

/-- Reads a group or a directive; the opening parenthesis is next. Flags set inside a group hold up
to its end. -/
def readGroup : Nat → Reader Node
  | 0 => fail
  | fuel + 1 => do
    let outer ← flags
    let body (kept : Bool) : Reader Node := do
      let node ← readChoice fuel
      guard ((← peek?) == some ')')
      setFlags outer
      skip
      return { regex := if kept then .group node.regex else node.regex, depth := 1 + node.depth }
    skip
    skipSpace
    if (← accept "?=") || (← accept "?!") || (← accept "?<=") || (← accept "?<!") then fail
    else if (← accept "?P<") || (← accept "?<") then
      readName
      body true
    else if ← accept "?" then
      let any ← readFlags false [] ((← rest).length + 1)
      if (← peek) = ')' then
        guard any
        skip
        return { regex := .empty, depth := 0, isDirective := true }
      else
        skip
        body false
    else body true

end

/-- Reads a whole expression. -/
def readAll (length : Nat) : Reader Node := do
  let node ← readChoice (4 * length + 4)
  guard (← rest).isEmpty
  guard (node.depth ≤ 250)
  guard (Storage.isWithinLimit node.regex)
  return node

end Reader

/-- Reads an expression from a whole text. -/
def ofText? (text : String) : Option Regex :=
  (Reader.readAll text.length { rest := text.toList, flags := {}, names := [] }).map (·.1.regex)

end RecordQuery.Regex
