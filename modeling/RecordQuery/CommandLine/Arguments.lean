/-! # Arguments of the command line

Options have a long name and may have a letter. A value follows its option as the next argument, or
after `=`; behind a letter it may also follow at once. Letters of switches may be written
together. -/

namespace RecordQuery.CommandLine

/-- An option that takes a value. -/
inductive Setting where
  | schema
  | data
  | entity
  | config
deriving DecidableEq, Repr

/-- An option without a value. -/
inductive Switch where
  /-- Print the query instead of its results. -/
  | explain
  /-- Print one page instead of every match. -/
  | page
  /-- Print indented JSON. -/
  | pretty
deriving DecidableEq, Repr

/-- What the arguments say; the last ones come first. -/
structure Arguments where
  settings : List (Setting × String) := []
  switches : List Switch := []
  operands : List String := []
deriving DecidableEq, Repr

def Setting.ofName? : List Char → Option Setting
  | ['s', 'c', 'h', 'e', 'm', 'a'] => some schema
  | ['d', 'a', 't', 'a'] => some data
  | ['e', 'n', 't', 'i', 't', 'y'] => some entity
  | ['c', 'o', 'n', 'f', 'i', 'g'] => some config
  | _ => none

def Setting.ofLetter? : Char → Option Setting
  | 's' => some schema
  | 'd' => some data
  | 'e' => some entity
  | 'c' => some config
  | _ => none

def Switch.ofName? : List Char → Option Switch
  | ['e', 'x', 'p', 'l', 'a', 'i', 'n'] => some explain
  | ['p', 'a', 'g', 'e'] => some page
  | ['p', 'r', 'e', 't', 't', 'y'] => some pretty
  | _ => none

def Switch.ofLetter? : Char → Option Switch
  | 'p' => some pretty
  | _ => none

namespace Arguments

/-- Gives an option its value, once. Files have nonempty names. -/
def set? (arguments : Arguments) (setting : Setting) (value : String) : Option Arguments :=
  if (arguments.settings.lookup setting).isSome || (value.isEmpty && setting != .entity) then none
  else some { arguments with settings := (setting, value) :: arguments.settings }

/-- Turns on a switch, once. -/
def turnOn? (arguments : Arguments) (switch : Switch) : Option Arguments :=
  if arguments.switches.contains switch then none
  else some { arguments with switches := switch :: arguments.switches }

/-- Adds an argument that is not an option; there is one at most. -/
def addOperand? (arguments : Arguments) (operand : String) : Option Arguments :=
  if arguments.operands.isEmpty && !operand.isEmpty then
    some { arguments with operands := [operand] }
  else none

/-- Reads an option by its long name; the answer names the option whose value is to follow. -/
def readName? (arguments : Arguments) (cs : List Char) : Option (Option Setting × Arguments) :=
  let name := cs.takeWhile (· != '=')
  match Setting.ofName? name, Switch.ofName? name, cs.dropWhile (· != '=') with
  | some setting, _, [] => some (some setting, arguments)
  | some setting, _, _ :: value =>
    (arguments.set? setting (String.ofList value)).map fun arguments => (none, arguments)
  | none, some switch, [] => (arguments.turnOn? switch).map fun arguments => (none, arguments)
  | _, _, _ => none

/-- Reads options by their letters; the answer names the option whose value is to follow. -/
def readLetters? (arguments : Arguments) : List Char → Option (Option Setting × Arguments)
  | [] => some (none, arguments)
  | c :: rest =>
    match Setting.ofLetter? c, Switch.ofLetter? c, rest with
    | some setting, _, [] => some (some setting, arguments)
    | some setting, _, '=' :: value | some setting, _, value =>
      (arguments.set? setting (String.ofList value)).map fun arguments => (none, arguments)
    | none, some switch, _ =>
      (arguments.turnOn? switch).bind fun arguments => arguments.readLetters? rest
    | none, none, _ => none

/-- Reads further arguments; one option may be waiting for its value. -/
def read? (arguments : Arguments) (waiting : Option Setting) : List String → Option Arguments
  | [] => if waiting.isNone then some arguments else none
  | arg :: rest =>
    match waiting, arg.toList with
    | some setting, cs =>
      if cs.head? = some '-' ∧ cs ≠ ['-'] then none
      else (arguments.set? setting arg).bind fun arguments => arguments.read? none rest
    | none, ['-', '-'] => rest.foldlM addOperand? arguments
    | none, '-' :: '-' :: name =>
      (arguments.readName? name).bind fun (waiting, arguments) => arguments.read? waiting rest
    | none, '-' :: c :: letters =>
      (arguments.readLetters? (c :: letters)).bind fun (waiting, arguments) =>
        arguments.read? waiting rest
    | none, _ => (arguments.addOperand? arg).bind fun arguments => arguments.read? none rest

def ofList? (args : List String) : Option Arguments := ({} : Arguments).read? none args

/-- The value of an option. -/
def get? (arguments : Arguments) (setting : Setting) : Option String :=
  arguments.settings.lookup setting

def has (arguments : Arguments) (switch : Switch) : Bool := arguments.switches.contains switch

end Arguments

end RecordQuery.CommandLine
