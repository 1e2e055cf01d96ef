import RecordQuery.CommandLine.Basic

/-! # The program -/

open RecordQuery CommandLine

/-- The content of a file, if it can be read as text. -/
def contentOf? (path : String) : IO (Option String) := do
  try return some (← IO.FS.readFile path) catch _ => return none

/-- The whole standard input, if it can be read as text. -/
def standardInput? : IO (Option String) := do
  try return some (← (← IO.getStdin).readToEnd) catch _ => return none

/-- Reads everything that a task may ask for. -/
def inputsOf (task : Task) : IO Inputs := do
  let paths := task.schema :: [task.data, task.request, task.config].filterMap id
  let contents ← paths.mapM contentOf?
  let stdin ← if task.request.isNone then standardInput? else pure none
  return { file? := fun path => ((paths.zip contents).lookup path).join, stdin }

def main (args : List String) : IO UInt32 := do
  match (Arguments.ofList? args).bind Task.ofArguments? with
  | none =>
    IO.eprintln usage
    return 2
  | some task =>
    match run task (← inputsOf task) with
    | .ok output =>
      IO.print output
      return 0
    | .error failure =>
      IO.eprintln failure.report
      return 1
