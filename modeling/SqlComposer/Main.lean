import SqlComposer.CommandLine.Basic

/-!
The program: it reads the file and the environment, and prints what the command line answers.
-/
open SqlComposer SqlComposer.CommandLine

namespace SqlComposer.CommandLine

def readContent (path : String) : IO (Option String) :=
  try
    return some (← IO.FS.readFile path)
  catch _ =>
    return none

def readEnvironment : IO Environment := do
  let names := [Environment.dialectVariable, Environment.selectIndexVariable,
    Environment.refusesEmptyVariable]
  let found ← names.filterMapM fun name => do
    return (← IO.getEnv name).map fun value => (name, value)
  return ⟨OrderedMap.ofList found⟩

/-- Whether colors are wanted: on a terminal, unless the environment forbids them. -/
def wantsColor : IO Bool := do
  let isTerminal ← (← IO.getStdout).isTty
  return isTerminal && (← IO.getEnv "NO_COLOR").isNone

/-- Prints the end of reading the arguments. Help and the version are answers, all else is an
error. -/
def printUsage (reason : Usage) : IO UInt32 :=
  match reason with
  | .help | .version => do
    IO.println reason.message
    return 0
  | _ => do
    IO.eprintln reason.message
    return 2

end SqlComposer.CommandLine

/-- Answers the arguments: zero for an answer, one for a failure, two for arguments out of place. -/
def main (arguments : List String) : IO UInt32 := do
  match Request.ofArguments arguments with
  | .error reason => printUsage reason
  | .ok request =>
    let content? ← match request.path? with
      | some path => readContent path
      | none => pure none
    match request.answer content? (← readEnvironment) (← wantsColor) with
    | .ok text =>
      IO.print text
      return 0
    | .error failure =>
      IO.eprintln ("Error: " ++ failure.message)
      return 1
