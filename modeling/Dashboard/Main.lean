import Dashboard.CommandLine.Run

/-!
# Main · the command line

Reads the files that a command names, runs the command, and prints or writes what it makes. A
failure goes to the standard error stream; all decisions are those of `CommandLine.Run`.
-/

namespace Dashboard.CommandLine

/-- The text of a file; none if it cannot be read. -/
def readText? (path : String) : IO (Option String) := do
  try
    return some (← IO.FS.readFile path)
  catch _ =>
    return none

/-- The texts of the files that can be read. -/
def readTexts (paths : List String) : IO (List (String × String)) := do
  let mut texts := []
  for path in paths do
    if let some text ← readText? path then
      texts := (path, text) :: texts
  return texts

/-- Why a file could not be written. The numbers tell apart errors that have one form. -/
def writeFault : IO.Error → PathFault
  | .permissionDenied .. => .denied
  | .inappropriateType _ 20 _ => .notDirectory
  | .inappropriateType .. => .isDirectory
  | .invalidArgument _ 36 _ => .nameTooLong
  | .invalidArgument _ 40 _ => .tooManyLinks
  | _ => .notFound

/-- Prints a failure and ends with its exit code. -/
def fail (failure : Failure) : IO UInt32 := do
  IO.eprintln failure.message
  return 1

/-- Prints or writes what a command has made. -/
def emit (product : Product) : IO UInt32 := do
  match product.target with
  | none =>
    IO.print product.text
    return 0
  | some path =>
    try
      IO.FS.writeFile path product.text
      return 0
    catch e =>
      fail (.write (writeFault e))

/-- Runs a list of arguments on the files of the system. -/
def execute (args : List String) : IO UInt32 := do
  match Invocation.parse args with
  | .error .badUsage =>
    IO.eprint usageText
    return 2
  | .error .help =>
    IO.print usageText
    return 0
  | .error .version =>
    IO.print versionText
    return 0
  | .ok invocation =>
    let texts ← readTexts invocation.paths
    match invocation.produce (fun path => texts.lookup path) with
    | .ok product => emit product
    | .error failure => fail failure

end Dashboard.CommandLine

/-- Runs the program. -/
def main (args : List String) : IO UInt32 :=
  Dashboard.CommandLine.execute args
