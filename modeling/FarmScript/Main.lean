import FarmScript.Console.Program

/-! # The program

Reads the files that the arguments name, runs the console program and writes what it says. There
is no network here, so a question to the tutor is never answered.
-/

namespace FarmScript.Console
set_option autoImplicit false

/-- The files that an order reads. -/
def Order.paths : Order → List String
  | .run order => order.script :: order.rules.toList
  | .levels | .level _ | .vocabulary _ | .ask _ _ _ | .version => []

/-- What lies under a path. -/
def readEntry (path : String) : IO (Option File.Entry) := do
  try
    return some (.bytes (← IO.FS.readBinFile path))
  catch
    | .noFileOrDirectory .. => return none
    | .permissionDenied .. => return some (.blocked .forbidden)
    | .inappropriateType .. => return some (.blocked .directory)
    | failure => return some (.blocked ⟨.other, toString failure⟩)

/-- Runs the program on the files and variables of the system. -/
def start (args : List String) : IO UInt32 := do
  let paths := ((parseArguments? args).map (·.order.paths)).getD []
  let entries ← paths.filterMapM fun path => do
    return (← readEntry path).map (path, ·)
  let transcript := program args {
    files := entries
    apiKey := ← IO.getEnv "CODEFARM_API_KEY"
    baseUrl := ← IO.getEnv "CODEFARM_BASE_URL"
    model := ← IO.getEnv "CODEFARM_MODEL"
    server := fun _ => none }
  IO.print transcript.output
  IO.eprint transcript.errors
  return transcript.exitCode.toUInt32

end FarmScript.Console

/-- Runs the program with the arguments of the command line. -/
def main (args : List String) : IO UInt32 := FarmScript.Console.start args
