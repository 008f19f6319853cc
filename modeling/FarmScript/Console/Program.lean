import FarmScript.Console.Play
import FarmScript.Language.Vocabulary
import FarmScript.Tutor.Answer
import FarmScript.Tutor.Exchange
import FarmScript.Tutor.Lesson

/-! # The console program

What the program writes, and leaves behind, for a command line: a function of the arguments and of
the `Surroundings` in which it runs.
-/

namespace FarmScript.Console
set_option autoImplicit false

/-- What the program finds around it. -/
structure Surroundings where
  files : File.Shelf
  /-- The variables that describe the tutor's endpoint. -/
  apiKey : Option String
  baseUrl : Option String
  model : Option String
  /-- How a posted request is answered, before the transport hands the answer over. -/
  server : Tutor.HttpRequest → Option Tutor.HttpResponse

/-- What the program leaves behind. -/
structure Transcript where
  exitCode : UInt8
  output : String
  errors : String
  /-- The requests that were posted. -/
  sent : List Tutor.HttpRequest
  files : File.Shelf

namespace Transcript

/-- A transcript of a program that has done nothing yet. -/
def empty (files : File.Shelf) : Transcript where
  exitCode := 0
  output := ""
  errors := ""
  sent := []
  files := files

/-- The transcript with more output. -/
def write (transcript : Transcript) (text : String) : Transcript :=
  { transcript with output := transcript.output ++ text }

/-- The transcript of a program that ends with a fault. -/
def fail (transcript : Transcript) (fault : Fault) : Transcript :=
  { transcript with
    exitCode := 1
    errors := transcript.errors ++ "Error: " ++ fault.summary ++ "\n" }

end Transcript

/-! ## Texts -/

/-- The list of levels. -/
def levelsText : String :=
  "Levels:\n" ++ String.join (Level.all.map fun level =>
    "  " ++ Text.numeral level.id.toNat ++ ". " ++ level.title ++ "\n     " ++ level.goalText ++ "\n")

/-- A level with its starter code. -/
def levelText (level : Level) : String :=
  level.title ++ "\n\n" ++ level.description ++ "\n\nGoal: " ++ level.goalText
    ++ "\nCommands: " ++ String.intercalate ", " level.commands
    ++ "\n\n--- starter code ---\n" ++ level.starterCode

/-- The vocabulary, as JSON or as a text. -/
def vocabularyText (json : Bool) : String :=
  if json then Vocabulary.json.write ++ "\n" else Vocabulary.reference Rules.default

/-- The version of the program. -/
def versionText : String := "codefarm 0.1.0\n"

/-! ## Orders -/

/-- Runs a script. A refused command that ends the run shows in the exit code. -/
def doRun (order : RunOrder) (quiet : Bool) (around : Surroundings) : Transcript :=
  let transcript := Transcript.empty around.files
  match play order quiet around.files.read with
  | .error fault => transcript.fail fault
  | .ok (outcome, text) =>
    { transcript.write text with exitCode := if outcome.isHalted then 2 else 0 }

/-- Shows a level. -/
def doLevel (id : UInt32) (around : Surroundings) : Transcript :=
  let transcript := Transcript.empty around.files
  match Level.find id with
  | .error fault => transcript.fail fault
  | .ok level => transcript.write (levelText level)

/-- Writes the code of an answer to a file, if the answer has any. -/
def applyAnswer (answer path : String) (quiet : Bool) (transcript : Transcript) : Transcript :=
  if Tutor.looksLikeCode answer then
    match transcript.files.write path (Tutor.extractCode answer ++ "\n") with
    | .error failure => transcript.fail (failure.faultAt "cli::ask" path)
    | .ok files =>
      let transcript := { transcript with files := files }
      if quiet then transcript else transcript.write ("\nCode written to " ++ path ++ "\n")
  else
    { transcript with
      errors := transcript.errors ++ "\nThe answer contains no code; " ++ path
        ++ " left untouched\n" }

/-- Asks the tutor. -/
def doAsk (question : String) (level : UInt32) (apply : Option String) (quiet : Bool)
    (around : Surroundings) : Transcript :=
  let transcript := Transcript.empty around.files
  match Level.find level with
  | .error fault => transcript.fail fault
  | .ok level =>
    let endpoint := Tutor.Endpoint.ofEnvironment around.apiKey around.baseUrl around.model
    let request := Tutor.Settings.default.request Rules.default question level.context
    let transcript := { transcript with sent := (endpoint.request? request).toList }
    let transcript := if quiet then transcript else transcript.write "Asking the tutor...\n\n"
    let server posted := (around.server posted).map Tutor.HttpResponse.delivered
    match Tutor.explain (endpoint.complete server) .default .default question level.context with
    | .error fault => transcript.fail fault
    | .ok answer =>
      let transcript := transcript.write (answer ++ "\n")
      match apply with
      | none => transcript
      | some path => applyAnswer answer path quiet transcript

/-- Carries out an order. -/
def carryOut (invocation : Invocation) (around : Surroundings) : Transcript :=
  let transcript := Transcript.empty around.files
  match invocation.order with
  | .run order => doRun order invocation.quiet around
  | .levels => transcript.write levelsText
  | .level id => doLevel id around
  | .vocabulary json => transcript.write (vocabularyText json)
  | .ask question level apply => doAsk question level apply invocation.quiet around
  | .version => transcript.write versionText

/-- The program: a command line that is refused ends with the exit code 2 and no output. -/
def program (args : List String) (around : Surroundings) : Transcript :=
  match parseArguments? args with
  | none =>
    { Transcript.empty around.files with exitCode := 2, errors := "error: unusable arguments\n" }
  | some invocation => carryOut invocation around

end FarmScript.Console
