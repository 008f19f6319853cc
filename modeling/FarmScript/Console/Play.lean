import FarmScript.Console.Arguments
import FarmScript.Console.Picture
import FarmScript.Farm.RulesFile
import FarmScript.Language.ScriptFile
import FarmScript.Play.Format
import FarmScript.Play.Session

/-! # Running a script on the console

`Console.drive` steps a session until it ends or its ticks are used up, and writes what happens:
the messages of each step and, if wanted, a picture after it. `Console.play` puts the rest around
it: what is loaded before, and what is written at the end.
-/

namespace FarmScript.Console
set_option autoImplicit false

/-- The line of a message. -/
def messageLine (message : Message) : String :=
  match message.level with
  | .info => "  " ++ message.text ++ "\n"
  | .error => "  ✗ " ++ message.text ++ "\n"

/-- What a step leaves to be written: the waiting messages and, if wanted, a picture. The session
is the one after the step. -/
def stepText (pictures : Bool) (session : Session) : String :=
  String.join (session.drain.1.map messageLine)
    ++ if pictures then session.world.picture ++ "\n" else ""

/-- Steps a session until it ends or has come to `maxTicks`. Gives the end, the session then, and
`written` with all that was written on the way. -/
def drive (maxTicks : Nat) (pictures : Bool) (session : Session) (written : String) :
    Outcome × Session × String :=
  if session.ticks < maxTicks then
    match hstep : session.step with
    | (report, next) =>
      let written := written ++ stepText pictures next
      match hopen : report.outcome with
      | some outcome => (outcome, next.drain.2, written)
      | none =>
        have : next.ticks = session.ticks + 1 := Session.ticks_of_step hstep hopen
        drive maxTicks pictures next.drain.2 written
  else (.tickLimit session.ticks, session, written)
termination_by maxTicks - session.ticks
decreasing_by
  change maxTicks - next.ticks < maxTicks - session.ticks
  omega

/-- The last line about a run on a level. -/
def outcomeText (level : UInt32) : Outcome → String
  | .goalReached ticks =>
    "✓ Level complete in " ++ Text.numeral ticks ++ " ticks\n"
      ++ match Level.next? level with
        | none => ""
        | some next =>
          "  Next: codefarm level " ++ Text.numeral next.id.toNat ++ " (" ++ next.title ++ ")\n"
  | .exhausted ticks =>
    "Script finished after " ++ Text.numeral ticks ++ " ticks, goal not reached\n"
  | .halted line message =>
    "✗ Error [Line " ++ Text.numeral line ++ "]: " ++ message ++ "\n"
  | .tickLimit ticks => "Stopped after " ++ Text.numeral ticks ++ " ticks\n"

/-- The rules that an order asks for. -/
def orderRules (order : RunOrder) (read : String → Except File.Failure String) :
    Except Fault Rules := do
  let rules ← match order.rules with
    | none => .ok Rules.default
    | some path => Rules.load path (read path)
  return match order.intervalMs with
    | none => rules
    | some interval => { rules with tickIntervalMs := interval }

/-- The session that an order asks for. The rules are loaded first, then the level is looked up,
then the script is loaded. -/
def orderSession (order : RunOrder) (quiet : Bool)
    (read : String → Except File.Failure String) : Except Fault Session := do
  let rules ← orderRules order read
  let level ← Level.find order.level
  let script ← Script.load order.script (read order.script)
  let session ← Session.start rules level script
  return session.configure (!order.keepGoing) order.trace (!quiet)

/-- The trace of a session, a line of JSON for each step. -/
def traceText (session : Session) : String :=
  String.join (session.trace.toList.map fun step => step.toJson.write ++ "\n")

/-- Runs a script as ordered: how the run ended and what is written. -/
def play (order : RunOrder) (quiet : Bool) (read : String → Except File.Failure String) :
    Except Fault (Outcome × String) := do
  let session ← orderSession order quiet read
  let title := if quiet then ""
    else session.level.title ++ "\nGoal: " ++ session.level.goalText ++ "\n\n"
  let (outcome, session, written) :=
    drive order.maxTicks (order.render && !quiet) session title
  return (outcome,
    written
      ++ (if quiet || order.render then "" else "\n" ++ session.world.picture ++ "\n")
      ++ (if order.trace then traceText session else "")
      ++ outcomeText order.level outcome)

end FarmScript.Console
