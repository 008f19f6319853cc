import FarmScript.Machine.Tick
import FarmScript.Play.Level

/-! # Sessions

A `Session` plays one level with one script. `Session.step` runs a tick, reports it, and notes how
the run ended if the tick ended it; `Session.run` steps until the run ends or a number of ticks is
used up. Once a run has ended further steps change nothing, until the session is reset or the
script is edited.

Every message of a session goes into its log, newest first and no longer than the rules say. When
somebody listens, it also waits in the outbox until `Session.drain` hands it over.
-/

namespace FarmScript
set_option autoImplicit false

/-- The weight of a message. -/
inductive LogLevel where
  | info
  | error
deriving DecidableEq

/-- A line for the player. -/
structure Message where
  level : LogLevel
  text : String
deriving DecidableEq

/-- How a run ended. -/
inductive Outcome where
  | goalReached (ticks : Nat)
  | exhausted (ticks : Nat)
  /-- A command was refused in a line, counted from 1. -/
  | halted (line : Nat) (message : String)
  | tickLimit (ticks : Nat)
deriving DecidableEq

/-- Whether a run was ended by a refused command. -/
def Outcome.isHalted : Outcome → Bool
  | halted _ _ => true
  | _ => false

/-- What one tick did, for a trace. -/
structure TraceStep where
  tick : Nat
  /-- The line the tick started at, counted from 0. -/
  line : Nat
  /-- The trimmed text of that line; empty past the end. -/
  source : String
  log : Option String
  error : Option String
deriving DecidableEq

/-- The answer to a step. -/
structure StepReport where
  tick : Nat
  line : Nat
  log : Option String
  error : Option String
  outcome : Option Outcome
deriving DecidableEq

/-- A level being played. -/
structure Session where
  rules : Rules
  level : Level
  script : Script
  world : World
  program : Program
  ticks : Nat
  /-- The latest messages, newest first. -/
  logs : List String
  trace : Array TraceStep
  recordTrace : Bool
  haltOnError : Bool
  /-- How the run ended, once it has. -/
  finished : Option Outcome
  listening : Bool
  /-- The messages that a listener has not been given yet, oldest first. -/
  outbox : Array Message
deriving DecidableEq

namespace Session

/-- A new session, if the rules are playable. Memory for the log and for the farm is taken for
granted, however large the rules make them. -/
def start (rules : Rules) (level : Level) (script : Script) : Except Fault Session := do
  let rules ← rules.validate
  return {
    rules := rules
    level := level
    script := script
    world := level.world rules
    program := Program.start
    ticks := 0
    logs := []
    trace := #[]
    recordTrace := false
    haltOnError := true
    finished := none
    listening := false
    outbox := #[] }

/-- The session with its three switches set. -/
def configure (session : Session) (haltOnError recordTrace listening : Bool) : Session :=
  { session with haltOnError := haltOnError, recordTrace := recordTrace, listening := listening }

/-! ## Messages -/

/-- Puts a message into the log, and into the outbox if somebody listens. -/
def emit (session : Session) (message : Message) : Session :=
  { session with
    logs := (message.text :: session.logs).take session.rules.maxLogs.toNat
    outbox := if session.listening then session.outbox.push message else session.outbox }

/-- Puts messages into the log in their order. -/
def emitAll (session : Session) (messages : List Message) : Session := messages.foldl emit session

/-- The messages that wait for the listener, and the session without them. -/
def drain (session : Session) : List Message × Session :=
  (session.outbox.toList, { session with outbox := #[] })

/-- The message of an error in a line, counted from 0. -/
def errorMessage (line : Nat) (text : String) : Message where
  level := .error
  text := "Error [Line " ++ Text.numeral (line + 1) ++ "]: " ++ text

/-- What a tick that started at `line` says. -/
def tickMessages (line : Nat) (t : Tick) : List Message :=
  (t.log.map fun text => (⟨.info, text⟩ : Message)).toList
    ++ (t.error.map (errorMessage line)).toList

/-- What is said when a run ends. -/
def endMessages : Option Outcome → List Message
  | some (.goalReached _) => [⟨.info, "Level complete!"⟩]
  | some (.exhausted _) => [⟨.info, "Script finished"⟩]
  | _ => []

/-! ## Playing -/

/-- Whether the goal of the level is reached. -/
def goalReached (session : Session) : Bool :=
  session.level.goal.isReached session.rules session.world

/-- How a tick that started at `line` ends the run, if it does. The session is the one after the
tick. The goal counts before an error, and an error before the end of the script. -/
def outcomeAfter (session : Session) (line : Nat) (t : Tick) : Option Outcome :=
  if session.goalReached then some (.goalReached session.ticks)
  else match session.haltOnError, t.error with
  | true, some text => some (.halted (line + 1) text)
  | _, _ => if t.status = .exhausted then some (.exhausted session.ticks) else none

/-- The trace of a tick that started at `line`. -/
def traceStep (session : Session) (line : Nat) (t : Tick) : TraceStep where
  tick := session.ticks
  line := line
  source := ((session.script.line? line).map
    fun text => String.ofList (Text.trim text.toList)).getD ""
  log := t.log
  error := t.error

/-- The session after a tick that started at `line`, as far as the tick itself goes. -/
def adopt (session : Session) (t : Tick) : Session :=
  let line := session.program.cursor
  let session := { session with
    ticks := session.ticks + 1
    world := t.world
    program := t.program }
  { session with
    trace := if session.recordTrace then session.trace.push (session.traceStep line t)
      else session.trace }

/-- One tick, unless the run has ended. -/
def step (session : Session) : StepReport × Session :=
  match session.finished with
  | some outcome =>
    (⟨session.ticks, session.program.cursor, none, none, some outcome⟩, session)
  | none =>
    let line := session.program.cursor
    let t := tick session.rules session.script session.world session.program
    let session := session.adopt t
    let outcome := session.outcomeAfter line t
    (⟨session.ticks, line, t.log, t.error, outcome⟩,
      { session.emitAll (tickMessages line t ++ endMessages outcome) with finished := outcome })

/-- Steps until the run ends, at most a number of times. -/
def run : Nat → Session → Outcome × Session
  | 0, session => (session.finished.getD (.tickLimit session.ticks), session)
  | n + 1, session =>
    let (report, session) := session.step
    match report.outcome with
    | some outcome => (outcome, session)
    | none => run n session

/-- The level from its start, with the script as it is. -/
def reset (session : Session) : Session :=
  { session with
    world := session.level.world session.rules
    program := Program.start
    ticks := 0
    logs := []
    trace := #[]
    finished := none }.emit ⟨.info, "Level reset"⟩

/-- Another script from its first line, on the farm as it is. -/
def edit (session : Session) (script : Script) : Session :=
  { session with script := script, program := Program.start, finished := none }

/-! ## Ticks of a session -/

@[simp] theorem ticks_emitAll (messages : List Message) (session : Session) :
    (session.emitAll messages).ticks = session.ticks := by
  induction messages generalizing session with
  | nil => rfl
  | cons message rest ih => exact ih (session.emit message)

/-- A step that leaves the run open took one tick. -/
theorem ticks_of_step {session next : Session} {report : StepReport}
    (hstep : session.step = (report, next)) (hopen : report.outcome = none) :
    next.ticks = session.ticks + 1 := by
  unfold step at hstep
  split at hstep
  · obtain ⟨rfl, rfl⟩ := Prod.mk.inj hstep
    simp at hopen
  · obtain ⟨rfl, rfl⟩ := Prod.mk.inj hstep
    exact ticks_emitAll _ _

end Session

end FarmScript
