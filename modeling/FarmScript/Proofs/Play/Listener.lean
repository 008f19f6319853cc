import FarmScript.Proofs.Play.Messages

/-! # What the log keeps and what the listener hears

The events of a session are its ticks and its resets (`Session.events`), and `Event.messages` says
what is said at each of them. The listener hears the messages of all events in their order
(`outbox_emitAll`), and the log is the latest part of those since the last reset. A step of a
session that has ended is no event, so it says nothing.
-/

namespace FarmScript
set_option autoImplicit false

/-- A tick that started at a line, with the outcome that it gave the run, or a reset. -/
inductive Event where
  | tick (line : Nat) (t : Tick) (outcome : Option Outcome)
  | reset
deriving DecidableEq

namespace Event

/-- What is said at an event: the log of the tick, then its error with the line counted from 1,
then how it ended the run. -/
def messages : Event → List Message
  | tick line t outcome =>
    (t.log.map fun text => (⟨.info, text⟩ : Message)).toList
      ++ (t.error.map fun text =>
        (⟨.error, "Error [Line " ++ Text.numeral (line + 1) ++ "]: " ++ text⟩ : Message)).toList
      ++ match outcome with
        | some (.goalReached _) => [⟨.info, "Level complete!"⟩]
        | some (.exhausted _) => [⟨.info, "Script finished"⟩]
        | some (.halted _ _) | some (.tickLimit _) | none => []
  | reset => [⟨.info, "Level reset"⟩]

/-- The events from the last reset on, or all of them if there is none. -/
def sinceReset : List Event → List Event
  | [] => []
  | event :: events => if .reset ∈ events then sinceReset events else event :: events

theorem sinceReset_append_tick (events : List Event) (line : Nat) (t : Tick)
    (outcome : Option Outcome) :
    sinceReset (events ++ [.tick line t outcome]) =
      sinceReset events ++ [.tick line t outcome] := by
  induction events with
  | nil => simp [sinceReset]
  | cons event events ih =>
    by_cases h : Event.reset ∈ events
    · simp [sinceReset, h, ih]
    · simp [sinceReset, h]

theorem sinceReset_append_reset (events : List Event) :
    sinceReset (events ++ [.reset]) = [.reset] := by
  induction events with
  | nil => simp [sinceReset]
  | cons event events ih => simp [sinceReset, ih]

end Event

namespace Session

/-- The event that the next step is, if the run is still open. -/
def stepEvents (session : Session) : List Event :=
  match session.finished with
  | none => [.tick session.program.cursor session.nextTick session.step.2.finished]
  | some _ => []

def eventsOf (session : Session) : Operation → List Event
  | .reset => [.reset]
  | operation => session.gather stepEvents operation

theorem eventsOf_of_ne {operation : Operation} (h : operation ≠ .reset) (session : Session) :
    session.eventsOf operation = session.gather stepEvents operation := by
  cases operation with
  | reset => exact absurd rfl h
  | _ => rfl

/-- The events of operations one after the other. -/
def events : Session → List Operation → List Event
  | _, [] => []
  | session, operation :: operations =>
    session.eventsOf operation ++ (session.perform operation).events operations

theorem events_eq_gatherAll (session : Session) (operations : List Operation) :
    session.events operations = gatherAll stepEvents [.reset] session operations := by
  induction operations generalizing session with
  | nil => rfl
  | cons operation operations ih =>
    by_cases hop : operation = .reset
    · subst hop
      exact congrArg ([Event.reset] ++ ·) (ih session.reset)
    · rw [events, eventsOf_of_ne hop, gatherAll_cons_of_ne hop, ih]

theorem outbox_emitAll (session : Session) (messages : List Message) :
    (session.emitAll messages).outbox.toList =
      session.outbox.toList ++ if session.listening then messages else [] := by
  induction messages generalizing session with
  | nil => simp [emitAll]
  | cons message messages ih =>
    have hrest := ih (session.emit message)
    cases hlistening : session.listening <;> simp_all [emitAll, emit]

theorem stepMessages_eq_flatMap (session : Session) :
    session.stepMessages = session.stepEvents.flatMap Event.messages := by
  unfold stepMessages stepEvents
  cases hfinished : session.finished with
  | some outcome => rfl
  | none =>
    rw [(step_of_open hfinished).2]
    simp only [nextMessages, tickMessages, List.flatMap_cons, List.flatMap_nil, List.append_nil,
      Event.messages]
    cases session.ending? with
    | none => rfl
    | some outcome => cases outcome <;> rfl

theorem outbox_step (session : Session) :
    session.step.2.outbox.toList =
      session.outbox.toList ++
        if session.listening then session.stepEvents.flatMap Event.messages else [] := by
  rw [← stepMessages_eq_flatMap, stepMessages]
  cases hfinished : session.finished with
  | some outcome => simp [step_of_finished hfinished]
  | none =>
    rw [step_eq_of_open hfinished]
    exact outbox_emitAll (session.adopt session.nextTick) session.nextMessages

/-- Whether the log and the outbox of a session are what its events have left there. -/
structure Records (max : UInt64) (listening : Bool) (events : List Event) (session : Session) :
    Prop where
  keepsLog : session.KeepsLog max [] ((Event.sinceReset events).flatMap Event.messages)
  listening_eq : session.listening = listening
  outbox_eq : session.outbox.toList = if listening then events.flatMap Event.messages else []

namespace Records
variable {max : UInt64} {listening : Bool} {events : List Event} {session : Session}

theorem step (h : session.Records max listening events) :
    session.step.2.Records max listening (events ++ session.stepEvents) where
  keepsLog := by
    have hstep := h.keepsLog.step
    rw [stepMessages_eq_flatMap, ← List.flatMap_append] at hstep
    have hsince : Event.sinceReset (events ++ session.stepEvents) =
        Event.sinceReset events ++ session.stepEvents := by
      unfold stepEvents
      cases session.finished with
      | none => exact Event.sinceReset_append_tick events _ _ _
      | some outcome => simp
    rw [hsince]
    exact hstep
  listening_eq := session.sameSettings_step.listening_eq.trans h.listening_eq
  outbox_eq := by
    rw [outbox_step, h.outbox_eq, h.listening_eq]
    cases listening <;> simp

theorem reset (h : session.Records max listening events) :
    session.reset.Records max listening (events ++ [.reset]) where
  keepsLog := by
    obtain ⟨hmax, -⟩ := h.keepsLog
    rw [Event.sinceReset_append_reset]
    exact ⟨hmax, by rw [← hmax]; rfl⟩
  listening_eq := h.listening_eq
  outbox_eq := by
    have hemit := outbox_emitAll { session with
      world := session.level.world session.rules, program := Program.start, ticks := 0, logs := []
      trace := #[], finished := none } [⟨.info, "Level reset"⟩]
    have hreset : session.reset.outbox.toList = session.outbox.toList ++
        if session.listening then Event.messages .reset else [] := hemit
    rw [hreset, h.outbox_eq, h.listening_eq]
    cases listening <;> simp

end Records

theorem records_fresh (rules : Rules) (level : Level) (script : Script)
    (haltOnError recordTrace listening : Bool) :
    ((fresh rules level script).configure haltOnError recordTrace listening).Records rules.maxLogs
      listening [] where
  keepsLog := ⟨rfl, by simp [newestFirst, Event.sinceReset, configure, fresh]⟩
  listening_eq := rfl
  outbox_eq := by cases listening <;> rfl

theorem records_after {max : UInt64} {listening : Bool} {session : Session}
    (h : session.Records max listening []) (operations : List Operation) :
    (session.after operations).Records max listening (session.events operations) := by
  rw [events_eq_gatherAll]
  refine gatherAll_induction (R := fun events s => s.Records max listening events)
    ?_ ?_ ?_ h
  · intro events s hs
    exact hs.step
  · intro script _ events s hs
    exact ⟨hs.keepsLog, hs.listening_eq, hs.outbox_eq⟩
  · intro events s hs
    exact hs.reset

end Session

/-- By playable rules, whatever is done with a session: its log is the messages of its events since
the last reset, the newest first, cut to the length that the rules allow; and a listener has heard
the messages of all its events once each, in their order. -/
theorem log_and_listener_agree {rules : Rules} (hrules : rules.validate = .ok rules) (level : Level)
    (script : Script) (haltOnError recordTrace listening : Bool) (operations : List Operation) :
    ∃ session, Session.start rules level script = .ok session ∧
      let begun := session.configure haltOnError recordTrace listening
      let played := begun.after operations
      let events := begun.events operations
      played.logs =
          (Session.newestFirst ((Event.sinceReset events).flatMap Event.messages)).take
            rules.maxLogs.toNat ∧
        played.outbox.toList = if listening then events.flatMap Event.messages else [] := by
  refine ⟨_, Session.start_of_validate hrules level script, ?_⟩
  intro begun played events
  have hbegun : begun.Records rules.maxLogs listening [] :=
    Session.records_fresh rules level script haltOnError recordTrace listening
  obtain ⟨⟨-, hlogs⟩, -, houtbox⟩ := Session.records_after hbegun operations
  rw [List.append_nil] at hlogs
  exact ⟨hlogs, houtbox⟩

/-- With a log of two lines: a walk into the wall, steps that say nothing any more, a reset, and
another script that goes to its end. -/
theorem log_and_listener_agree_two_lines :
    let rules : Rules := { Rules.default with maxLogs := 2 }
    let operations : List Operation :=
      [.run 5, .step, .reset, .edit ⟨#["right()"]⟩, .run 3, .step]
    rules.validate = .ok rules ∧
      ∃ session, Session.start rules Level.firstSteps ⟨#["left()", "forward()"]⟩ = .ok session ∧
        let played := (session.configure true false true).after operations
        played.logs = ["Script finished", "right(): turned right"] ∧
          played.outbox.toList = [⟨.info, "left(): turned left"⟩,
            ⟨.error, "Error [Line 2]: Hit the wall! (Out of bounds)"⟩, ⟨.info, "Level reset"⟩,
            ⟨.info, "right(): turned right"⟩, ⟨.info, "Script finished"⟩] := by
  intro rules operations
  have hrules : rules.validate = .ok rules := rfl
  obtain ⟨session, hstart, hlogs, houtbox⟩ := log_and_listener_agree hrules Level.firstSteps
    ⟨#["left()", "forward()"]⟩ true false true operations
  refine ⟨hrules, session, hstart, ?_⟩
  obtain rfl := Session.eq_fresh_of_start hrules hstart
  intro played
  rw [hlogs, houtbox]
  exact ⟨by decide +kernel, by decide +kernel⟩

end FarmScript
