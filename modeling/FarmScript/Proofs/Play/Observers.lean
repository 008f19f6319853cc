import FarmScript.Proofs.Play.Trace

/-! # Observers do not interfere

What is noted down about a game, who listens to it, how long its log is and how long the pauses are
has no part in the game. Two sessions that differ in nothing else (`Session.SameGame`) hand back the
same answers and stay at the same place, whatever is done with both.

And what is noted down is right (`Session.NotesTicks`): the trace has one step for each tick since
the last reset, taken from the session as it was before that tick, whatever script was loaded then.
-/

namespace FarmScript
set_option autoImplicit false

/-! ## Rules that differ for observers only -/

/-- The rules with another length of the log and another pause between ticks. -/
def Rules.observedBy (rules : Rules) (maxLogs tickIntervalMs : UInt64) : Rules :=
  { rules with maxLogs := maxLogs, tickIntervalMs := tickIntervalMs }

section Observed
variable (rules : Rules) (maxLogs tickIntervalMs : UInt64)

theorem execute_observedBy (world : World) (command : Command) :
    command.execute (rules.observedBy maxLogs tickIntervalMs) world =
      command.execute rules world := by
  cases command <;> rfl

theorem dispatch_observedBy (script : Script) (indent : Nat) (world : World) (program : Program)
    (statement : Statement) :
    Tick.dispatch (rules.observedBy maxLogs tickIntervalMs) script indent world program statement =
      Tick.dispatch rules script indent world program statement := by
  cases statement with
  | call word => simp only [Tick.dispatch, execute_observedBy]
  | _ => rfl

theorem tick_observedBy (script : Script) (world : World) (program : Program) :
    tick (rules.observedBy maxLogs tickIntervalMs) script world program =
      tick rules script world program := by
  have hgrown : (rules.observedBy maxLogs tickIntervalMs).growthStep = rules.growthStep := rfl
  simp only [tick, Tick.atLine, hgrown, dispatch_observedBy]

theorem isReached_observedBy (world : World) (goal : Goal) :
    goal.isReached (rules.observedBy maxLogs tickIntervalMs) world =
      goal.isReached rules world := by
  cases goal <;> rfl

end Observed

namespace Session

/-! ## One game -/

/-- Whether two sessions play one game and are at the same place of it. They may differ in what is
noted down and who listens. -/
def SameGame (session session' : Session) : Prop :=
  ∃ maxLogs tickIntervalMs logs trace recordTrace listening outbox, session' = { session with
    rules := session.rules.observedBy maxLogs tickIntervalMs
    logs := logs
    trace := trace
    recordTrace := recordTrace
    listening := listening
    outbox := outbox }

namespace SameGame
variable {session session' : Session}

theorem ends_eq (h : session.SameGame session') :
    session'.finished = session.finished ∧ session'.ticks = session.ticks := by
  obtain ⟨maxLogs, tickIntervalMs, logs, trace, recordTrace, listening, outbox, rfl⟩ := h
  exact ⟨rfl, rfl⟩

theorem place_eq (h : session.SameGame session') :
    session'.world = session.world ∧ session'.program = session.program := by
  obtain ⟨maxLogs, tickIntervalMs, logs, trace, recordTrace, listening, outbox, rfl⟩ := h
  exact ⟨rfl, rfl⟩

theorem nextTick_eq (h : session.SameGame session') : session'.nextTick = session.nextTick := by
  obtain ⟨maxLogs, tickIntervalMs, logs, trace, recordTrace, listening, outbox, rfl⟩ := h
  exact tick_observedBy session.rules maxLogs tickIntervalMs _ _ _

theorem ending?_eq (h : session.SameGame session') : session'.ending? = session.ending? := by
  have htick := h.nextTick_eq
  obtain ⟨maxLogs, tickIntervalMs, logs, trace, recordTrace, listening, outbox, rfl⟩ := h
  have hgoal := isReached_observedBy session.rules maxLogs tickIntervalMs session.nextTick.world
    session.level.goal
  unfold ending? outcomeAfter
  rw [htick]
  exact congrArg (fun reached : Bool => if reached = true then _ else _) hgoal

theorem step (h : session.SameGame session') :
    session'.step.1 = session.step.1 ∧ session.step.2.SameGame session'.step.2 := by
  cases hfinished : session.finished with
  | some outcome =>
    have hfinished' : session'.finished = some outcome := h.ends_eq.1.trans hfinished
    rw [step_of_finished hfinished, step_of_finished hfinished']
    refine ⟨?_, h⟩
    obtain ⟨maxLogs, tickIntervalMs, logs, trace, recordTrace, listening, outbox, rfl⟩ := h
    rfl
  | none =>
    have hfinished' : session'.finished = none := h.ends_eq.1.trans hfinished
    obtain ⟨hreport, hnext⟩ := step_of_open hfinished
    obtain ⟨hreport', hnext'⟩ := step_of_open hfinished'
    rw [hreport, hreport', hnext, hnext', h.nextTick_eq, h.ending?_eq]
    obtain ⟨maxLogs, tickIntervalMs, logs, trace, recordTrace, listening, outbox, rfl⟩ := h
    exact ⟨rfl, maxLogs, tickIntervalMs, _, _, recordTrace, listening, _, rfl⟩

theorem edit (h : session.SameGame session') (script : Script) :
    (session.edit script).SameGame (session'.edit script) := by
  obtain ⟨maxLogs, tickIntervalMs, logs, trace, recordTrace, listening, outbox, rfl⟩ := h
  exact ⟨maxLogs, tickIntervalMs, logs, trace, recordTrace, listening, outbox, rfl⟩

theorem reset (h : session.SameGame session') : session.reset.SameGame session'.reset := by
  obtain ⟨maxLogs, tickIntervalMs, logs, trace, recordTrace, listening, outbox, rfl⟩ := h
  exact ⟨maxLogs, tickIntervalMs, _, #[], recordTrace, listening, _, rfl⟩

theorem after (h : session.SameGame session') (operations : List Operation) :
    session'.answers operations = session.answers operations ∧
      session'.reports operations = session.reports operations ∧
      (session.after operations).SameGame (session'.after operations) :=
  after_bisimulation (fun _ _ => ends_eq) (fun _ _ => step) (fun _ _ script h => h.edit script)
    (fun _ _ => reset) operations h

end SameGame

/-! ## The trace -/

/-- The sessions before each tick since the last reset, or since the beginning if there is none. -/
def tickedSinceReset (session : Session) (operations : List Operation) : List Session :=
  gatherSince ticking [] [] session operations

/-- The step of a trace for the tick that follows a session, after `i` ticks before. -/
def noteOf (i : Nat) (session : Session) : TraceStep where
  tick := i + 1
  line := session.program.cursor
  source := match session.script.line? session.program.cursor with
    | some text => String.ofList (Text.trim text.toList)
    | none => ""
  log := session.nextTick.log
  error := session.nextTick.error

/-- Whether the trace of a session is that of the ticks which followed `ticked`. -/
structure NotesTicks (ticked : List Session) (session : Session) : Prop where
  ticks_eq : session.ticks = ticked.length
  trace_eq : session.recordTrace = true → session.trace.toList = ticked.mapIdx noteOf

theorem NotesTicks.step {ticked : List Session} {session : Session}
    (h : session.NotesTicks ticked) :
    session.step.2.NotesTicks (ticked ++ session.ticking) := by
  cases hopen : session.finished with
  | some outcome =>
    rw [step_of_finished hopen, ticking, hopen, List.append_nil]
    exact h
  | none =>
    have hticks : session.step.2.ticks = session.ticks + 1 := by rw [(step_of_open hopen).2]
    rw [ticking, hopen]
    refine ⟨by rw [hticks, h.ticks_eq, List.length_append, List.length_singleton], ?_⟩
    rw [session.sameSettings_step.recordTrace_eq]
    intro hrecord
    have hnote : (session.adopt session.nextTick).traceStep session.program.cursor
        session.nextTick = noteOf ticked.length session := by
      rw [← h.ticks_eq]
      unfold traceStep noteOf
      cases hline : session.script.line? session.program.cursor <;> simp [adopt, hline]
    rw [trace_step hopen, if_pos hrecord, Array.toList_push, h.trace_eq hrecord, hnote,
      List.mapIdx_append]
    simp

theorem notesTicks_after (session : Session) (operations : List Operation)
    (h : session.NotesTicks []) :
    (session.after operations).NotesTicks (session.tickedSinceReset operations) := by
  refine gatherSince_induction (R := fun ticked s => s.NotesTicks ticked) ?_ ?_ ?_ h
  · intro ticked s hs
    exact hs.step
  · intro ticked s script hs
    exact ⟨hs.ticks_eq, hs.trace_eq⟩
  · intro _ ticked s hs
    exact ⟨rfl, fun _ => rfl⟩

end Session

/-- Two sessions of one level and one script, by playable rules that differ in the length of the log
and in the pauses at most, with their switches for a trace and for a listener set in any way:
whatever is done with both, they hand back the same answers, the steps inside runs report the same,
and they are on the same farm at the same place of the program, with the same count of ticks and the
same outcome. If a trace is recorded, it has one step for each tick since the last reset: its
number, the line the tick started at, the trimmed text of that line in the script of that time, and
what the tick said. -/
theorem observers_do_not_interfere {rules rules' : Rules} (hrules : rules.validate = .ok rules)
    (hrules' : rules'.validate = .ok rules')
    (hplay : rules' =
      { rules with maxLogs := rules'.maxLogs, tickIntervalMs := rules'.tickIntervalMs })
    (level : Level) (script : Script)
    (haltOnError recordTrace recordTrace' listening listening' : Bool) :
    ∃ session session', Session.start rules level script = .ok session ∧
      Session.start rules' level script = .ok session' ∧
      ∀ operations : List Operation,
        let begun := session.configure haltOnError recordTrace listening
        let begun' := session'.configure haltOnError recordTrace' listening'
        let played := begun.after operations
        let played' := begun'.after operations
        begun'.answers operations = begun.answers operations ∧
          begun'.reports operations = begun.reports operations ∧
          played'.world = played.world ∧ played'.program = played.program ∧
          played'.ticks = played.ticks ∧ played'.finished = played.finished ∧
          (recordTrace = true →
            played.trace.size = played.ticks ∧
              played.trace.toList = (begun.tickedSinceReset operations).mapIdx Session.noteOf) := by
  obtain ⟨maxLogs, tickIntervalMs, rfl⟩ :
      ∃ maxLogs tickIntervalMs, rules' = rules.observedBy maxLogs tickIntervalMs := ⟨_, _, hplay⟩
  refine ⟨_, _, Session.start_of_validate hrules level script,
    Session.start_of_validate hrules' level script, ?_⟩
  intro operations begun begun' played played'
  have hbegun : begun.SameGame begun' :=
    ⟨maxLogs, tickIntervalMs, [], #[], recordTrace', listening', #[], rfl⟩
  obtain ⟨hanswers, hreports, hplayed⟩ := hbegun.after operations
  have hnotes : played.NotesTicks (begun.tickedSinceReset operations) :=
    begun.notesTicks_after operations ⟨rfl, fun _ => rfl⟩
  have hrecord : played.recordTrace = recordTrace :=
    (begun.sameSettings_after operations).recordTrace_eq
  obtain ⟨hworld, hprogram⟩ := hplayed.place_eq
  obtain ⟨hfinished, hticks⟩ := hplayed.ends_eq
  refine ⟨hanswers, hreports, hworld, hprogram, hticks, hfinished, fun hon => ?_⟩
  have htrace := hnotes.trace_eq (hrecord.trans hon)
  refine ⟨?_, htrace⟩
  rw [← Array.length_toList, htrace, List.length_mapIdx, hnotes.ticks_eq]

/-- With a short log, long pauses, a trace and a listener, or with none of these: a walk into the
wall, a reset, a step, and another script that goes to its end. The trace has the three ticks since
the reset, two of them at lines of the second script. -/
theorem observers_do_not_interfere_edited :
    let rules : Rules := { Rules.default with maxLogs := 1, tickIntervalMs := 5000 }
    let script : Script := ⟨#["left()", "forward()"]⟩
    let operations : List Operation := [.run 9, .reset, .step, .edit ⟨#["  plant()"]⟩, .run 9]
    rules.validate = .ok rules ∧ Rules.default.validate = .ok Rules.default ∧
      ∃ session session', Session.start rules Level.firstSteps script = .ok session ∧
        Session.start Rules.default Level.firstSteps script = .ok session' ∧
        let begun := session.configure true true true
        let begun' := session'.configure true false false
        begun'.answers operations = begun.answers operations ∧
          (begun'.after operations).world = (begun.after operations).world ∧
          (begun.after operations).trace.toList.map (fun step => (step.tick, step.line, step.source))
            = [(1, 0, "left()"), (2, 0, "plant()"), (3, 1, "")] := by
  intro rules script operations
  have hrules : rules.validate = .ok rules := rfl
  have hdefault : Rules.default.validate = .ok Rules.default := rfl
  obtain ⟨session, session', hstart, hstart', hall⟩ := observers_do_not_interfere hrules hdefault
    rfl Level.firstSteps script true true false true false
  obtain ⟨hanswers, -, hworld, -, -, -, htrace⟩ := hall operations
  refine ⟨hrules, hdefault, session, session', hstart, hstart', hanswers, hworld, ?_⟩
  obtain rfl := Session.eq_fresh_of_start hrules hstart
  rw [(htrace rfl).2]
  decide +kernel

end FarmScript
