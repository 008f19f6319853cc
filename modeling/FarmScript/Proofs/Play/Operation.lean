import FarmScript.Play.Session

/-! # What is done with a session

A session is stepped, run, reset and edited in any order (`Operation`). This module says once what
a step does (`step_of_finished`, `step_of_open`) and packs the inductions over a run and over a
sequence of operations:

* `run_induction`, `after_induction`: what steps, resets and edits keep is kept throughout;
* `reports_induction`: so is what then holds of every report, those of the steps inside a run
  included;
* `gatherSince_induction`: so is what holds of the session together with all that its steps have
  yielded (deeds, messages) since the last reset, and `gatherAll_induction`: or from the beginning;
* `after_bisimulation`: two sessions that each step leaves related, with one report, are related
  throughout and hand back the same.
-/

namespace FarmScript
set_option autoImplicit false

/-- What can be done with a session. -/
inductive Operation where
  | step
  | run (max : Nat)
  | reset
  | edit (script : Script)
deriving DecidableEq

namespace Session

def perform (session : Session) : Operation → Session
  | .step => session.step.2
  | .run max => (session.run max).2
  | .reset => session.reset
  | .edit script => session.edit script

/-- The session after operations one after the other. -/
def after (session : Session) (operations : List Operation) : Session :=
  operations.foldl perform session

def runReports : Nat → Session → List StepReport
  | 0, _ => []
  | n + 1, session =>
    -- the step that ends the run is its last
    session.step.1 :: if session.step.1.outcome = none then runReports n session.step.2 else []

/-- The reports of the steps that an operation makes. -/
def reportsOf (session : Session) : Operation → List StepReport
  | .step => [session.step.1]
  | .run max => session.runReports max
  | .reset | .edit _ => []

/-- The reports of all steps that operations make one after the other. -/
def reports : Session → List Operation → List StepReport
  | _, [] => []
  | session, operation :: operations =>
    session.reportsOf operation ++ (session.perform operation).reports operations

/-- What the steps of a run yield one after the other, if `yielded` is what the next step of a
session yields. -/
def gatherRun {α : Type} (yielded : Session → List α) : Nat → Session → List α
  | 0, _ => []
  | n + 1, session =>
    yielded session ++
      if session.step.1.outcome = none then gatherRun yielded n session.step.2 else []

/-- What the steps that an operation makes yield. -/
def gather {α : Type} (yielded : Session → List α) (session : Session) : Operation → List α
  | .step => yielded session
  | .run max => session.gatherRun yielded max
  | .reset | .edit _ => []

/-- What the steps of operations yield since the last reset, after `items` from before. A reset
leaves `restart` and nothing else. -/
def gatherSince {α : Type} (yielded : Session → List α) (restart : List α) :
    List α → Session → List Operation → List α
  | items, _, [] => items
  | _, session, .reset :: operations => gatherSince yielded restart restart session.reset operations
  | items, session, operation :: operations =>
    gatherSince yielded restart (items ++ session.gather yielded operation)
      (session.perform operation) operations

/-- What the steps of operations yield from the beginning, a reset yielding `restart`. -/
def gatherAll {α : Type} (yielded : Session → List α) (restart : List α) :
    Session → List Operation → List α
  | _, [] => []
  | session, .reset :: operations => restart ++ gatherAll yielded restart session.reset operations
  | session, operation :: operations =>
    session.gather yielded operation ++
      gatherAll yielded restart (session.perform operation) operations

/-- A session whose next step is a tick yields itself, as it is before that tick. -/
def ticking (session : Session) : List Session :=
  match session.finished with
  | none => [session]
  | some _ => []

/-- What an operation hands back. -/
inductive Answer where
  | report (report : StepReport)
  | outcome (outcome : Outcome)
  | nothing
deriving DecidableEq

def answer (session : Session) : Operation → Answer
  | .step => .report session.step.1
  | .run max => .outcome (session.run max).1
  | .reset | .edit _ => .nothing

/-- What operations one after the other hand back. -/
def answers : Session → List Operation → List Answer
  | _, [] => []
  | session, operation :: operations =>
    session.answer operation :: (session.perform operation).answers operations

theorem after_singleton (session : Session) (operation : Operation) :
    session.after [operation] = session.perform operation := rfl

/-! ## A new session -/

/-- A session before its first step, with its switches as they are by default. -/
def fresh (rules : Rules) (level : Level) (script : Script) : Session where
  rules := rules
  level := level
  script := script
  world := level.world rules
  program := Program.start
  ticks := 0
  logs := []
  trace := #[]
  recordTrace := false
  haltOnError := true
  finished := none
  listening := false
  outbox := #[]

theorem start_of_validate {rules : Rules} (h : rules.validate = .ok rules) (level : Level)
    (script : Script) : start rules level script = .ok (fresh rules level script) := by
  simp only [start, h]
  rfl

theorem eq_fresh_of_start {rules : Rules} {level : Level} {script : Script} {session : Session}
    (h : rules.validate = .ok rules) (hstart : start rules level script = .ok session) :
    session = fresh rules level script := by
  rw [start_of_validate h] at hstart
  exact (Except.ok.inj hstart).symm

/-! ## One step -/

def nextTick (session : Session) : Tick :=
  tick session.rules session.script session.world session.program

/-- How the next tick ends the run, if it does. -/
def ending? (session : Session) : Option Outcome :=
  (session.adopt session.nextTick).outcomeAfter session.program.cursor session.nextTick

/-- Messages change the log and the outbox only. -/
theorem emitAll_eq (session : Session) (messages : List Message) :
    session.emitAll messages =
      { session with
        logs := (session.emitAll messages).logs
        outbox := (session.emitAll messages).outbox } := by
  induction messages generalizing session with
  | nil => rfl
  | cons message rest ih => exact ih (session.emit message)

theorem step_of_finished {session : Session} {outcome : Outcome}
    (h : session.finished = some outcome) :
    session.step = (⟨session.ticks, session.program.cursor, none, none, some outcome⟩, session) := by
  simp [step, h]

/-- What the next tick says, and with it the end of the run if the tick ends it. -/
def nextMessages (session : Session) : List Message :=
  tickMessages session.program.cursor session.nextTick ++ endMessages session.ending?

theorem step_eq_of_open {session : Session} (h : session.finished = none) :
    session.step = (⟨session.ticks + 1, session.program.cursor, session.nextTick.log,
      session.nextTick.error, session.ending?⟩,
      { (session.adopt session.nextTick).emitAll session.nextMessages with
        finished := session.ending? }) := by
  simp only [step, h]
  rfl

/-- A step of a session that is still open takes over what its next tick leaves. -/
theorem step_of_open {session : Session} (h : session.finished = none) :
    session.step.1 = ⟨session.ticks + 1, session.program.cursor, session.nextTick.log,
        session.nextTick.error, session.ending?⟩ ∧
      session.step.2 = { session with
        world := session.nextTick.world
        program := session.nextTick.program
        ticks := session.ticks + 1
        logs := session.step.2.logs
        trace := session.step.2.trace
        finished := session.ending?
        outbox := session.step.2.outbox } := by
  rw [step_eq_of_open h]
  refine ⟨rfl, ?_⟩
  rw [emitAll_eq]
  rfl

/-- A step reports the outcome that it leaves the session with. -/
theorem finished_step (session : Session) :
    session.step.2.finished = session.step.1.outcome := by
  cases hfinished : session.finished with
  | none => rw [(step_of_open hfinished).1, (step_of_open hfinished).2]
  | some outcome =>
    rw [step_of_finished hfinished]
    exact hfinished

/-! ## Inductions -/

theorem run_succ (n : Nat) (session : Session) :
    session.run (n + 1) =
      match session.step.1.outcome with
      | some outcome => (outcome, session.step.2)
      | none => session.step.2.run n := rfl

theorem run_of_finished {session : Session} {outcome : Outcome}
    (h : session.finished = some outcome) (n : Nat) : session.run n = (outcome, session) := by
  cases n with
  | zero => rw [run, h, Option.getD_some]
  | succ n => rw [run_succ, step_of_finished h]

section Induction
variable {P : Session → Prop} {session : Session}

theorem run_induction (hstep : ∀ s, P s → P s.step.2) (n : Nat) (h : P session) :
    P (session.run n).2 := by
  induction n generalizing session with
  | zero => exact h
  | succ n ih =>
    rw [run_succ]
    cases session.step.1.outcome with
    | none => exact ih (hstep session h)
    | some outcome => exact hstep session h

/-- What every step and every edit keep, and every reset if there is one, is kept throughout. -/
theorem after_induction {operations : List Operation} (hstep : ∀ s, P s → P s.step.2)
    (hedit : ∀ s script, P s → P (s.edit script))
    (hreset : .reset ∈ operations → ∀ s, P s → P s.reset) (h : P session) :
    P (session.after operations) := by
  induction operations generalizing session with
  | nil => exact h
  | cons operation operations ih =>
    have hfirst : P (session.perform operation) := by
      cases operation with
      | step => exact hstep session h
      | run max => exact run_induction hstep max h
      | reset => exact hreset List.mem_cons_self session h
      | edit script => exact hedit session script h
    exact ih (fun hmem => hreset (List.mem_cons_of_mem operation hmem)) hfirst

variable {Q : StepReport → Prop}

theorem runReports_induction (hstep : ∀ s, P s → P s.step.2) (hreport : ∀ s, P s → Q s.step.1)
    (n : Nat) (h : P session) : ∀ report ∈ session.runReports n, Q report := by
  induction n generalizing session with
  | zero => simp [runReports]
  | succ n ih =>
    intro report hmem
    rcases List.mem_cons.mp hmem with rfl | hmem
    · exact hreport session h
    · split at hmem
      · exact ih (hstep session h) report hmem
      · cases hmem

theorem reports_induction (hstep : ∀ s, P s → P s.step.2)
    (hedit : ∀ s script, P s → P (s.edit script)) (hreset : ∀ s, P s → P s.reset)
    (hreport : ∀ s, P s → Q s.step.1) (operations : List Operation) (h : P session) :
    ∀ report ∈ session.reports operations, Q report := by
  induction operations generalizing session with
  | nil => simp [reports]
  | cons operation operations ih =>
    intro report hmem
    rcases List.mem_append.mp hmem with hmem | hmem
    · cases operation with
      | step =>
        obtain rfl := List.mem_singleton.mp hmem
        exact hreport session h
      | run max => exact runReports_induction hstep hreport max h report hmem
      | reset => cases hmem
      | edit script => cases hmem
    · have hfirst : P (session.after [operation]) :=
        after_induction hstep hedit (fun _ => hreset) h
      exact ih hfirst report hmem

end Induction

section Gather
variable {α : Type} {yielded : Session → List α} {R : List α → Session → Prop} {items : List α}
  {session : Session}

theorem gatherRun_induction
    (hstep : ∀ items s, R items s → R (items ++ yielded s) s.step.2) (n : Nat)
    (h : R items session) : R (items ++ session.gatherRun yielded n) (session.run n).2 := by
  induction n generalizing items session with
  | zero =>
    rw [gatherRun, List.append_nil]
    exact h
  | succ n ih =>
    have hfirst := hstep items session h
    rw [gatherRun, run_succ]
    cases session.step.1.outcome with
    | none =>
      rw [if_pos rfl, ← List.append_assoc]
      exact ih hfirst
    | some outcome =>
      rw [if_neg (by simp), List.append_nil]
      exact hfirst

theorem gather_induction {operation : Operation}
    (hstep : ∀ items s, R items s → R (items ++ yielded s) s.step.2)
    (hedit : ∀ script, operation = .edit script → ∀ items s, R items s → R items (s.edit script))
    (hreset : operation ≠ .reset) (h : R items session) :
    R (items ++ session.gather yielded operation) (session.perform operation) := by
  cases operation with
  | step => exact hstep items session h
  | run max => exact gatherRun_induction hstep max h
  | reset => exact absurd rfl hreset
  | edit script =>
    rw [gather, List.append_nil]
    exact hedit script rfl items session h

variable {restart : List α}

theorem gatherSince_cons_of_ne {operation : Operation} (hreset : operation ≠ .reset)
    (operations : List Operation) :
    gatherSince yielded restart items session (operation :: operations) =
      gatherSince yielded restart (items ++ session.gather yielded operation)
        (session.perform operation) operations := by
  cases operation with
  | reset => exact absurd rfl hreset
  | _ => rfl

theorem gatherSince_induction {operations : List Operation}
    (hstep : ∀ items s, R items s → R (items ++ yielded s) s.step.2)
    (hedit : ∀ items s script, R items s → R items (s.edit script))
    (hreset : .reset ∈ operations → ∀ items s, R items s → R restart s.reset)
    (h : R items session) :
    R (gatherSince yielded restart items session operations) (session.after operations) := by
  induction operations generalizing items session with
  | nil => exact h
  | cons operation operations ih =>
    have hreset' := fun hmem => hreset (List.mem_cons_of_mem operation hmem)
    by_cases hfirst : operation = .reset
    · subst hfirst
      exact ih hreset' (hreset List.mem_cons_self items session h)
    · rw [gatherSince_cons_of_ne hfirst]
      have hedit' := fun script (_ : operation = .edit script) items s => hedit items s script
      exact ih hreset' (gather_induction hstep hedit' hfirst h)

theorem gatherAll_cons_of_ne {operation : Operation} (hreset : operation ≠ .reset)
    (operations : List Operation) :
    gatherAll yielded restart session (operation :: operations) =
      session.gather yielded operation ++
        gatherAll yielded restart (session.perform operation) operations := by
  cases operation with
  | reset => exact absurd rfl hreset
  | _ => rfl

theorem gatherAll_induction {operations : List Operation}
    (hstep : ∀ items s, R items s → R (items ++ yielded s) s.step.2)
    (hedit : ∀ script, .edit script ∈ operations → ∀ items s, R items s → R items (s.edit script))
    (hreset : ∀ items s, R items s → R (items ++ restart) s.reset) (h : R items session) :
    R (items ++ gatherAll yielded restart session operations) (session.after operations) := by
  induction operations generalizing items session with
  | nil =>
    rw [gatherAll, List.append_nil]
    exact h
  | cons operation operations ih =>
    have hedit' := fun script hmem => hedit script (List.mem_cons_of_mem operation hmem)
    by_cases hfirst : operation = .reset
    · subst hfirst
      rw [gatherAll, ← List.append_assoc]
      exact ih hedit' (hreset items session h)
    · rw [gatherAll_cons_of_ne hfirst, ← List.append_assoc]
      refine ih hedit' (gather_induction hstep ?_ hfirst h)
      rintro script rfl
      exact hedit script List.mem_cons_self

end Gather

section Bisimulation
variable {R : Session → Session → Prop}
  (hends : ∀ s s', R s s' → s'.finished = s.finished ∧ s'.ticks = s.ticks)
  (hstep : ∀ s s', R s s' → s'.step.1 = s.step.1 ∧ R s.step.2 s'.step.2)
include hends hstep

theorem run_bisimulation (n : Nat) {session session' : Session} (h : R session session') :
    (session'.run n).1 = (session.run n).1 ∧ session'.runReports n = session.runReports n ∧
      R (session.run n).2 (session'.run n).2 := by
  induction n generalizing session session' with
  | zero =>
    obtain ⟨hfinished, hticks⟩ := hends session session' h
    exact ⟨by rw [run, run, hfinished, hticks], rfl, h⟩
  | succ n ih =>
    obtain ⟨hreport, hnext⟩ := hstep session session' h
    obtain ⟨houtcome, hreports, hlast⟩ := ih hnext
    rw [run_succ, run_succ, runReports, runReports, hreport, hreports]
    cases session.step.1.outcome with
    | none => exact ⟨houtcome, rfl, hlast⟩
    | some outcome => exact ⟨rfl, rfl, hnext⟩

variable (hedit : ∀ s s' script, R s s' → R (s.edit script) (s'.edit script))
  (hreset : ∀ s s', R s s' → R s.reset s'.reset)
include hedit hreset

theorem perform_bisimulation (operation : Operation) {session session' : Session}
    (h : R session session') :
    session'.answer operation = session.answer operation ∧
      session'.reportsOf operation = session.reportsOf operation ∧
      R (session.perform operation) (session'.perform operation) := by
  cases operation with
  | step =>
    obtain ⟨hreport, hnext⟩ := hstep session session' h
    exact ⟨congrArg Answer.report hreport, congrArg (fun report => [report]) hreport, hnext⟩
  | run max =>
    obtain ⟨houtcome, hreports, hlast⟩ := run_bisimulation hends hstep max h
    exact ⟨congrArg Answer.outcome houtcome, hreports, hlast⟩
  | reset => exact ⟨rfl, rfl, hreset session session' h⟩
  | edit script => exact ⟨rfl, rfl, hedit session session' script h⟩

theorem after_bisimulation (operations : List Operation) {session session' : Session}
    (h : R session session') :
    session'.answers operations = session.answers operations ∧
      session'.reports operations = session.reports operations ∧
      R (session.after operations) (session'.after operations) := by
  induction operations generalizing session session' with
  | nil => exact ⟨rfl, rfl, h⟩
  | cons operation operations ih =>
    obtain ⟨hanswer, hreportsOf, hnext⟩ :=
      perform_bisimulation hends hstep hedit hreset operation h
    obtain ⟨hanswers, hreports, hlast⟩ := ih hnext
    exact ⟨by rw [answers, answers, hanswer, hanswers],
      by rw [reports, reports, hreportsOf, hreports], hlast⟩

end Bisimulation

/-! ## Settings -/

/-- Whether two sessions play the same level by the same rules, with their switches set alike. -/
structure SameSettings (session session' : Session) : Prop where
  rules_eq : session'.rules = session.rules
  level_eq : session'.level = session.level
  haltOnError_eq : session'.haltOnError = session.haltOnError
  recordTrace_eq : session'.recordTrace = session.recordTrace
  listening_eq : session'.listening = session.listening

theorem sameSettings_step (session : Session) : session.SameSettings session.step.2 := by
  cases hfinished : session.finished with
  | none =>
    rw [(step_of_open hfinished).2]
    exact ⟨rfl, rfl, rfl, rfl, rfl⟩
  | some outcome =>
    rw [step_of_finished hfinished]
    exact ⟨rfl, rfl, rfl, rfl, rfl⟩

theorem SameSettings.trans {first second third : Session} (h : first.SameSettings second)
    (h' : second.SameSettings third) : first.SameSettings third where
  rules_eq := h'.rules_eq.trans h.rules_eq
  level_eq := h'.level_eq.trans h.level_eq
  haltOnError_eq := h'.haltOnError_eq.trans h.haltOnError_eq
  recordTrace_eq := h'.recordTrace_eq.trans h.recordTrace_eq
  listening_eq := h'.listening_eq.trans h.listening_eq

/-- No operation changes the settings of a session. -/
theorem sameSettings_after (session : Session) (operations : List Operation) :
    session.SameSettings (session.after operations) := by
  refine after_induction ?_ ?_ ?_ ⟨rfl, rfl, rfl, rfl, rfl⟩
  · intro s h
    exact h.trans s.sameSettings_step
  · intro s script h
    exact h.trans ⟨rfl, rfl, rfl, rfl, rfl⟩
  · intro _ s h
    exact h.trans ⟨rfl, rfl, rfl, rfl, rfl⟩

end Session

end FarmScript
