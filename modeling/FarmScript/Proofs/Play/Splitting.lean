import FarmScript.Proofs.Play.Listener

/-! # Runs in parts

A step reports an outcome exactly when it leaves the session ended with that outcome
(`finished_step`), and an ended session is left alone by all further steps. So a run that stops
early may be continued without effect, and a run may be cut in two at any place: at its stop, before
it or behind it (`run_add`, and `gatherRun_add` for what its steps yield). A run is then as many
single steps as its limit allows.
-/

namespace FarmScript
set_option autoImplicit false

namespace Session

theorem run_add (session : Session) (a b : Nat) :
    session.run (a + b) = (session.run a).2.run b := by
  induction a generalizing session with
  | zero => rw [Nat.zero_add, run]
  | succ a ih =>
    rw [Nat.succ_add, run_succ, run_succ]
    cases houtcome : session.step.1.outcome with
    | none => exact ih session.step.2
    | some outcome =>
      -- the step that stops the first part leaves an ended session to the second
      have hfinished := session.finished_step.trans houtcome
      exact (run_of_finished hfinished b).symm

theorem run_one (session : Session) : (session.run 1).2 = session.step.2 := by
  rw [run_succ]
  cases session.step.1.outcome <;> rfl

theorem after_replicate_step (session : Session) (n : Nat) :
    session.after (List.replicate n .step) = (session.run n).2 := by
  induction n generalizing session with
  | zero => rfl
  | succ n ih =>
    rw [Nat.add_comm, run_add, run_one, ← ih, Nat.add_comm, List.replicate_succ]
    rfl

section Gather
variable {α : Type} {yielded : Session → List α}
  (hquiet : ∀ (s : Session) (outcome : Outcome), s.finished = some outcome → yielded s = [])
include hquiet

theorem gatherRun_of_finished {session : Session} {outcome : Outcome}
    (h : session.finished = some outcome) (n : Nat) : session.gatherRun yielded n = [] := by
  cases n with
  | zero => rfl
  | succ n =>
    rw [gatherRun, hquiet session outcome h, step_of_finished h]
    rfl

/-- If an ended session yields nothing, a run yields what its parts do. -/
theorem gatherRun_add (session : Session) (a b : Nat) :
    session.gatherRun yielded (a + b) =
      session.gatherRun yielded a ++ (session.run a).2.gatherRun yielded b := by
  induction a generalizing session with
  | zero => rw [Nat.zero_add, gatherRun, List.nil_append, run]
  | succ a ih =>
    rw [Nat.succ_add, gatherRun, gatherRun, run_succ, List.append_assoc]
    cases houtcome : session.step.1.outcome with
    | none => rw [if_pos rfl, if_pos rfl, ih]
    | some outcome =>
      have hfinished := session.finished_step.trans houtcome
      simp [gatherRun_of_finished hquiet hfinished b]

end Gather

theorem gatherRun_one {α : Type} (yielded : Session → List α) (session : Session) :
    session.gatherRun yielded 1 = yielded session := by
  rw [gatherRun, gatherRun, ite_self, List.append_nil]

theorem stepEvents_of_finished (session : Session) (outcome : Outcome)
    (h : session.finished = some outcome) : session.stepEvents = [] := by
  rw [stepEvents, h]

theorem events_replicate_step (session : Session) (n : Nat) :
    session.events (List.replicate n .step) = session.gatherRun stepEvents n := by
  induction n generalizing session with
  | zero => rfl
  | succ n ih =>
    rw [Nat.add_comm, gatherRun_add stepEvents_of_finished, gatherRun_one, run_one, ← ih,
      Nat.add_comm, List.replicate_succ]
    rfl

end Session

/-- A run may be made in two parts. Whatever state a session is in, a run to the one limit and then
to the other leaves the session that a run to their sum leaves, with the same messages for the
listener, and the second part hands back the outcome of the whole; the events on the way are the
same, and so is what is said at them. In particular a run does what as many single steps do. -/
theorem run_in_parts (session : Session) (a b : Nat) :
    (session.run a).2.run b = session.run (a + b) ∧
      session.events [.run a, .run b] = session.events [.run (a + b)] ∧
      ∀ n, session.after (List.replicate n .step) = session.after [.run n] ∧
        session.events (List.replicate n .step) = session.events [.run n] := by
  have hevents (s : Session) (n : Nat) : s.events [.run n] = s.gatherRun Session.stepEvents n :=
    List.append_nil _
  refine ⟨(session.run_add a b).symm, ?_, fun n => ⟨session.after_replicate_step n, ?_⟩⟩
  · rw [hevents, Session.gatherRun_add Session.stepEvents_of_finished,
      ← hevents (session.run a).2 b]
    rfl
  · rw [hevents, Session.events_replicate_step]

end FarmScript
