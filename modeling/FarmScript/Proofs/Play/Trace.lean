import FarmScript.Proofs.Json.RoundTrip
import FarmScript.Proofs.Machine.Enclosure
import FarmScript.Proofs.Play.Operation

/-! # The trace of a run

A session that records its trace has one step in it for each tick, numbered from 1, and each at a
line of the script or at its end (`Session.Traced`). So the steps of a run can be written and read
again, as long as the limit of the run and the length of the script fit 64 bits
(`Traced.fits`).
-/

namespace FarmScript
set_option autoImplicit false

namespace Session

/-- Whether the trace of a session is that of its ticks. -/
structure Traced (session : Session) : Prop where
  enclosed : session.program.Enclosed session.script
  ticks_eq : session.trace.toList.map TraceStep.tick =
    if session.recordTrace then List.range' 1 session.ticks else []
  line_le : ∀ step ∈ session.trace.toList, step.line ≤ session.script.length

theorem trace_step {session : Session} (hopen : session.finished = none) :
    session.step.2.trace =
      if session.recordTrace then
        session.trace.push
          ((session.adopt session.nextTick).traceStep session.program.cursor session.nextTick)
      else session.trace := by
  rw [step_eq_of_open hopen, emitAll_eq]
  rfl

theorem Traced.step {session : Session} (h : session.Traced) : session.step.2.Traced := by
  cases hopen : session.finished with
  | some outcome =>
    rw [step_of_finished hopen]
    exact h
  | none =>
    have htrace := trace_step hopen
    have hticks : session.step.2.ticks = session.ticks + 1 := by rw [(step_of_open hopen).2]
    have hscript : session.step.2.script = session.script := by rw [(step_of_open hopen).2]
    refine ⟨?_, ?_, ?_⟩
    · rw [(step_of_open hopen).2]
      exact h.enclosed.tick session.rules session.world
    · rw [htrace, hticks, session.sameSettings_step.recordTrace_eq]
      have hearlier := h.ticks_eq
      cases hrecord : session.recordTrace with
      | false => simpa [hrecord] using hearlier
      | true =>
        have hnumber : ((session.adopt session.nextTick).traceStep session.program.cursor
            session.nextTick).tick = session.ticks + 1 := rfl
        rw [hrecord, if_pos rfl] at hearlier
        rw [if_pos rfl, if_pos rfl, Array.toList_push, List.map_append, hearlier,
          List.range'_concat, List.map_singleton, hnumber, Nat.one_mul, Nat.add_comm 1]
    · rw [htrace, hscript]
      intro step hmem
      split at hmem
      · rcases List.mem_append.mp (Array.toList_push ▸ hmem) with hmem | hmem
        · exact h.line_le step hmem
        · obtain rfl := List.mem_singleton.mp hmem
          exact h.enclosed.cursor_le
      · exact h.line_le step hmem

theorem traced_fresh (rules : Rules) (level : Level) (script : Script)
    (haltOnError recordTrace listening : Bool) :
    ((fresh rules level script).configure haltOnError recordTrace listening).Traced where
  enclosed := .start
  ticks_eq := by cases recordTrace <;> rfl
  line_le := by simp [fresh, configure]

theorem Traced.run {session : Session} (h : session.Traced) (n : Nat) :
    (session.run n).2.Traced :=
  run_induction (fun _ hs => hs.step) n h

theorem ticks_run_le (session : Session) (n : Nat) :
    (session.run n).2.ticks ≤ session.ticks + n := by
  induction n generalizing session with
  | zero => exact Nat.le_refl _
  | succ n ih =>
    have hstep : session.step.2.ticks ≤ session.ticks + 1 := by
      cases hopen : session.finished with
      | none => rw [(step_of_open hopen).2]
      | some outcome =>
        rw [step_of_finished hopen]
        exact Nat.le_succ _
    rw [run_succ]
    cases session.step.1.outcome with
    | some outcome =>
      simp only
      omega
    | none =>
      have hrest := ih session.step.2
      simp only
      omega

theorem script_run (session : Session) (n : Nat) : (session.run n).2.script = session.script := by
  refine run_induction (P := fun s => s.script = session.script) ?_ n rfl
  intro s hs
  cases hopen : s.finished with
  | none => rw [(step_of_open hopen).2, hs]
  | some outcome => rw [step_of_finished hopen, hs]

theorem Traced.fits {session : Session} (h : session.Traced) (hticks : session.ticks < UInt64.size)
    (hlength : session.script.length < UInt64.size) : ∀ step ∈ session.trace.toList, step.Fits := by
  intro step hmem
  have hnumber : step.tick ∈ session.trace.toList.map TraceStep.tick := List.mem_map_of_mem hmem
  rw [h.ticks_eq] at hnumber
  split at hnumber
  · have hle := (List.mem_range'_1.mp hnumber).2
    exact ⟨by omega, Nat.lt_of_le_of_lt (h.line_le step hmem) hlength⟩
  · cases hnumber

end Session

end FarmScript
