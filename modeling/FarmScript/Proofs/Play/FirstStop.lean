import FarmScript.Proofs.Machine.Run
import FarmScript.Proofs.Play.Operation
import Mathlib.Order.Nat

/-! # A run goes to the first tick that ends it

A tick ends a run when the goal is reached on the farm it leaves, when it reports an error on which
the session halts, or when it finds the script exhausted (`Tick.EndsRun`). If it does, `Ending` says
how, the goal counting before the error and the error before the end of the script.

`Session.run` goes by the ticks of the bare script: it stops at the first that ends the run, if that
is within the limit (`run_of_first_stop`), and at the limit otherwise (`run_of_no_stop`).
-/

namespace FarmScript
set_option autoImplicit false

def Tick.EndsRun (rules : Rules) (level : Level) (haltOnError : Bool) (t : Tick) : Prop :=
  level.goal.isReached rules t.world = true ∨ (haltOnError = true ∧ t.error ≠ none) ∨
    t.status = .exhausted

instance (rules : Rules) (level : Level) (haltOnError : Bool) (t : Tick) :
    Decidable (t.EndsRun rules level haltOnError) :=
  inferInstanceAs (Decidable (_ ∨ _))

/-- How the `k`-th tick, which started at `line`, ends a run. -/
inductive Ending (rules : Rules) (level : Level) (haltOnError : Bool) (k line : Nat) (t : Tick) :
    Outcome → Prop
  | goalReached (hgoal : level.goal.isReached rules t.world = true) :
      Ending rules level haltOnError k line t (.goalReached k)
  | halted {message : String} (hgoal : level.goal.isReached rules t.world = false)
      (hhalt : haltOnError = true) (herror : t.error = some message) :
      Ending rules level haltOnError k line t (.halted (line + 1) message)
  | exhausted (hgoal : level.goal.isReached rules t.world = false)
      (hquiet : haltOnError = true → t.error = none) (hstatus : t.status = .exhausted) :
      Ending rules level haltOnError k line t (.exhausted k)

namespace Session

theorem ending_of_ending? {session : Session} {outcome : Outcome}
    (h : session.ending? = some outcome) :
    Ending session.rules session.level session.haltOnError (session.ticks + 1)
      session.program.cursor session.nextTick outcome := by
  have hgoal : (session.adopt session.nextTick).goalReached =
      session.level.goal.isReached session.rules session.nextTick.world := rfl
  have hhalt : (session.adopt session.nextTick).haltOnError = session.haltOnError := rfl
  have hticks : (session.adopt session.nextTick).ticks = session.ticks + 1 := rfl
  unfold ending? outcomeAfter at h
  rw [hgoal, hhalt, hticks] at h
  split at h
  · next hreached =>
    cases h
    exact .goalReached hreached
  · next hreached =>
    have hopen := Bool.eq_false_iff.mpr hreached
    split at h
    · next text hon herror =>
      cases h
      exact .halted hopen hon herror
    · next hquiet =>
      split at h
      · next hstatus =>
        cases h
        refine .exhausted hopen ?_ hstatus
        intro hon
        rw [Option.eq_none_iff_forall_ne_some]
        exact fun text herror => hquiet text hon herror
      · cases h

theorem ending?_eq_none_iff (session : Session) :
    session.ending? = none ↔
      ¬ session.nextTick.EndsRun session.rules session.level session.haltOnError := by
  have hgoal : (session.adopt session.nextTick).goalReached =
      session.level.goal.isReached session.rules session.nextTick.world := rfl
  have hhalt : (session.adopt session.nextTick).haltOnError = session.haltOnError := rfl
  unfold ending? outcomeAfter Tick.EndsRun
  rw [hgoal, hhalt]
  split
  · next hreached => simp [hreached]
  · next hreached =>
    split
    · next text hon herror => simp [hon, herror]
    · next hquiet =>
      have hnone : ¬ (session.haltOnError = true ∧ session.nextTick.error ≠ none) := by
        rintro ⟨hon, herror⟩
        obtain ⟨text, htext⟩ := Option.ne_none_iff_exists'.mp herror
        exact hquiet text hon htext
      split
      · next hstatus => simp [hstatus]
      · next hstatus => simp [hreached, hnone, hstatus]

/-! ## The ticks ahead of a session -/

/-- The farm and the program that the script of a session comes to in `i` ticks. -/
def stateAhead (session : Session) (i : Nat) : World × Program :=
  stateAfter session.rules session.script session.world session.program i

/-- The tick of the script of a session that follows the next `i` ticks. -/
def tickAhead (session : Session) (i : Nat) : Tick :=
  tickAfter session.rules session.script session.world session.program i

/-- Whether the tick that follows the next `i` ticks ends the run. -/
def StopsAhead (session : Session) (i : Nat) : Prop :=
  (session.tickAhead i).EndsRun session.rules session.level session.haltOnError

section Open
variable {session : Session} (hopen : session.finished = none)
include hopen

theorem stateAhead_step (i : Nat) : session.step.2.stateAhead i = session.stateAhead (i + 1) := by
  rw [(step_of_open hopen).2]
  exact (stateAfter_succ_eq_tick session.rules session.script session.world session.program i).symm

theorem tickAhead_step (i : Nat) : session.step.2.tickAhead i = session.tickAhead (i + 1) := by
  rw [(step_of_open hopen).2]
  exact (tickAfter_succ_eq_tick session.rules session.script session.world session.program i).symm

theorem stopsAhead_step (i : Nat) :
    session.step.2.StopsAhead i ↔ session.StopsAhead (i + 1) := by
  rw [StopsAhead, StopsAhead, tickAhead_step hopen, (step_of_open hopen).2]

theorem ticks_step : session.step.2.ticks = session.ticks + 1 := by
  rw [(step_of_open hopen).2]

theorem finished_step_of_not_stops (h : ¬ session.StopsAhead 0) :
    session.step.2.finished = none := by
  rw [(step_of_open hopen).2]
  exact session.ending?_eq_none_iff.mpr h

theorem run_succ_of_not_stops (h : ¬ session.StopsAhead 0) (n : Nat) :
    session.run (n + 1) = session.step.2.run n := by
  have hending : session.ending? = none := session.ending?_eq_none_iff.mpr h
  rw [run_succ, (step_of_open hopen).1, hending]

theorem run_succ_of_stops (h : session.StopsAhead 0) (n : Nat) :
    ∃ outcome, session.ending? = some outcome ∧
      session.run (n + 1) = (outcome, session.step.2) := by
  have hending : session.ending? ≠ none := fun hnone => session.ending?_eq_none_iff.mp hnone h
  obtain ⟨outcome, houtcome⟩ := Option.ne_none_iff_exists'.mp hending
  refine ⟨outcome, houtcome, ?_⟩
  rw [run_succ, (step_of_open hopen).1, houtcome]

end Open

/-- A run stops at the first tick that ends it. -/
theorem run_of_first_stop {session : Session} (hopen : session.finished = none) {i n : Nat}
    (hi : i < n) (hstops : session.StopsAhead i) (hfirst : ∀ j < i, ¬ session.StopsAhead j) :
    Ending session.rules session.level session.haltOnError (session.ticks + i + 1)
        (session.stateAhead i).2.cursor (session.tickAhead i) (session.run n).1 ∧
      (session.run n).2.world = (session.stateAhead (i + 1)).1 ∧
      (session.run n).2.program = (session.stateAhead (i + 1)).2 ∧
      (session.run n).2.ticks = session.ticks + i + 1 ∧
      (session.run n).2.finished = some (session.run n).1 := by
  -- the ticks ahead of the session after a step are those ahead of the session, one tick on
  induction i generalizing session n with
  | zero =>
    obtain ⟨n, rfl⟩ : ∃ m, n = m + 1 := ⟨n - 1, by omega⟩
    obtain ⟨outcome, hending, hrun⟩ := run_succ_of_stops hopen hstops n
    rw [hrun, (step_of_open hopen).2]
    exact ⟨ending_of_ending? hending, rfl, rfl, rfl, hending⟩
  | succ i ih =>
    obtain ⟨n, rfl⟩ : ∃ m, n = m + 1 := ⟨n - 1, by omega⟩
    have hfirst0 := hfirst 0 (Nat.succ_pos i)
    have hrest := ih (finished_step_of_not_stops hopen hfirst0) (Nat.lt_of_succ_lt_succ hi)
      ((stopsAhead_step hopen i).mpr hstops)
      fun j hj => mt (stopsAhead_step hopen j).mp (hfirst (j + 1) (by omega))
    rw [stateAhead_step hopen, stateAhead_step hopen, tickAhead_step hopen, ticks_step hopen,
      ← run_succ_of_not_stops hopen hfirst0] at hrest
    have hticks : session.ticks + 1 + i + 1 = session.ticks + (i + 1) + 1 := by omega
    have hrules : session.step.2.rules = session.rules := by rw [(step_of_open hopen).2]
    have hlevel : session.step.2.level = session.level := by rw [(step_of_open hopen).2]
    have hhalt : session.step.2.haltOnError = session.haltOnError := by
      rw [(step_of_open hopen).2]
    rw [hticks, hrules, hlevel, hhalt] at hrest
    exact hrest

/-- A run that no tick ends within the limit goes to the limit. -/
theorem run_of_no_stop {session : Session} (hopen : session.finished = none) {n : Nat}
    (hnone : ∀ j < n, ¬ session.StopsAhead j) :
    (session.run n).1 = .tickLimit (session.ticks + n) ∧
      (session.run n).2.world = (session.stateAhead n).1 ∧
      (session.run n).2.program = (session.stateAhead n).2 ∧
      (session.run n).2.ticks = session.ticks + n ∧ (session.run n).2.finished = none := by
  induction n generalizing session with
  | zero => exact ⟨by rw [run, hopen]; rfl, rfl, rfl, rfl, hopen⟩
  | succ n ih =>
    have hnone0 := hnone 0 (Nat.succ_pos n)
    have hrest := ih (finished_step_of_not_stops hopen hnone0)
      fun j hj => mt (stopsAhead_step hopen j).mp (hnone (j + 1) (by omega))
    have hticks : session.ticks + 1 + n = session.ticks + (n + 1) := by omega
    rw [stateAhead_step hopen, ticks_step hopen, ← run_succ_of_not_stops hopen hnone0,
      hticks] at hrest
    exact hrest

end Session

/-- By playable rules, let `state k` be the farm and the program that the bare script comes to in
`k` ticks and `tickTo k` the last of these ticks. A run of a new session goes to the least `k` at
which the goal is reached, the session halts on an error or the script is exhausted, if that is
within the limit, and ends there as `Ending` says. Otherwise it goes to the limit, and the session
stays open. -/
theorem run_eq_first_stop {rules : Rules} (hrules : rules.validate = .ok rules) (level : Level)
    (script : Script) (haltOnError recordTrace listening : Bool) (max : Nat) :
    ∃ session, Session.start rules level script = .ok session ∧
      let state (k : Nat) := stateAfter rules script (level.world rules) Program.start k
      let tickTo (k : Nat) := tickAfter rules script (level.world rules) Program.start (k - 1)
      let stops : Set Nat := {k | 1 ≤ k ∧ (tickTo k).EndsRun rules level haltOnError}
      let result := (session.configure haltOnError recordTrace listening).run max
      (∀ k, IsLeast stops k → k ≤ max →
        Ending rules level haltOnError k (state (k - 1)).2.cursor (tickTo k) result.1 ∧
          result.2.world = (state k).1 ∧ result.2.program = (state k).2 ∧
          result.2.ticks = k ∧ result.2.finished = some result.1) ∧
      ((¬ ∃ k ≤ max, IsLeast stops k) →
        result.1 = .tickLimit max ∧
          result.2.world = (state max).1 ∧ result.2.program = (state max).2 ∧
          result.2.ticks = max ∧ result.2.finished = none) := by
  refine ⟨Session.fresh rules level script, Session.start_of_validate hrules level script, ?_⟩
  intro state tickTo stops result
  let begun := (Session.fresh rules level script).configure haltOnError recordTrace listening
  have hstops (i : Nat) : begun.StopsAhead i ↔ i + 1 ∈ stops :=
    ⟨fun h => ⟨Nat.succ_pos i, h⟩, fun h => h.2⟩
  have hopen : begun.finished = none := rfl
  have hzero : begun.ticks = 0 := rfl
  constructor
  · rintro k ⟨hmem, hleast⟩ hmax
    obtain ⟨i, rfl⟩ : ∃ i, k = i + 1 := Nat.exists_eq_add_of_le' hmem.1
    have hfirst (j : Nat) (hj : j < i) : ¬ begun.StopsAhead j := by
      intro h
      have hle : i + 1 ≤ j + 1 := hleast ((hstops j).mp h)
      omega
    have hrun := Session.run_of_first_stop hopen hmax ((hstops i).mpr hmem) hfirst
    rw [hzero, Nat.zero_add] at hrun
    exact hrun
  · intro hnone
    have hnever (j : Nat) (hj : j < max) : ¬ begun.StopsAhead j := by
      intro h
      have hmem := (hstops j).mp h
      classical
      have hleast := Set.Nonempty.isLeast_natFind ⟨_, hmem⟩
      exact hnone ⟨_, (hleast.2 hmem).trans hj, hleast⟩
    have hrun := Session.run_of_no_stop hopen hnever
    rw [hzero, Nat.zero_add] at hrun
    exact hrun

/-- A walk into the wall on the first level: the run halts at the second of the three lines. -/
theorem run_eq_first_stop_wall :
    Rules.default.validate = .ok Rules.default ∧
      ∃ session, Session.start Rules.default Level.firstSteps
          ⟨#["left()", "forward()", "plant()"]⟩ = .ok session ∧
        let result := (session.configure true false false).run 10
        result.1 = .halted 2 "Hit the wall! (Out of bounds)" ∧ result.2.ticks = 2 := by
  have hrules : Rules.default.validate = .ok Rules.default := rfl
  obtain ⟨session, hstart, hstop, -⟩ := run_eq_first_stop hrules Level.firstSteps
    ⟨#["left()", "forward()", "plant()"]⟩ true false false 10
  have hleast : IsLeast {k | 1 ≤ k ∧ (tickAfter Rules.default
      ⟨#["left()", "forward()", "plant()"]⟩ (Level.firstSteps.world Rules.default) Program.start
      (k - 1)).EndsRun Rules.default Level.firstSteps true} 2 := by
    refine ⟨⟨by decide, by decide +kernel⟩, ?_⟩
    rintro k ⟨hk, hends⟩
    by_contra hlt
    obtain rfl : k = 1 := by omega
    exact absurd hends (by decide +kernel)
  obtain ⟨hending, -, -, hticks, -⟩ := hstop 2 hleast (by decide)
  refine ⟨hrules, session, hstart, ?_, hticks⟩
  generalize ((session.configure true false false).run 10).1 = outcome at hending
  cases hending with
  | goalReached hgoal => exact absurd hgoal (by decide +kernel)
  | halted _ _ herror =>
    have hmessage : (tickAfter Rules.default ⟨#["left()", "forward()", "plant()"]⟩
        (Level.firstSteps.world Rules.default) Program.start 1).error =
        some "Hit the wall! (Out of bounds)" := by decide +kernel
    obtain rfl := Option.some.inj (herror.symm.trans hmessage)
    decide +kernel
  | exhausted _ hquiet _ => exact absurd (hquiet rfl) (by decide +kernel)

end FarmScript
