import FarmScript.Proofs.Play.FirstStop
import FarmScript.Proofs.Play.Upkeep

/-! # The outcome of a session is never stale

A session that has an outcome has one that its present state bears out (`Session.Confirms`): the
goal is reached on the farm as it is, or it is not and the script is exhausted or refused in a line
that is still in it. A step sets the outcome together with the state it judges
(`confirms_of_ending?`), no step changes anything afterwards (`step_of_finished`,
`run_of_finished`), and resets and edits take the outcome away.

On a farm in order only a walk, sowing and watering can be refused (`Command.mem_of_error?`).
-/

namespace FarmScript
set_option autoImplicit false

/-! ## Commands that can be refused -/

theorem Command.mem_of_error? {rules : Rules} {world : World} {command : Command}
    (hcrop : world.cropUnderBot? ≠ none) (h : (command.execute rules world).2.error? ≠ none) :
    command ∈ [Command.forward, .plant, .water] := by
  cases command with
  | forward => simp
  | plant => simp
  | water => simp
  | left => exact absurd rfl h
  | right => exact absurd rfl h
  | pass => exact absurd rfl h
  | harvest =>
    -- a bot that stands on a tile harvests it or finds nothing ripe
    obtain ⟨crop, hcrop⟩ := Option.ne_none_iff_exists'.mp hcrop
    simp only [execute, reap, hcrop] at h
    split at h
    · exact absurd rfl h
    · exact absurd rfl h

theorem Program.exists_call_of_command? {script : Script} {program : Program} {command : Command}
    (h : program.command? script = some command) :
    ∃ text word, script.line? program.cursor = some text ∧
      Statement.classify text = .call word ∧ Command.ofWord? word = some command := by
  obtain ⟨text, htext, hclose⟩ := Option.bind_eq_some_iff.mp h
  split at hclose
  · cases hclose
  · cases hstatement : Statement.classify text with
    | call word =>
      rw [hstatement] at hclose
      exact ⟨text, word, htext, hstatement, hclose⟩
    | _ =>
      rw [hstatement] at hclose
      cases hclose

/-- Whether a line, counted from 1, gives one of the commands that can be refused. -/
def Script.CanRefuseAt (script : Script) (line : Nat) : Prop :=
  1 ≤ line ∧ line ≤ script.length ∧ ∃ text word command, script.line? (line - 1) = some text ∧
    Statement.classify text = .call word ∧ Command.ofWord? word = some command ∧
      command ∈ [Command.forward, .plant, .water]

/-- On a farm in order a tick that reports an error is at a line with such a command. -/
theorem canRefuseAt_of_tick_error {size : UInt64} {rules : Rules} {script : Script} {world : World}
    {program : Program} (h : world.InOrder size) (hsize : size.toNat ^ 2 < 2 ^ 63)
    (herror : (tick rules script world program).error ≠ none) :
    script.CanRefuseAt (program.cursor + 1) := by
  cases hcommand : program.command? script with
  | none => exact absurd (tick_of_no_command rules world hcommand).2 herror
  | some command =>
    rw [(tick_of_command rules world hcommand).2.2] at herror
    have hcrop := (h.grow rules.growthStep).cropUnderBot?_ne_none hsize
    obtain ⟨text, word, htext, hcall, hword⟩ := Program.exists_call_of_command? hcommand
    exact ⟨Nat.succ_pos _, Script.lt_length_of_line? htext, text, word, command, htext, hcall,
      hword, Command.mem_of_error? hcrop herror⟩

namespace Session

/-! ## What the present state bears out -/

/-- Whether a session, as it is now, bears an outcome out. -/
def Confirms (session : Session) : Outcome → Prop
  | .goalReached ticks => ticks = session.ticks ∧ session.goalReached = true
  | .exhausted ticks =>
    ticks = session.ticks ∧ session.program.isExhausted session.script = true ∧
      session.goalReached = false
  | .halted line _ =>
    session.haltOnError = true ∧ session.goalReached = false ∧ session.script.CanRefuseAt line
  | .tickLimit _ => False

theorem isExhausted_nextTick {session : Session} (h : session.nextTick.status = .exhausted) :
    session.nextTick.program.isExhausted session.script = true := by
  obtain ⟨hend, hnone⟩ := (tick_status_eq_exhausted_iff _ _ _ _).mp h
  rw [nextTick, tick_eq_exhausted _ _ hend hnone]
  simp [Tick.moveTo, Program.isExhausted, hend, hnone]

/-- A step that ends the run leaves a session that bears the outcome out. -/
theorem confirms_of_ending? {rules : Rules} {session : Session} {outcome : Outcome}
    (h : session.InOrder rules) (hsize : rules.gridSize.toNat ^ 2 < 2 ^ 63)
    (hopen : session.finished = none) (hending : session.ending? = some outcome) :
    session.step.2.Confirms outcome := by
  rw [(step_of_open hopen).2]
  cases ending_of_ending? hending with
  | goalReached hgoal => exact ⟨rfl, hgoal⟩
  | halted hgoal hhalt herror =>
    have herror' : session.nextTick.error ≠ none := by simp [herror]
    exact ⟨hhalt, hgoal, canRefuseAt_of_tick_error h.2 hsize herror'⟩
  | exhausted hgoal hquiet hstatus => exact ⟨rfl, isExhausted_nextTick hstatus, hgoal⟩

/-- Whether a session has no outcome or one that it bears out. -/
def UpToDate (session : Session) : Prop :=
  ∀ outcome, session.finished = some outcome → session.Confirms outcome

theorem UpToDate.step {rules : Rules} {session : Session} (h : session.UpToDate)
    (horder : session.InOrder rules) (hsize : rules.gridSize.toNat ^ 2 < 2 ^ 63) :
    session.step.2.UpToDate := by
  cases hfinished : session.finished with
  | none =>
    intro outcome houtcome
    have hending : session.step.2.finished = session.ending? := by
      rw [(step_of_open hfinished).2]
    exact confirms_of_ending? horder hsize hfinished (hending ▸ houtcome)
  | some outcome =>
    rw [step_of_finished hfinished]
    exact h

theorem upToDate_of_open {session : Session} (h : session.finished = none) : session.UpToDate := by
  intro outcome houtcome
  rw [h] at houtcome
  cases houtcome

/-! ## Steps that leave the run open -/

theorem goalReached_step {session : Session} (h : session.step.2.finished = none) :
    session.step.2.goalReached = false := by
  cases hfinished : session.finished with
  | none =>
    rw [(step_of_open hfinished).2] at h ⊢
    have hends := session.ending?_eq_none_iff.mp h
    exact Bool.eq_false_iff.mpr fun hgoal => hends (.inl hgoal)
  | some outcome =>
    rw [step_of_finished hfinished, hfinished] at h
    cases h

theorem goalReached_run {session : Session} (n : Nat)
    (h : (session.run (n + 1)).2.finished = none) :
    (session.run (n + 1)).2.goalReached = false := by
  -- it holds after the first step, and then after every further one
  let Open (s : Session) : Prop := s.finished = none → s.goalReached = false
  have hstep (s : Session) (_ : Open s) : Open s.step.2 := goalReached_step
  have hfirst : Open session.step.2 := goalReached_step
  have hrun : Open (session.run (n + 1)).2 := by
    rw [run_succ]
    cases session.step.1.outcome with
    | none => exact run_induction hstep n hfirst
    | some outcome => exact hfirst
  exact hrun h

end Session

/-- By playable rules on a field whose tiles can be counted, whatever is done with a session: the
outcome that it has, if it has one, is borne out by its present state, so that it is never that of
a run that came to its limit; a step or a run that may step leaves no reached goal without an
outcome; and once there is an outcome, steps and runs repeat it and change nothing. -/
theorem finished_never_stale {rules : Rules} (hrules : rules.validate = .ok rules)
    (hsize : rules.gridSize.toNat ^ 2 < 2 ^ 63) (level : Level) (script : Script) :
    ∃ session, Session.start rules level script = .ok session ∧
      ∀ (haltOnError recordTrace listening : Bool) (operations : List Operation),
        let played := (session.configure haltOnError recordTrace listening).after operations
        (∀ outcome, played.finished = some outcome → played.Confirms outcome) ∧
          (∀ earlier last, operations = earlier ++ [last] →
            (last = .step ∨ ∃ max, 1 ≤ max ∧ last = .run max) →
              played.finished = none → played.goalReached = false) ∧
          ∀ outcome, played.finished = some outcome →
            played.step =
                (⟨played.ticks, played.program.cursor, none, none, some outcome⟩, played) ∧
              ∀ max, played.run max = (outcome, played) := by
  have hpos := Rules.gridSize_ne_zero hrules
  refine ⟨Session.fresh rules level script, Session.start_of_validate hrules level script, ?_⟩
  intro haltOnError recordTrace listening operations played
  refine ⟨?_, ?_, ?_⟩
  · have hplayed : played.InOrder rules ∧ played.UpToDate := by
      refine Session.after_induction (P := fun s => s.InOrder rules ∧ s.UpToDate) ?_ ?_ ?_ ?_
      · rintro s ⟨horder, hdate⟩
        exact ⟨horder.step, hdate.step horder hsize⟩
      · rintro s script ⟨horder, -⟩
        exact ⟨horder.edit script, Session.upToDate_of_open rfl⟩
      · rintro - s ⟨horder, -⟩
        exact ⟨horder.reset hpos, Session.upToDate_of_open rfl⟩
      · exact ⟨⟨rfl, level.world_inOrder hpos⟩, Session.upToDate_of_open rfl⟩
    exact hplayed.2
  · rintro earlier last rfl hlast hfinished
    have hafter : played = (Session.after _ earlier).perform last := List.foldl_concat ..
    rw [hafter] at hfinished ⊢
    rcases hlast with rfl | ⟨max, hmax, rfl⟩
    · exact Session.goalReached_step hfinished
    · obtain ⟨n, rfl⟩ : ∃ n, max = n + 1 := ⟨max - 1, by omega⟩
      exact Session.goalReached_run n hfinished
  · intro outcome hfinished
    exact ⟨Session.step_of_finished hfinished, Session.run_of_finished hfinished⟩

/-- A walk into the wall on the first level: the outcome names the second of the three lines, which
can be refused, and a further run repeats it. -/
theorem finished_never_stale_wall :
    let script : Script := ⟨#["left()", "forward()", "plant()"]⟩
    let wall : Outcome := .halted 2 "Hit the wall! (Out of bounds)"
    Rules.default.validate = .ok Rules.default ∧ Rules.default.gridSize.toNat ^ 2 < 2 ^ 63 ∧
      ∃ session, Session.start Rules.default Level.firstSteps script = .ok session ∧
        let played := (session.configure true false false).after [.reset, .step, .run 10]
        played.finished = some wall ∧ played.Confirms wall ∧ played.run 7 = (wall, played) := by
  intro script wall
  have hrules : Rules.default.validate = .ok Rules.default := rfl
  have hsize : Rules.default.gridSize.toNat ^ 2 < 2 ^ 63 := by decide
  obtain ⟨session, hstart, hall⟩ := finished_never_stale hrules hsize Level.firstSteps script
  obtain ⟨hdate, -, hrepeat⟩ := hall true false false [.reset, .step, .run 10]
  obtain rfl := Session.eq_fresh_of_start hrules hstart
  have hfinished : (((Session.fresh Rules.default Level.firstSteps script).configure
      true false false).after [.reset, .step, .run 10]).finished = some wall := by decide +kernel
  exact ⟨hrules, hsize, _, hstart, hfinished, hdate wall hfinished, (hrepeat wall hfinished).2 7⟩

end FarmScript
