import FarmScript.Proofs.Machine.CheckedTick
import FarmScript.Proofs.Play.Upkeep

/-! # No number of a session outgrows its word

A session that is played by playable rules on a field whose tiles can be counted in a signed word,
with scripts whose lines can be, makes ticks in checked arithmetic only. `Session.Bounded` is what
this rests on: the farm is in order, the open blocks are those around the next line, and no more
ticks are counted than have been made.
-/

namespace FarmScript
set_option autoImplicit false

namespace Session

/-- Whether a session is in a state that its ticks can count on, `made` ticks after it began. -/
structure Bounded (rules : Rules) (made : Nat) (session : Session) : Prop where
  inOrder : session.InOrder rules
  enclosed : session.program.Enclosed session.script
  length_lt : session.script.length < 2 ^ 63
  ticks_le : session.ticks ≤ made

namespace Bounded
variable {rules : Rules} {made : Nat} {session : Session}

theorem edit (h : session.Bounded rules made) {script : Script} (hlength : script.length < 2 ^ 63) :
    (session.edit script).Bounded rules made :=
  ⟨h.inOrder.edit script, .start, hlength, h.ticks_le⟩

theorem reset (hsize : rules.gridSize ≠ 0) (h : session.Bounded rules made) :
    session.reset.Bounded rules made :=
  ⟨h.inOrder.reset hsize, .start, h.length_lt, Nat.zero_le made⟩

theorem step (h : session.Bounded rules made) :
    session.step.2.Bounded rules (made + session.ticking.length) := by
  have hinOrder := h.inOrder.step
  cases hfinished : session.finished with
  | none =>
    rw [(step_of_open hfinished).2] at hinOrder ⊢
    have hticks : session.ticks + 1 ≤ made + session.ticking.length := by
      simpa [ticking, hfinished] using h.ticks_le
    exact ⟨hinOrder, h.enclosed.tick session.rules session.world, h.length_lt, hticks⟩
  | some outcome =>
    rw [step_of_finished hfinished] at hinOrder ⊢
    exact ⟨hinOrder, h.enclosed, h.length_lt, Nat.le_add_right_of_le h.ticks_le⟩

end Bounded

/-- Whether a session is bounded, and so is each session that ticked before it, by the ticks before
its own. -/
def BoundedSince (rules : Rules) (ticked : List Session) (session : Session) : Prop :=
  session.Bounded rules ticked.length ∧ ∀ s ∈ ticked, ∃ made < ticked.length, s.Bounded rules made

theorem BoundedSince.step {rules : Rules} {ticked : List Session} {session : Session}
    (h : session.BoundedSince rules ticked) :
    session.step.2.BoundedSince rules (ticked ++ session.ticking) := by
  obtain ⟨hsession, hticked⟩ := h
  unfold BoundedSince
  rw [List.length_append]
  refine ⟨hsession.step, ?_⟩
  intro s hmem
  rcases List.mem_append.mp hmem with hbefore | hnow
  · obtain ⟨made, hmade, hs⟩ := hticked s hbefore
    exact ⟨made, Nat.lt_add_right _ hmade, hs⟩
  · -- a session yields nothing but itself
    have hself : session.ticking = [session] := by
      unfold ticking at hnow ⊢
      split at hnow
      · rfl
      · cases hnow
    rw [hself] at hnow ⊢
    obtain rfl := List.mem_singleton.mp hnow
    exact ⟨ticked.length, Nat.lt_succ_self _, hsession⟩

theorem boundedSince_after {rules : Rules} (hsize : rules.gridSize ≠ 0) {session : Session}
    {operations : List Operation}
    (hedits : ∀ script, .edit script ∈ operations → script.length < 2 ^ 63)
    (h : session.Bounded rules 0) :
    (session.after operations).BoundedSince rules (gatherAll ticking [] session operations) := by
  have hbegun : session.BoundedSince rules [] := ⟨h, by simp⟩
  refine gatherAll_induction (R := fun ticked s => s.BoundedSince rules ticked) ?_ ?_ ?_ hbegun
  · intro ticked s hs
    exact hs.step
  · rintro script hmem ticked s ⟨hs, hticked⟩
    exact ⟨hs.edit (hedits script hmem), hticked⟩
  · rintro ticked s ⟨hs, hticked⟩
    rw [List.append_nil]
    exact ⟨hs.reset hsize, hticked⟩

end Session

/-- By playable rules on a field whose tiles can be counted in a signed word, with scripts whose
lines can be, every level starts, and whatever is then done with the session in fewer ticks than a
word can count: each tick, made in checked arithmetic, has a result, which is the tick itself. So
every sum, product, difference and change of signedness in it is the true one, and the bot has a
tile under it wherever the tick looks there. The number of the tick and that of the line it starts
at, counted from 1, fit into words as well. -/
theorem session_ticks_exactly {rules : Rules} (hrules : rules.validate = .ok rules)
    (hsize : rules.gridSize.toNat ^ 2 < 2 ^ 63) (level : Level) {script : Script}
    (hscript : script.length < 2 ^ 63) (haltOnError recordTrace listening : Bool)
    {operations : List Operation}
    (hedits : ∀ edited, .edit edited ∈ operations → edited.length < 2 ^ 63) :
    ∃ session, Session.start rules level script = .ok session ∧
      let begun := session.configure haltOnError recordTrace listening
      let ticked := Session.gatherAll Session.ticking [] begun operations
      ticked.length < 2 ^ 64 → ∀ s ∈ ticked,
        Checked.tick s.rules s.script s.world s.program =
            some (tick s.rules s.script s.world s.program) ∧
          s.program.cursor + 1 < 2 ^ 64 ∧ s.ticks + 1 < 2 ^ 64 := by
  have hpos := Rules.gridSize_ne_zero hrules
  refine ⟨_, Session.start_of_validate hrules level script, ?_⟩
  intro begun ticked hcount s hmem
  have hbegun : begun.Bounded rules 0 :=
    ⟨⟨rfl, level.world_inOrder hpos⟩, .start, hscript, Nat.le_refl 0⟩
  obtain ⟨made, hmade, hs⟩ : ∃ made < ticked.length, s.Bounded rules made :=
    (Session.boundedSince_after hpos hedits hbegun).2 s hmem
  have hcursor := hs.enclosed.cursor_le
  have hlength := hs.length_lt
  have hticks := hs.ticks_le
  refine ⟨?_, by omega, by omega⟩
  exact Checked.tick_eq hs.inOrder.2 hsize hs.enclosed hlength s.rules

/-- On a field of two by two tiles a loop sows and waters, runs out of gold and into the wall; then
another script looks for the column of the bot, and the level starts again. -/
theorem session_ticks_exactly_into_the_wall :
    let rules : Rules := { Rules.default with gridSize := 2, startingGold := 3 }
    let script := Script.parse "for i in range(2):\n    plant()\n    water()\n    forward()"
    let edited := Script.parse "if bot.x == 1:\n\tleft()"
    let operations := [.run 20, .edit edited, .step, .reset, .step]
    rules.validate = .ok rules ∧ rules.gridSize.toNat ^ 2 < 2 ^ 63 ∧
      ∃ session, Session.start rules Level.foreverAndIf script = .ok session ∧
        let begun := session.configure false true true
        let ticked := Session.gatherAll Session.ticking [] begun operations
        ticked.length = 12 ∧ ∀ s ∈ ticked,
          Checked.tick s.rules s.script s.world s.program =
            some (tick s.rules s.script s.world s.program) := by
  intro rules script edited operations
  have hrules : rules.validate = .ok rules := rfl
  have hsize : rules.gridSize.toNat ^ 2 < 2 ^ 63 := by decide
  have hscript : script.length < 2 ^ 63 := by decide +kernel
  have hedits : ∀ other, Operation.edit other ∈ operations → other.length < 2 ^ 63 := by
    intro other hmem
    obtain rfl : other = edited := by simpa [operations] using hmem
    decide +kernel
  obtain ⟨session, hstart, hall⟩ :=
    session_ticks_exactly hrules hsize Level.foreverAndIf hscript false true true hedits
  obtain rfl := Session.eq_fresh_of_start hrules hstart
  have hcount : (Session.gatherAll Session.ticking []
      ((Session.fresh rules Level.foreverAndIf script).configure false true true)
      operations).length = 12 := by decide +kernel
  refine ⟨hrules, hsize, _, hstart, hcount, ?_⟩
  intro s hmem
  exact (hall (by rw [hcount]; decide) s hmem).1

end FarmScript
