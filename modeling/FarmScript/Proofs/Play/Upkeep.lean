import FarmScript.Proofs.Farm.Layout
import FarmScript.Proofs.Farm.Ledger
import FarmScript.Proofs.Play.Operation

/-! # Sessions keep their farm in order

Whatever is done with a session, its farm is in order: a step is a tick or nothing, a reset brings
the farm of the level back, and an edit leaves the farm alone (`Session.InOrder`). So the bot never
gets off the field, and no step reports that it did. The harvest gets smaller at a reset only.
-/

namespace FarmScript
set_option autoImplicit false

namespace Session

/-- Whether a session is played by some rules on a farm in order. -/
def InOrder (rules : Rules) (session : Session) : Prop :=
  session.rules = rules ∧ session.world.InOrder rules.gridSize

namespace InOrder
variable {rules : Rules} {session : Session}

theorem step (h : session.InOrder rules) : session.step.2.InOrder rules := by
  obtain ⟨hrules, hworld⟩ := h
  cases hfinished : session.finished with
  | none =>
    rw [(step_of_open hfinished).2]
    exact ⟨hrules, hworld.tick session.rules session.script session.program⟩
  | some outcome =>
    rw [step_of_finished hfinished]
    exact ⟨hrules, hworld⟩

theorem edit (h : session.InOrder rules) (script : Script) : (session.edit script).InOrder rules :=
  h

theorem reset (hsize : rules.gridSize ≠ 0) (h : session.InOrder rules) :
    session.reset.InOrder rules := by
  obtain ⟨rfl, -⟩ := h
  exact ⟨rfl, session.level.world_inOrder hsize⟩

theorem error_step_ne_offFarm (hsize : rules.gridSize.toNat ^ 2 < 2 ^ 63)
    (h : session.InOrder rules) :
    session.step.1.error ≠ some "The bot is not on the farm" := by
  cases hfinished : session.finished with
  | none =>
    rw [(step_of_open hfinished).1]
    exact tick_error_ne_offFarm _ _ _ h.2 hsize
  | some outcome =>
    rw [step_of_finished hfinished]
    simp

end InOrder

theorem inventory_le_step (session : Session) :
    session.world.bot.inventory ≤ session.step.2.world.bot.inventory := by
  cases hfinished : session.finished with
  | none =>
    rw [(step_of_open hfinished).2]
    exact inventory_le_tick _ _ _ _
  | some outcome =>
    rw [step_of_finished hfinished]
    exact UInt32.le_refl _

theorem inventory_le_after (session : Session) {operations : List Operation}
    (h : .reset ∉ operations) :
    session.world.bot.inventory ≤ (session.after operations).world.bot.inventory := by
  refine after_induction (P := fun s => session.world.bot.inventory ≤ s.world.bot.inventory)
    ?_ ?_ ?_ ?_
  · intro s hle
    exact UInt32.le_trans hle s.inventory_le_step
  · intro s script hle
    exact hle
  · intro hmem
    exact absurd hmem h
  · exact UInt32.le_refl _

end Session

theorem Rules.gridSize_ne_zero {rules : Rules} (h : rules.validate = .ok rules) :
    rules.gridSize ≠ 0 := by
  have hproblem : rules.problem? = none := by
    unfold validate at h
    split at h
    · cases h
    · assumption
  exact ((problem?_eq_none_iff rules).mp hproblem).1

/-- By rules that are playable on a field whose tiles can be counted, every level starts, and
whatever is then done with the session, step by step or in runs, with resets and edits: the field
keeps its size and its tiles, each at its own place and with a growth below that of a ripe crop,
none unless watered, and the bot stays on the field; the harvest gets no smaller before the next
reset; and no step has ever reported that the bot stands beside the field. -/
theorem session_stays_inOrder {rules : Rules} (hrules : rules.validate = .ok rules)
    (hsize : rules.gridSize.toNat ^ 2 < 2 ^ 63) (level : Level) (script : Script) :
    ∃ session, Session.start rules level script = .ok session ∧
      ∀ (haltOnError recordTrace listening : Bool) (operations : List Operation),
        let begun := session.configure haltOnError recordTrace listening
        let played := begun.after operations
        played.world.InOrder rules.gridSize ∧
          (∀ more : List Operation, .reset ∉ more →
            played.world.bot.inventory ≤ (played.after more).world.bot.inventory) ∧
          ∀ report ∈ begun.reports operations,
            report.error ≠ some "The bot is not on the farm" := by
  have hpos := Rules.gridSize_ne_zero hrules
  refine ⟨Session.fresh rules level script, Session.start_of_validate hrules level script, ?_⟩
  intro haltOnError recordTrace listening operations begun played
  have hbegun : begun.InOrder rules := ⟨rfl, level.world_inOrder hpos⟩
  have hstep (s : Session) (h : s.InOrder rules) : s.step.2.InOrder rules := h.step
  have hedit (s : Session) (script : Script) (h : s.InOrder rules) :
      (s.edit script).InOrder rules := h.edit script
  have hreset (s : Session) (h : s.InOrder rules) : s.reset.InOrder rules := h.reset hpos
  have hplayed : played.InOrder rules :=
    Session.after_induction hstep hedit (fun _ => hreset) hbegun
  refine ⟨hplayed.2, fun more hmore => played.inventory_le_after hmore, ?_⟩
  exact Session.reports_induction hstep hedit hreset
    (fun s h => h.error_step_ne_offFarm hsize) operations hbegun

/-- The third level by the default rules: after a walk into the wall, a reset, an edit and some
water, the farm is in order, and no report has missed the bot. -/
theorem session_stays_inOrder_third_level :
    Rules.default.validate = .ok Rules.default ∧ Rules.default.gridSize.toNat ^ 2 < 2 ^ 63 ∧
      ∃ session, Session.start Rules.default Level.foreverAndIf
          (Script.parse "left()\nforward()") = .ok session ∧
        let begun := session.configure false false false
        let operations := [.run 5, .reset, .step, .edit (Script.parse "water()\nforward()"), .run 2]
        (begun.after operations).world.InOrder 6 ∧
          ∀ report ∈ begun.reports operations,
            report.error ≠ some "The bot is not on the farm" := by
  have hrules : Rules.default.validate = .ok Rules.default := rfl
  have hsize : Rules.default.gridSize.toNat ^ 2 < 2 ^ 63 := by decide
  obtain ⟨session, hstart, hall⟩ := session_stays_inOrder hrules hsize Level.foreverAndIf
    (Script.parse "left()\nforward()")
  obtain ⟨horder, -, hreports⟩ := hall false false false
    [.run 5, .reset, .step, .edit (Script.parse "water()\nforward()"), .run 2]
  exact ⟨hrules, hsize, session, hstart, horder, hreports⟩

end FarmScript
