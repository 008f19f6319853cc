import FarmScript.Proofs.Farm.Ledger
import FarmScript.Proofs.Play.FirstStop

/-! # A level of harvests is won by harvesting

A level that asks for harvests looks at the gold alone. The books of a session
(`Session.deedsSinceReset`) hold the deeds of all its steps since the last reset, and the farm of
the session is balanced with them against the farm of the level (`hasBooks_after`). So the gold of
`n` harvests takes `n` harvests (`Balanced.le_harvests`), as long as a harvest earns something. If
it earns nothing, the goal is reached by the first tick.
-/

namespace FarmScript
set_option autoImplicit false

/-- Gold that is worth a number of harvests more than at the start has been earned by as many
harvests. -/
theorem Balanced.le_harvests {rules : Rules} {before after : World} {deeds : List Deed}
    {count : Nat} (h : Balanced rules before after deeds) (hvalue : rules.harvestValue ≠ 0)
    (hgold : before.gold.toNat + count * rules.harvestValue.toNat ≤ after.gold.toNat) :
    count ≤ successes .harvest deeds := by
  have hpos : 0 < rules.harvestValue.toNat :=
    UInt32.lt_iff_toNat_lt.mp (UInt32.pos_iff_ne_zero.mpr hvalue)
  have hle : rules.harvestValue.toNat * count ≤
      rules.harvestValue.toNat * successes .harvest deeds := by
    have hspent := h.gold_le
    rw [Nat.mul_comm count] at hgold
    omega
  exact Nat.le_of_mul_le_mul_left hle hpos

namespace Session

/-! ## The books of a session -/

/-- The deed of the next step, if it makes one. -/
def stepDeeds (session : Session) : List Deed :=
  match session.finished with
  | none => (deed? session.rules session.script session.world session.program).toList
  | some _ => []

/-- The deeds since the last reset, or since the beginning if there is none. -/
def deedsSinceReset (session : Session) (operations : List Operation) : List Deed :=
  gatherSince stepDeeds [] [] session operations

/-- Whether the farm of a session is balanced with deeds against the farm its level starts with. -/
def HasBooks (rules : Rules) (level : Level) (deeds : List Deed) (session : Session) : Prop :=
  session.rules = rules ∧ session.level = level ∧
    Balanced rules (level.world rules) session.world deeds

theorem hasBooks_nil (session : Session)
    (h : session.world = session.level.world session.rules) :
    session.HasBooks session.rules session.level [] :=
  ⟨rfl, rfl, .of_eq (by rw [h]) (by rw [h]) (by simp)⟩

theorem HasBooks.step {rules : Rules} {level : Level} {deeds : List Deed} {session : Session}
    (h : session.HasBooks rules level deeds) :
    session.step.2.HasBooks rules level (deeds ++ session.stepDeeds) := by
  obtain ⟨rfl, rfl, hbalanced⟩ := h
  cases hfinished : session.finished with
  | none =>
    rw [(step_of_open hfinished).2, stepDeeds, hfinished]
    exact ⟨rfl, rfl, hbalanced.trans (balanced_tick _ _ _ _)⟩
  | some outcome =>
    rw [step_of_finished hfinished, stepDeeds, hfinished, List.append_nil]
    exact ⟨rfl, rfl, hbalanced⟩

/-- The books of a session are right whatever has been done with it. -/
theorem hasBooks_after {session : Session} (operations : List Operation)
    (h : session.world = session.level.world session.rules) :
    (session.after operations).HasBooks session.rules session.level
      (session.deedsSinceReset operations) := by
  refine gatherSince_induction (R := fun deeds s => s.HasBooks session.rules session.level deeds)
    ?_ ?_ ?_ (session.hasBooks_nil h)
  · intro deeds s hs
    exact hs.step
  · intro deeds s script hs
    exact hs
  · rintro - deeds s ⟨hrules, hlevel, -⟩
    rw [← hrules, ← hlevel]
    exact s.reset.hasBooks_nil rfl

/-! ## Won levels -/

theorem goalReached_after {session : Session} {operations : List Operation} {ticks : Nat}
    (hopen : session.finished = none)
    (h : (session.after operations).finished = some (.goalReached ticks)) :
    (session.after operations).goalReached = true := by
  refine after_induction (P := fun s =>
    ∀ ticks, s.finished = some (.goalReached ticks) → s.goalReached = true) ?_ ?_ ?_ ?_ ticks h
  · intro s hs
    cases hfinished : s.finished with
    | none =>
      rw [(step_of_open hfinished).2]
      intro ticks hending
      cases ending_of_ending? hending with
      | goalReached hgoal => exact hgoal
    | some outcome =>
      rw [step_of_finished hfinished]
      exact hs
  · intro s script _ ticks hnone
    cases hnone
  · intro _ s _ ticks hnone
    cases hnone
  · intro ticks hnone
    rw [hopen] at hnone
    cases hnone

theorem ending?_of_isReached {session : Session}
    (h : session.level.goal.isReached session.rules session.nextTick.world = true) :
    session.ending? = some (.goalReached (session.ticks + 1)) := by
  have hgoal : (session.adopt session.nextTick).goalReached = true := h
  unfold ending? outcomeAfter
  rw [if_pos hgoal]
  rfl

/-- If harvests earn nothing, a tick without a command wins a level of harvests from its start. -/
theorem step_of_worthless (session : Session) {count : Nat} (hopen : session.finished = none)
    (hworld : session.world = session.level.world session.rules)
    (hcommand : session.program.command? session.script = none)
    (hgoal : session.level.goal = .earnHarvests count)
    (hvalue : session.rules.harvestValue = 0) :
    session.step.2.finished = some (.goalReached (session.ticks + 1)) ∧
      session.step.2.world.bot.inventory = 0 := by
  have hnext : session.nextTick.world =
      (session.level.world session.rules).grow session.rules.growthStep := by
    rw [← hworld]
    exact (tick_of_no_command session.rules session.world hcommand).1
  have hending : session.ending? = some (.goalReached (session.ticks + 1)) := by
    apply ending?_of_isReached
    rw [hnext, hgoal]
    simp [Goal.isReached, hvalue, Level.world, Rules.freshWorld, World.start]
  rw [(step_of_open hopen).2]
  refine ⟨hending, ?_⟩
  rw [hnext]
  rfl

end Session

/-- By playable rules, the third level can be won by harvesting only, exactly if a harvest earns
something: whatever script is played and whatever is done with the session, when its outcome is that
the goal is reached, at least three harvests have succeeded since the last reset, and the bot has
them. -/
theorem third_level_needs_harvests_iff {rules : Rules} (hrules : rules.validate = .ok rules) :
    rules.harvestValue ≠ 0 ↔
      ∀ script, ∃ session, Session.start rules Level.foreverAndIf script = .ok session ∧
        ∀ (haltOnError recordTrace listening : Bool) (operations : List Operation) (ticks : Nat),
          let begun := session.configure haltOnError recordTrace listening
          (begun.after operations).finished = some (.goalReached ticks) →
            3 ≤ successes .harvest (begun.deedsSinceReset operations) ∧
              3 ≤ (begun.after operations).world.bot.inventory := by
  constructor
  · intro hvalue script
    refine ⟨_, Session.start_of_validate hrules Level.foreverAndIf script, ?_⟩
    intro haltOnError recordTrace listening operations ticks begun hfinished
    obtain ⟨hrules', hlevel, hbalanced⟩ : (begun.after operations).HasBooks rules
        Level.foreverAndIf (begun.deedsSinceReset operations) :=
      Session.hasBooks_after operations rfl
    have hgoal := Session.goalReached_after rfl hfinished
    rw [Session.goalReached, hrules', hlevel] at hgoal
    have hharvests := hbalanced.le_harvests hvalue (of_decide_eq_true hgoal)
    refine ⟨hharvests, UInt32.le_iff_toNat_le.mpr ?_⟩
    rw [hbalanced.inventory_eq]
    have hthree : (3 : UInt32).toNat = 3 := rfl
    omega
  · intro hall hvalue
    obtain ⟨session, hstart, hneeds⟩ := hall ⟨#[""]⟩
    obtain rfl := Session.eq_fresh_of_start hrules hstart
    have hcommand : Program.start.command? ⟨#[""]⟩ = none := by decide
    obtain ⟨hfinished, hinventory⟩ := Session.step_of_worthless
      ((Session.fresh rules Level.foreverAndIf ⟨#[""]⟩).configure true false false)
      rfl rfl hcommand rfl hvalue
    have hwon := hneeds true false false [.step] 1
    simp only [Session.after_singleton, Session.perform] at hwon
    have hthree := (hwon hfinished).2
    rw [hinventory] at hthree
    exact absurd hthree (by decide)

/-- Where crops ripen at once and water is free, three crops of the player's own win the third
level, after a false start and a reset. -/
theorem third_level_needs_harvests_after_reset :
    let rules : Rules := { Rules.default with gridSize := 1, growthStep := 100, waterCost := 0 }
    let script : Script := ⟨#["for i in range(3):", "  water()", "  harvest()"]⟩
    let operations : List Operation := [.run 2, .reset, .run 20]
    rules.validate = .ok rules ∧
      ∃ session, Session.start rules Level.foreverAndIf script = .ok session ∧
        let begun := session.configure true false false
        (begun.after operations).finished = some (.goalReached 9) ∧
          3 ≤ successes .harvest (begun.deedsSinceReset operations) ∧
          3 ≤ (begun.after operations).world.bot.inventory := by
  intro rules script operations
  have hrules : rules.validate = .ok rules := rfl
  obtain ⟨session, hstart, hneeds⟩ :=
    (third_level_needs_harvests_iff hrules).mp (by decide) script
  obtain rfl := Session.eq_fresh_of_start hrules hstart
  have hfinished : (((Session.fresh rules Level.foreverAndIf script).configure
      true false false).after operations).finished = some (.goalReached 9) := by decide +kernel
  exact ⟨hrules, _, hstart, hfinished, hneeds true false false operations 9 hfinished⟩

/-- By rules that are playable, though a harvest earns nothing, a single idle tick wins the third
level without any harvest. -/
theorem third_level_won_without_harvest :
    let rules : Rules := { Rules.default with harvestValue := 0 }
    rules.validate = .ok rules ∧
      ∃ session, Session.start rules Level.foreverAndIf (Script.parse "pass()") = .ok session ∧
        (session.after [.step]).finished = some (.goalReached 1) ∧
        (session.after [.step]).world.bot.inventory = 0 ∧
        successes .harvest (session.deedsSinceReset [.step]) = 0 :=
  ⟨rfl, _, Session.start_of_validate rfl _ _, by decide +kernel, by decide +kernel,
    by decide +kernel⟩

end FarmScript
