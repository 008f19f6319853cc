import FarmScript.Proofs.Farm.Execution
import FarmScript.Proofs.Machine.Run

/-! # The gold adds up

Commands are kept in the books as `Deed`s: the farm before, the farm after and the reply. A stretch
of work is `Balanced` when gold and harvest at its end are those at its start with what the deeds in
between cost and earned. Growth is balanced without a deed, every single deed is balanced
(`balanced_deed`), and balanced stretches follow each other (`Balanced.trans`), though the gold that
a full purse cannot hold is lost at any point of either. So every run of a script and every
sequence of commands is balanced (`balanced_stateAfter`, `balanced_deedsOf`).
-/

namespace FarmScript
set_option autoImplicit false

/-- A command that was given, the farm it found, and the farm and the reply that came of it. -/
structure Deed where
  command : Command
  before : World
  after : World
  reply : Command.Reply
deriving DecidableEq

namespace Command

def deed (rules : Rules) (world : World) (command : Command) : Deed where
  command := command
  before := world
  after := (command.execute rules world).1
  reply := (command.execute rules world).2

/-- What a command costs when it succeeds. -/
def cost (rules : Rules) : Command → UInt32
  | plant => rules.plantCost
  | water => rules.waterCost
  | forward | left | right | harvest | pass => 0

end Command

/-- How often a command succeeded. -/
def successes (command : Command) (deeds : List Deed) : Nat :=
  deeds.countP fun deed => deed.command = command && deed.reply.changed

/-- Whether gold and harvest of a farm are those of an earlier farm with what the deeds in between
cost and earned. Gold is lost only where the earnings do not fit into a word, and every cost was
there to be paid. -/
structure Balanced (rules : Rules) (before after : World) (deeds : List Deed) : Prop where
  gold_le : after.gold.toNat + rules.plantCost.toNat * successes .plant deeds
      + rules.waterCost.toNat * successes .water deeds
    ≤ before.gold.toNat + rules.harvestValue.toNat * successes .harvest deeds
  gold_eq : before.gold.toNat + rules.harvestValue.toNat * successes .harvest deeds ≤ 4294967295 →
    after.gold.toNat + rules.plantCost.toNat * successes .plant deeds
      + rules.waterCost.toNat * successes .water deeds
    = before.gold.toNat + rules.harvestValue.toNat * successes .harvest deeds
  paid : ∀ deed ∈ deeds, deed.command = .plant ∨ deed.command = .water →
    deed.reply.changed = true →
      deed.after.gold.toNat + (deed.command.cost rules).toNat = deed.before.gold.toNat
  inventory_eq : after.bot.inventory.toNat =
    min (before.bot.inventory.toNat + successes .harvest deeds) 4294967295

theorem successes_append (command : Command) (deeds deeds' : List Deed) :
    successes command (deeds ++ deeds') = successes command deeds + successes command deeds' :=
  List.countP_append

theorem successes_singleton (command : Command) (deed : Deed) :
    successes command [deed] =
      if deed.command = command ∧ deed.reply.changed = true then 1 else 0 := by
  simp [successes, List.countP_singleton]

theorem toNat_le_max (a : UInt32) : a.toNat ≤ 4294967295 :=
  Nat.le_of_lt_succ a.toNat_lt

namespace Balanced
variable {rules : Rules}

/-- Deeds that neither cost nor earn anything keep gold and harvest. -/
theorem of_eq {before after : World} {deeds : List Deed} (hgold : after.gold = before.gold)
    (hinventory : after.bot.inventory = before.bot.inventory)
    (hfree : ∀ deed ∈ deeds, deed.reply.changed = true →
      deed.command ≠ .plant ∧ deed.command ≠ .water ∧ deed.command ≠ .harvest) :
    Balanced rules before after deeds := by
  have hnone {command : Command}
      (hcommand : command = .plant ∨ command = .water ∨ command = .harvest) :
      successes command deeds = 0 := by
    rw [successes, List.countP_eq_zero]
    intro deed hmem
    have hdeed := hfree deed hmem
    grind
  have hplant := hnone (.inl rfl)
  have hwater := hnone (.inr (.inl rfl))
  have hharvest := hnone (.inr (.inr rfl))
  have hmax := toNat_le_max before.bot.inventory
  refine ⟨?_, ?_, ?_, ?_⟩
  · simp [hplant, hwater, hgold]
  · simp [hplant, hwater, hharvest, hgold]
  · intro deed hmem hcommand hchanged
    have hdeed := hfree deed hmem hchanged
    grind
  · rw [hharvest, hinventory]
    omega

theorem trans {start middle finish : World} {deeds deeds' : List Deed}
    (h : Balanced rules start middle deeds) (h' : Balanced rules middle finish deeds') :
    Balanced rules start finish (deeds ++ deeds') := by
  refine ⟨?_, ?_, ?_, ?_⟩
  · have hle := h.gold_le
    have hle' := h'.gold_le
    simp only [successes_append, Nat.mul_add]
    omega
  · -- earnings that fit altogether fit in the first part, and then on top of what it left
    have hle := h.gold_le
    have hle' := h'.gold_le
    have heq := h.gold_eq
    have heq' := h'.gold_eq
    simp only [successes_append, Nat.mul_add]
    omega
  · intro deed hmem
    rcases List.mem_append.mp hmem with hmem | hmem
    · exact h.paid deed hmem
    · exact h'.paid deed hmem
  · have heq := h.inventory_eq
    have heq' := h'.inventory_eq
    rw [successes_append]
    omega

end Balanced

theorem toNat_sub_add_of_le {gold cost : UInt32} (h : cost ≤ gold) :
    (gold - cost).toNat + cost.toNat = gold.toNat := by
  have hle := UInt32.le_iff_toNat_le.mp h
  rw [UInt32.toNat_sub_of_le gold cost h]
  omega

/-- A deed that was paid for out of the gold that was there. -/
theorem balanced_of_paid {rules : Rules} {before after : World} {command : Command}
    {reply : Command.Reply} (hcommand : command = .plant ∨ command = .water)
    (hchanged : reply.changed = true)
    (hpaid : after.gold.toNat + (command.cost rules).toNat = before.gold.toNat)
    (hinventory : after.bot.inventory = before.bot.inventory) :
    Balanced rules before after [⟨command, before, after, reply⟩] := by
  have hmax := toNat_le_max before.bot.inventory
  have hspent : rules.plantCost.toNat * successes .plant [⟨command, before, after, reply⟩] +
      rules.waterCost.toNat * successes .water [⟨command, before, after, reply⟩] =
        (command.cost rules).toNat := by
    rcases hcommand with rfl | rfl <;> simp [successes_singleton, hchanged, Command.cost]
  have hharvest : successes .harvest [⟨command, before, after, reply⟩] = 0 := by
    rcases hcommand with rfl | rfl <;> simp [successes_singleton]
  refine ⟨?_, ?_, ?_, ?_⟩
  · rw [hharvest]
    omega
  · rw [hharvest]
    omega
  · intro deed hmem _ _
    obtain rfl := List.mem_singleton.mp hmem
    exact hpaid
  · rw [hharvest, hinventory]
    omega

theorem balanced_of_case {rules : Rules} {world after : World} {command : Command}
    {reply : Command.Reply} (h : Command.Case rules world command after reply) :
    Balanced rules world after [⟨command, world, after, reply⟩] := by
  cases h with
  | moved hon => exact .of_eq rfl rfl (by simp)
  | turnedLeft => exact .of_eq rfl rfl (by simp)
  | turnedRight => exact .of_eq rfl rfl (by simp)
  | unchanged hreply hoff => exact .of_eq rfl rfl (by simp [hreply])
  | sown hcrop hgold => exact balanced_of_paid (.inl rfl) rfl (toNat_sub_add_of_le hgold) rfl
  | watered hcrop hgold => exact balanced_of_paid (.inr rfl) rfl (toNat_sub_add_of_le hgold) rfl
  | harvested hcrop =>
    -- the only deed that earns, and the only one that may lose gold
    have hgold := toNat_saturatingAdd world.gold rules.harvestValue
    have hone : (saturatingAdd world.bot.inventory 1).toNat =
        min (world.bot.inventory.toNat + 1) 4294967295 := toNat_saturatingAdd _ 1
    constructor <;> simp [successes_singleton, Command.Reply.changed] <;> omega

theorem balanced_deed (rules : Rules) (world : World) (command : Command) :
    Balanced rules world (command.execute rules world).1 [command.deed rules world] :=
  balanced_of_case (Command.execute_case rules world command)

theorem balanced_grow (rules : Rules) (world : World) (step : UInt32) :
    Balanced rules world (world.grow step) [] :=
  .of_eq rfl rfl (by simp)

/-! ## Commands one after the other -/

/-- The deeds of commands that are carried out one after the other. -/
def deedsOf (rules : Rules) : World → List Command → List Deed
  | _, [] => []
  | world, command :: commands =>
    command.deed rules world :: deedsOf rules (command.execute rules world).1 commands

theorem balanced_deedsOf (rules : Rules) (world : World) (commands : List Command) :
    Balanced rules world
      (commands.foldl (fun world command => (command.execute rules world).1) world)
      (deedsOf rules world commands) := by
  induction commands generalizing world with
  | nil => exact .of_eq rfl rfl (by simp [deedsOf])
  | cons command commands ih =>
    exact (balanced_deed rules world command).trans (ih (command.execute rules world).1)

/-! ## Runs -/

section Run
variable (rules : Rules) (script : Script) (world : World) (program : Program)

/-- The deed of the next tick, if it carries out a command: it finds the farm grown. -/
def deed? : Option Deed :=
  (program.command? script).map (Command.deed rules (world.grow rules.growthStep))

/-- The deeds of the first `n` ticks. -/
def deedsAfter (n : Nat) : List Deed :=
  (List.range n).filterMap fun i =>
    deed? rules script (stateAfter rules script world program i).1
      (stateAfter rules script world program i).2

theorem deedsAfter_succ (n : Nat) :
    deedsAfter rules script world program (n + 1) = deedsAfter rules script world program n ++
      (deed? rules script (stateAfter rules script world program n).1
        (stateAfter rules script world program n).2).toList := by
  rw [deedsAfter, List.range_succ, List.filterMap_append, deedsAfter]
  congr 1

theorem balanced_tick :
    Balanced rules world (tick rules script world program).world
      (deed? rules script world program).toList := by
  have hgrown := balanced_grow rules world rules.growthStep
  cases hcommand : program.command? script with
  | none =>
    rw [(tick_of_no_command rules world hcommand).1, deed?, hcommand]
    exact hgrown
  | some command =>
    rw [(tick_of_command rules world hcommand).1, deed?, hcommand]
    exact hgrown.trans (balanced_deed rules (world.grow rules.growthStep) command)

/-- The harvest never gets smaller. -/
theorem inventory_le_tick :
    world.bot.inventory ≤ (tick rules script world program).world.bot.inventory := by
  have hinventory := (balanced_tick rules script world program).inventory_eq
  have hmax := toNat_le_max world.bot.inventory
  rw [UInt32.le_iff_toNat_le]
  omega

theorem balanced_stateAfter (n : Nat) :
    Balanced rules world (stateAfter rules script world program n).1
      (deedsAfter rules script world program n) := by
  induction n with
  | zero => exact .of_eq rfl rfl (by simp [deedsAfter])
  | succ n ih =>
    rw [deedsAfter_succ]
    exact ih.trans (balanced_tick rules script _ _)

end Run

/-- The gold adds up, over any number of ticks of any script and over any sequence of commands. What
is there at the end, together with what the seeds and the water of all successful work cost, is at
most what was there at the start together with the yield of all harvests, and exactly that as long
as start and yield fit into a word. No cost is paid from gold that is not there, and the harvest is
counted up to the largest word. -/
theorem balanced_books (rules : Rules) (world : World) :
    (∀ script program n, Balanced rules world (stateAfter rules script world program n).1
      (deedsAfter rules script world program n)) ∧
    ∀ commands : List Command, Balanced rules world
      (commands.foldl (fun world command => (command.execute rules world).1) world)
      (deedsOf rules world commands) :=
  ⟨fun script program n => balanced_stateAfter rules script world program n,
    balanced_deedsOf rules world⟩

/-- Gold that does not fit is lost: with a full purse a harvest earns nothing, and sowing the tile
again still costs. -/
example :
    let rules := { Rules.default with harvestValue := 4294967290 }
    let world : World := { rules.freshWorld with
      grid := (Grid.bare 6).setCrop 0 0 .ripe, gold := 4294967295 }
    (deedsOf rules world [.harvest, .plant]).map (fun deed => deed.after.gold) =
      [4294967295, 4294967293] := by
  decide +kernel

end FarmScript
