import FarmScript.Proofs.Farm.Locality
import FarmScript.Proofs.Machine.Run
import Mathlib.Algebra.Order.Floor.Div

/-! # Crops ripen on time

A watered crop grows by the same amount in every tick and is ripe in the tick in which its growth
comes to 100. Commands do not get in the way: on a watered tile only watering succeeds, and on a
ripe one only watering and harvesting, so that any other tick leaves the tile as growth has made it
(`tick_bears`). What a run keeps is therefore the number of ticks since the watering
(`bears_watered`) and, once the crop is ripe, that it is ripe (`bears_ripe`).
-/

namespace FarmScript
set_option autoImplicit false

/-- Whether the tile in a place of the field has a crop of some growth. -/
def Grid.Bears (grid : Grid) (place : Nat) (crop : Crop) (growth : Nat) : Prop :=
  ∃ tile, grid.tiles[place]? = some tile ∧ tile.crop = crop ∧ tile.growth.toNat = growth

/-! ## Growth -/

theorem Tile.grow_of_lt {step : UInt32} {tile : Tile} (hcrop : tile.crop = .watered)
    (hlt : tile.growth.toNat + step.toNat < 100) :
    (tile.grow step).crop = .watered ∧
      (tile.grow step).growth.toNat = tile.growth.toNat + step.toNat := by
  rw [grow_of_unripe ((ripens_eq_false_iff hcrop).mpr hlt) hcrop]
  refine ⟨hcrop, ?_⟩
  rw [toNat_saturatingAdd]
  omega

namespace Grid.Bears
variable {grid : Grid} {place growth : Nat} {step : UInt32}

theorem grow_watered (h : grid.Bears place .watered growth) (hlt : growth + step.toNat < 100) :
    (grid.grow step).Bears place .watered (growth + step.toNat) := by
  obtain ⟨tile, htile, hcrop, rfl⟩ := h
  refine ⟨tile.grow step, by simp [Grid.grow, htile], ?_⟩
  exact Tile.grow_of_lt hcrop hlt

theorem ripen (h : grid.Bears place .watered growth) (hle : 100 ≤ growth + step.toNat) :
    (grid.grow step).Bears place .ripe 0 := by
  obtain ⟨tile, htile, hcrop, rfl⟩ := h
  refine ⟨tile.grow step, by simp [Grid.grow, htile], ?_⟩
  rw [Tile.grow_of_ripens (Tile.ripens_eq_true_iff.mpr ⟨hcrop, hle⟩)]
  exact ⟨rfl, rfl⟩

theorem grow_ripe (h : grid.Bears place .ripe growth) :
    (grid.grow step).Bears place .ripe growth := by
  obtain ⟨tile, htile, hcrop, hgrowth⟩ := h
  refine ⟨tile, ?_, hcrop, hgrowth⟩
  simp [Grid.grow, htile, Tile.grow_of_not_watered, hcrop]

end Grid.Bears

/-! ## Ticks -/

theorem tick_bears {rules : Rules} {script : Script} {world : World} {program : Program}
    {place growth : Nat} {crop : Crop}
    (h : (world.grow rules.growthStep).grid.Bears place crop growth)
    (hfree : ∀ command, (command.crop? crop).isSome = true →
      ¬ SucceedsAt rules script world program command place) :
    (tick rules script world program).world.grid.Bears place crop growth := by
  obtain ⟨tile, htile, rfl, hgrowth⟩ := h
  rcases tick_tile rules script program htile with hsame | ⟨command, crop, hsucceeds, hcrop, -⟩
  · exact ⟨tile, hsame, rfl, hgrowth⟩
  · exact absurd hsucceeds (hfree command (by rw [hcrop]; rfl))

theorem Command.eq_water_of_crop? {command : Command}
    (h : (command.crop? .watered).isSome = true) : command = .water := by
  cases command with
  | water => rfl
  | _ => cases h

theorem Command.eq_water_or_harvest_of_crop? {command : Command}
    (h : (command.crop? .ripe).isSome = true) : command = .water ∨ command = .harvest := by
  cases command with
  | water => exact .inl rfl
  | harvest => exact .inr rfl
  | _ => cases h

theorem tick_bears_ripe {rules : Rules} {script : Script} {world : World} {program : Program}
    {place : Nat} (h : (world.grow rules.growthStep).grid.Bears place .ripe 0)
    (hwater : ¬ SucceedsAt rules script world program .water place)
    (hharvest : ¬ SucceedsAt rules script world program .harvest place) :
    (tick rules script world program).world.grid.Bears place .ripe 0 := by
  refine tick_bears h fun command hcrop => ?_
  rcases Command.eq_water_or_harvest_of_crop? hcrop with rfl | rfl
  · exact hwater
  · exact hharvest

/-! ## Runs -/

section Run
variable (rules : Rules) (script : Script) (world : World) (program : Program)

/-- Whether the tick after the first `n` ticks succeeds with a command on the tile in a place. -/
def SucceedsAfter (n : Nat) (command : Command) (place : Nat) : Prop :=
  SucceedsAt rules script (stateAfter rules script world program n).1
    (stateAfter rules script world program n).2 command place

instance (n : Nat) (command : Command) (place : Nat) :
    Decidable (SucceedsAfter rules script world program n command place) :=
  inferInstanceAs (Decidable (SucceedsAt _ _ _ _ _ _))

variable {rules script world program} {start place : Nat}

theorem bears_watered
    (hwatered : (stateAfter rules script world program start).1.grid.Bears place .watered 0)
    {j : Nat} (hlt : j * rules.growthStep.toNat < 100)
    (hfree : ∀ i < j, ¬ SucceedsAfter rules script world program (start + i) .water place) :
    (stateAfter rules script world program (start + j)).1.grid.Bears place .watered
      (j * rules.growthStep.toNat) := by
  induction j with
  | zero => simpa using hwatered
  | succ j ih =>
    rw [Nat.succ_mul] at hlt ⊢
    have hbefore := ih (by omega) fun i hi => hfree i (Nat.lt_succ_of_lt hi)
    refine tick_bears (hbefore.grow_watered hlt) fun command hcrop => ?_
    rw [Command.eq_water_of_crop? hcrop]
    exact hfree j (Nat.lt_succ_self j)

theorem bears_ripe
    (hripe : ((stateAfter rules script world program start).1.grow rules.growthStep).grid.Bears
      place .ripe 0) {n : Nat}
    (hfree : ∀ i ≤ n, ¬ SucceedsAfter rules script world program (start + i) .water place ∧
      ¬ SucceedsAfter rules script world program (start + i) .harvest place) :
    (stateAfter rules script world program (start + n + 1)).1.grid.Bears place .ripe 0 := by
  induction n with
  | zero => exact tick_bears_ripe hripe (hfree 0 (Nat.le_refl 0)).1 (hfree 0 (Nat.le_refl 0)).2
  | succ n ih =>
    have hbefore := ih fun i hi => hfree i (Nat.le_succ_of_le hi)
    obtain ⟨hwater, hharvest⟩ := hfree (n + 1) (Nat.le_refl (n + 1))
    exact tick_bears_ripe hbefore.grow_ripe hwater hharvest

end Run

theorem lt_ceilDiv_iff {step j : Nat} (hstep : 0 < step) : j < 100 ⌈/⌉ step ↔ j * step < 100 := by
  rw [← Nat.not_le, ceilDiv_le_iff_le_mul hstep, Nat.not_le, Nat.mul_comm]

/-- A crop that has just been watered is ripe after exactly as many ticks as it takes its growth to
come to 100, whatever the script does in them, as long as the tile is not watered anew. Up to then
the tile is watered and has grown by the step in every tick. In the last of these ticks growth makes
it ripe, before the command of the tick. Then it is ripe until it is harvested or watered. -/
theorem crops_ripen_on_time {rules : Rules} (hstep : rules.growthStep ≠ 0) (script : Script)
    (world : World) (program : Program) {start place : Nat}
    (hwatered : (stateAfter rules script world program start).1.grid.Bears place .watered 0) :
    let step := rules.growthStep.toNat
    let ripening := 100 ⌈/⌉ step
    let later (j : Nat) : World := (stateAfter rules script world program (start + j)).1
    let succeeds (j : Nat) (command : Command) : Prop :=
      SucceedsAfter rules script world program (start + j) command place
    (∀ j < ripening, (∀ i < j, ¬ succeeds i .water) →
      (later j).grid.Bears place .watered (j * step)) ∧
    ((∀ i < ripening - 1, ¬ succeeds i .water) →
      ((later (ripening - 1)).grow rules.growthStep).grid.Bears place .ripe 0 ∧
      ∀ j, ripening ≤ j →
        (∀ i, ripening - 1 ≤ i → i < j → ¬ succeeds i .water ∧ ¬ succeeds i .harvest) →
          (later j).grid.Bears place .ripe 0) := by
  intro step ripening later succeeds
  have hpos : 0 < step := Nat.pos_of_ne_zero fun hzero => hstep (UInt32.toNat_inj.mp hzero)
  have htime : 0 < ripening := (lt_ceilDiv_iff hpos).mpr (by omega)
  have hlast : (ripening - 1) * step < 100 := (lt_ceilDiv_iff hpos).mp (by omega)
  have hfull : 100 ≤ (ripening - 1) * step + step := by
    have hnot := mt (lt_ceilDiv_iff hpos).mpr (Nat.lt_irrefl ripening)
    have hsum : (ripening - 1 + 1) * step = (ripening - 1) * step + step := Nat.succ_mul _ _
    rw [Nat.sub_add_cancel htime] at hsum
    omega
  refine ⟨fun j hj hfree => bears_watered hwatered ((lt_ceilDiv_iff hpos).mp hj) hfree, ?_⟩
  intro hfree
  have hripe := (bears_watered hwatered hlast hfree).ripen hfull
  refine ⟨hripe, fun j hj hfree' => ?_⟩
  obtain ⟨n, rfl⟩ : ∃ n, j = ripening - 1 + (n + 1) := ⟨j - ripening, by omega⟩
  have hripe' := bears_ripe hripe fun i (hi : i ≤ n) => by
    rw [Nat.add_assoc]
    exact hfree' (ripening - 1 + i) (by omega) (by omega)
  rw [Nat.add_assoc, Nat.add_assoc] at hripe'
  exact hripe'

/-- A step of 30 does not divide 100, so that the fourth tick after the watering brings the crop
from 90 to ripe. Sowing and harvesting, both tried before, did not get in the way. -/
theorem crops_ripen_on_time_in_steps_of_thirty :
    let rules := { Rules.default with growthStep := 30 }
    let script : Script :=
      ⟨#["plant()", "water()", "plant()", "harvest()", "pass()", "left()", "harvest()"]⟩
    let later (n : Nat) : World := (stateAfter rules script rules.freshWorld Program.start n).1
    (later 2).grid.Bears 0 .watered 0 ∧ (later 5).grid.Bears 0 .watered 90 ∧
      ((later 5).grow rules.growthStep).grid.Bears 0 .ripe 0 ∧ (later 6).grid.Bears 0 .ripe 0 := by
  intro rules script later
  have hwatered : (later 2).grid.Bears 0 .watered 0 :=
    ⟨⟨0, 0, .watered, 0⟩, by decide +kernel, rfl, rfl⟩
  have hfree : ∀ i < 3,
      ¬ SucceedsAfter rules script rules.freshWorld Program.start (2 + i) .water 0 := by
    decide +kernel
  have hfree' : ¬ SucceedsAfter rules script rules.freshWorld Program.start 5 .water 0 ∧
      ¬ SucceedsAfter rules script rules.freshWorld Program.start 5 .harvest 0 := by
    decide +kernel
  have htime : 100 ⌈/⌉ rules.growthStep.toNat = 4 := by decide
  obtain ⟨hgrows, hripens⟩ :=
    crops_ripen_on_time (by decide) script rules.freshWorld Program.start hwatered
  rw [htime] at hgrows hripens
  obtain ⟨hripe, hstays⟩ := hripens hfree
  refine ⟨hwatered, hgrows 3 (by decide) hfree, hripe, hstays 4 (by decide) fun i hlow hhigh => ?_⟩
  obtain rfl : i = 3 := by omega
  exact hfree'

end FarmScript
