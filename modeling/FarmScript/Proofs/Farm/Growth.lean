import FarmScript.Farm.Grid
import Mathlib.Data.List.Basic

/-! # Growing in parts

A tile that grows keeps its column and its row, and its crop unless this ripens (`Tile.crop_grow`).
Growing twice comes to growing once by the sum of both steps, held at the largest word: a crop
ripens in the second part if it would have in the whole and has not in the first
(`Tile.ripens_grow`), and a crop that does not ripen adds both steps to its growth
(`Tile.grow_grow`). So the tiles of a field grow alike in one part and in two, and as no crop
ripens twice, the counts of the parts add up (`Grid.ripened_add`).
-/

namespace FarmScript
set_option autoImplicit false

theorem saturatingAdd_assoc (a b c : UInt32) :
    saturatingAdd (saturatingAdd a b) c = saturatingAdd a (saturatingAdd b c) := by
  rw [← UInt32.toNat_inj]
  simp only [toNat_saturatingAdd]
  omega

theorem saturatingAdd_eq (a b : UInt32) :
    saturatingAdd a b = UInt32.ofNat (min (a.toNat + b.toNat) 4294967295) := by
  rw [← toNat_saturatingAdd, UInt32.ofNat_toNat]

/-! ## Tiles -/

namespace Tile

theorem x_grow (step : UInt32) (tile : Tile) : (tile.grow step).x = tile.x := by
  unfold grow
  repeat' split
  all_goals rfl

theorem y_grow (step : UInt32) (tile : Tile) : (tile.grow step).y = tile.y := by
  unfold grow
  repeat' split
  all_goals rfl

theorem crop_grow (step : UInt32) (tile : Tile) :
    (tile.grow step).crop = if tile.ripens step = true then .ripe else tile.crop := by
  unfold grow
  split
  · rfl
  · split <;> rfl

theorem toNat_ripeAt : ripeAt.toNat = 100 := rfl

theorem ripens_eq_true_iff {step : UInt32} {tile : Tile} :
    tile.ripens step = true ↔
      tile.crop = .watered ∧ 100 ≤ tile.growth.toNat + step.toNat := by
  simp only [ripens, Bool.and_eq_true, decide_eq_true_eq, UInt32.le_iff_toNat_le,
    toNat_saturatingAdd, toNat_ripeAt]
  refine and_congr_right fun _ => ?_
  omega

theorem ripens_eq_false_iff {step : UInt32} {tile : Tile} (hcrop : tile.crop = .watered) :
    tile.ripens step = false ↔ tile.growth.toNat + step.toNat < 100 := by
  rw [← Bool.not_eq_true, ripens_eq_true_iff, ← Nat.not_le]
  exact not_congr (and_iff_right hcrop)

theorem ripens_iff_crop_grow {step : UInt32} {tile : Tile} :
    tile.ripens step = true ↔ tile.crop = .watered ∧ (tile.grow step).crop = .ripe := by
  rw [crop_grow]
  constructor
  · intro h
    exact ⟨(ripens_eq_true_iff.mp h).1, if_pos h⟩
  · rintro ⟨hwatered, hripe⟩
    by_contra h
    rw [if_neg h, hwatered] at hripe
    cases hripe

theorem grow_of_ripens {step : UInt32} {tile : Tile} (h : tile.ripens step = true) :
    tile.grow step = tile.setCrop .ripe := by
  rw [grow, if_pos h]

theorem grow_of_unripe {step : UInt32} {tile : Tile} (h : tile.ripens step = false)
    (hcrop : tile.crop = .watered) :
    tile.grow step = { tile with growth := saturatingAdd tile.growth step } := by
  rw [grow, h, if_neg Bool.false_ne_true, if_pos hcrop]

theorem ripens_of_not_watered {step : UInt32} {tile : Tile} (h : tile.crop ≠ .watered) :
    tile.ripens step = false := by
  simp [ripens, h]

theorem grow_of_not_watered {step : UInt32} {tile : Tile} (h : tile.crop ≠ .watered) :
    tile.grow step = tile := by
  simp [grow, ripens_of_not_watered h, h]

theorem ripens_saturatingAdd {a : UInt32} (b : UInt32) {tile : Tile} (h : tile.ripens a = true) :
    tile.ripens (saturatingAdd a b) = true := by
  obtain ⟨hcrop, hle⟩ := ripens_eq_true_iff.mp h
  have := a.toNat_lt
  rw [ripens_eq_true_iff, toNat_saturatingAdd]
  exact ⟨hcrop, by omega⟩

/-- What is left of the growth after the first part is judged like the whole. -/
theorem ripens_growth (a b : UInt32) (tile : Tile) :
    ({ tile with growth := saturatingAdd tile.growth a } : Tile).ripens b =
      tile.ripens (saturatingAdd a b) := by
  simp only [ripens, saturatingAdd_assoc]

theorem ripens_grow (a b : UInt32) (tile : Tile) :
    (tile.grow a).ripens b = (tile.ripens (saturatingAdd a b) && !tile.ripens a) := by
  by_cases hcrop : tile.crop = .watered
  · cases hfirst : tile.ripens a with
    | true =>
      rw [grow_of_ripens hfirst, Bool.not_true, Bool.and_false]
      exact ripens_of_not_watered (by simp [setCrop])
    | false => rw [grow_of_unripe hfirst hcrop, ripens_growth, Bool.not_false, Bool.and_true]
  · rw [grow_of_not_watered hcrop, ripens_of_not_watered hcrop, ripens_of_not_watered hcrop,
      Bool.false_and]

theorem grow_grow (a b : UInt32) (tile : Tile) :
    (tile.grow a).grow b = tile.grow (saturatingAdd a b) := by
  by_cases hcrop : tile.crop = .watered
  · cases hfirst : tile.ripens a with
    | true =>
      -- a crop that is ripe after the first part has no growth left to add to
      rw [grow_of_ripens hfirst, grow_of_not_watered (by simp [setCrop]),
        grow_of_ripens (ripens_saturatingAdd b hfirst)]
    | false =>
      rw [grow_of_unripe hfirst hcrop]
      cases hwhole : tile.ripens (saturatingAdd a b) with
      | true =>
        have hrest := (ripens_growth a b tile).trans hwhole
        rw [grow_of_ripens hrest, grow_of_ripens hwhole]
        rfl
      | false =>
        have hrest := (ripens_growth a b tile).trans hwhole
        rw [grow_of_unripe hrest hcrop, grow_of_unripe hwhole hcrop, saturatingAdd_assoc]
  · rw [grow_of_not_watered hcrop, grow_of_not_watered hcrop, grow_of_not_watered hcrop]

end Tile

/-! ## Fields -/

namespace Grid

/-- The tiles of a field, each with the tile that stands in its place later. -/
def changes (before after : Grid) : List (Tile × Tile) :=
  before.tiles.toList.zip after.tiles.toList

theorem changes_grow (step : UInt32) (grid : Grid) :
    grid.changes (grid.grow step) = grid.tiles.toList.map fun tile => (tile, tile.grow step) := by
  rw [changes, Grid.grow, Array.toList_map, List.map_prod_left_eq_zip]

theorem grow_grow (a b : UInt32) (grid : Grid) :
    (grid.grow a).grow b = grid.grow (saturatingAdd a b) := by
  simp [grow, Function.comp_def, Tile.grow_grow]

theorem ripened_eq_countP (step : UInt32) (grid : Grid) :
    grid.ripened step =
      (grid.changes (grid.grow step)).countP fun change =>
        change.1.crop = .watered ∧ change.2.crop = .ripe := by
  rw [changes_grow, List.countP_map, ripened, ← Array.countP_toList]
  refine List.countP_congr fun tile _ => ?_
  simp [Tile.ripens_iff_crop_grow]

theorem ripened_add (a b : UInt32) (grid : Grid) :
    grid.ripened a + (grid.grow a).ripened b = grid.ripened (saturatingAdd a b) := by
  have hfirst : (fun tile : Tile => tile.ripens (saturatingAdd a b) && tile.ripens a) =
      Tile.ripens a := by
    funext tile
    cases h : tile.ripens a with
    | true => rw [Tile.ripens_saturatingAdd b h, Bool.and_self]
    | false => rw [Bool.and_false]
  have hsecond : Tile.ripens b ∘ Tile.grow a =
      fun tile => tile.ripens (saturatingAdd a b) && !tile.ripens a :=
    funext (Tile.ripens_grow a b)
  simp only [ripened, grow, ← Array.countP_toList, Array.toList_map, List.countP_map]
  rw [List.countP_eq_countP_filter_add _ (Tile.ripens (saturatingAdd a b)) (Tile.ripens a),
    List.countP_filter, List.countP_filter, hfirst, hsecond]

end Grid

/-- Growing in two parts leaves the field as growing once does by the sum of the steps, or by the
largest word if the sum does not fit, and as many crops ripen in the two parts as in one. Each time
the count is that of the tiles whose crop goes from watered to ripe; no other tile changes its crop,
and none its column or row. -/
theorem growth_adds_up (grid : Grid) (a b : UInt32) :
    let whole := UInt32.ofNat (min (a.toNat + b.toNat) 4294967295)
    (grid.grow a).grow b = grid.grow whole ∧
      grid.ripened a + (grid.grow a).ripened b = grid.ripened whole ∧
      ∀ step : UInt32,
        let changes := grid.changes (grid.grow step)
        (grid.grow step).size = grid.size ∧
          (grid.grow step).tiles.size = grid.tiles.size ∧
          grid.ripened step = changes.countP (fun change =>
            change.1.crop = .watered ∧ change.2.crop = .ripe) ∧
          ∀ change ∈ changes, change.2.x = change.1.x ∧ change.2.y = change.1.y ∧
            (change.2.crop = change.1.crop ∨
              change.1.crop = .watered ∧ change.2.crop = .ripe) := by
  intro whole
  have hwhole : whole = saturatingAdd a b := (saturatingAdd_eq a b).symm
  rw [hwhole]
  refine ⟨Grid.grow_grow a b grid, Grid.ripened_add a b grid, fun step => ?_⟩
  intro changes
  have hchanges : changes = grid.tiles.toList.map fun tile => (tile, tile.grow step) :=
    Grid.changes_grow step grid
  refine ⟨rfl, ?_, Grid.ripened_eq_countP step grid, fun change hmem => ?_⟩
  · simp [Grid.grow]
  · rw [hchanges] at hmem
    obtain ⟨tile, -, rfl⟩ := List.mem_map.mp hmem
    refine ⟨tile.x_grow step, tile.y_grow step, ?_⟩
    cases hripens : tile.ripens step with
    | true => exact .inr (Tile.ripens_iff_crop_grow.mp hripens)
    | false =>
      rw [Tile.crop_grow, hripens]
      exact .inl rfl

end FarmScript
