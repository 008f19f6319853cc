import FarmScript.Proofs.Farm.Execution
import FarmScript.Proofs.Farm.Growth
import FarmScript.Play.Level
import Mathlib.Algebra.Group.Nat.Defs

/-! # A farm in order

A field is laid out when its tiles stand row by row, each knowing its place (`Grid.IsLaidOut`), and
in order when these are all its tiles and they grow only while they are watered and not yet ripe
(`Grid.InOrder`); a farm is in order when its field is and the bot stands on it (`World.InOrder`).
Levels start in order (`Level.world_inOrder`), and growth and commands keep
order (`World.InOrder.tick`). On a farm in order whose field is not too large for its tiles to be
counted the bot always finds a tile under it (`cropUnderBot?_ne_none`), so that no command is
refused because the bot stands beside the field.
-/

namespace FarmScript
set_option autoImplicit false

/-! ## Tiles -/

/-- Whether the growth of a tile is below that of a ripe crop, and nothing unless the tile is
watered. -/
def Tile.InOrder (tile : Tile) : Prop :=
  tile.growth.toNat < 100 ∧ (tile.crop ≠ .watered → tile.growth = 0)

namespace Tile

theorem inOrder_of_growth_eq_zero {tile : Tile} (h : tile.growth = 0) : tile.InOrder :=
  ⟨by simp [h], fun _ => h⟩

theorem inOrder_setCrop (tile : Tile) {crop : Crop} (h : crop ≠ .watered) :
    (tile.setCrop crop).InOrder :=
  inOrder_of_growth_eq_zero (by simp [setCrop, h])

theorem InOrder.grow {tile : Tile} (h : tile.InOrder) (step : UInt32) :
    (tile.grow step).InOrder := by
  by_cases hcrop : tile.crop = .watered
  · cases hripens : tile.ripens step with
    | true =>
      rw [grow_of_ripens hripens]
      exact inOrder_setCrop tile (by decide)
    | false =>
      -- a watered tile that does not ripen stays below the growth of a ripe crop
      have hlt := (ripens_eq_false_iff hcrop).mp hripens
      rw [grow_of_unripe hripens hcrop]
      refine ⟨?_, fun hother => absurd hcrop hother⟩
      rw [toNat_saturatingAdd]
      omega
  · rw [grow_of_not_watered hcrop]
    exact h

end Tile

/-! ## Fields -/

/-- Whether the tiles of a field stand row by row, each with its own column and row. -/
def Grid.IsLaidOut (grid : Grid) : Prop :=
  ∀ x < grid.size.toNat, ∀ y < grid.size.toNat, ∃ tile,
    grid.tiles[y * grid.size.toNat + x]? = some tile ∧ tile.x.toNat = x ∧ tile.y.toNat = y

theorem Grid.IsLaidOut.grow {grid : Grid} (h : grid.IsLaidOut) (step : UInt32) :
    (grid.grow step).IsLaidOut := by
  intro x hx y hy
  obtain ⟨tile, htile, hplace⟩ := h x hx y hy
  refine ⟨tile.grow step, by simp [Grid.grow, htile], ?_⟩
  rw [Tile.x_grow, Tile.y_grow]
  exact hplace

theorem Grid.row_add_lt {n x y : Nat} (hx : x < n) (hy : y < n) : y * n + x < n * n := by
  have hrows : (y + 1) * n ≤ n * n := Nat.mul_le_mul_right n hy
  rw [Nat.succ_mul] at hrows
  omega

/-- The index of a position on the field is the true one, as long as the tiles can be counted in a
word. -/
theorem Grid.index_eq {grid : Grid} (hsize : grid.size.toNat ^ 2 < 2 ^ 63) {x y : UInt64}
    (hx : x < grid.size) (hy : y < grid.size) :
    grid.index x y = y.toNat * grid.size.toNat + x.toNat := by
  have hlt := row_add_lt (UInt64.lt_iff_toNat_lt.mp hx) (UInt64.lt_iff_toNat_lt.mp hy)
  rw [Nat.pow_two] at hsize
  rw [Grid.index, UInt64.toNat_add, UInt64.toNat_mul, Nat.mod_add_mod]
  exact Nat.mod_eq_of_lt (by omega)

/-- Whether a field is a square of a size, its tiles row by row, each with its own column and row
and with a growth in order. -/
structure Grid.InOrder (size : UInt64) (grid : Grid) : Prop where
  size_eq : grid.size = size
  count_eq : grid.tiles.size = size.toNat * size.toNat
  tile_at : ∀ x < size.toNat, ∀ y < size.toNat, ∃ tile,
    grid.tiles[y * size.toNat + x]? = some tile ∧ tile.x.toNat = x ∧ tile.y.toNat = y
  growth : ∀ tile ∈ grid.tiles, tile.InOrder

namespace Grid.InOrder
variable {size : UInt64} {grid : Grid}

theorem isLaidOut (h : grid.InOrder size) : grid.IsLaidOut := by
  obtain rfl := h.size_eq
  exact h.tile_at

theorem bare (size : UInt64) : (Grid.bare size).InOrder size where
  size_eq := rfl
  count_eq := by simp [Grid.bare]
  tile_at x hx y hy := by
    have hmod : (y * size.toNat + x) % size.toNat = x := by
      rw [Nat.mul_comm, Nat.mul_add_mod, Nat.mod_eq_of_lt hx]
    have hdiv : (y * size.toNat + x) / size.toNat = y := by
      rw [Nat.mul_comm, Nat.mul_add_div (by omega), Nat.div_eq_of_lt hx, Nat.add_zero]
    have hfits : size.toNat < UInt64.size := size.toNat_lt
    refine ⟨Tile.bare (UInt64.ofNat x) (UInt64.ofNat y), ?_, ?_, ?_⟩
    · simp [Grid.bare, row_add_lt hx hy, hmod, hdiv]
    · exact UInt64.toNat_ofNat_of_lt' (by omega)
    · exact UInt64.toNat_ofNat_of_lt' (by omega)
  growth := by
    intro tile hmem
    obtain ⟨i, rfl⟩ := Array.mem_ofFn.mp hmem
    exact Tile.inOrder_of_growth_eq_zero rfl

theorem modify (h : grid.InOrder size) (x y : UInt64) {change : Tile → Tile}
    (hx : ∀ tile, (change tile).x = tile.x) (hy : ∀ tile, (change tile).y = tile.y)
    (hchange : ∀ tile, (change tile).InOrder) : (grid.modify x y change).InOrder size := by
  unfold Grid.modify
  split
  · refine ⟨h.size_eq, by simpa using h.count_eq, ?_, ?_⟩
    · intro x' hx' y' hy'
      obtain ⟨tile, htile, hplace⟩ := h.tile_at x' hx' y' hy'
      simp only [Array.getElem?_modify, htile, Option.map_some]
      split
      · exact ⟨change tile, rfl, by rw [hx, hy]; exact hplace⟩
      · exact ⟨tile, rfl, hplace⟩
    · intro tile hmem
      obtain ⟨i, hi⟩ := Array.mem_iff_getElem?.mp hmem
      simp only [Array.getElem?_modify] at hi
      split at hi
      · obtain ⟨old, -, rfl⟩ := Option.map_eq_some_iff.mp hi
        exact hchange old
      · exact h.growth tile (Array.mem_of_getElem? hi)
  · exact h

theorem setCrop (h : grid.InOrder size) (x y : UInt64) {crop : Crop} (hcrop : crop ≠ .watered) :
    (grid.setCrop x y crop).InOrder size :=
  h.modify x y (fun _ => rfl) (fun _ => rfl) fun tile => Tile.inOrder_setCrop tile hcrop

theorem grow (h : grid.InOrder size) (step : UInt32) : (grid.grow step).InOrder size where
  size_eq := h.size_eq
  count_eq := by simpa [Grid.grow] using h.count_eq
  tile_at := by
    obtain rfl := h.size_eq
    exact h.isLaidOut.grow step
  growth := by
    intro tile hmem
    obtain ⟨old, hold, rfl⟩ := Array.mem_map.mp hmem
    exact (h.growth old hold).grow step

theorem index_eq (h : grid.InOrder size) (hsize : size.toNat ^ 2 < 2 ^ 63) {x y : UInt64}
    (hx : x < size) (hy : y < size) : grid.index x y = y.toNat * size.toNat + x.toNat := by
  obtain rfl := h.size_eq
  exact Grid.index_eq hsize hx hy

/-- Every position on a field in order has a tile, as long as the tiles can be counted in a word. -/
theorem exists_get? (h : grid.InOrder size) (hsize : size.toNat ^ 2 < 2 ^ 63) {x y : UInt64}
    (hx : x < size) (hy : y < size) : ∃ tile, grid.get? x y = some tile := by
  have hx' := UInt64.lt_iff_toNat_lt.mp hx
  have hy' := UInt64.lt_iff_toNat_lt.mp hy
  obtain ⟨tile, htile, -⟩ := h.tile_at x.toNat hx' y.toNat hy'
  refine ⟨tile, ?_⟩
  rw [Grid.get?, h.index_eq hsize hx hy, h.size_eq, if_pos ⟨hx, hy⟩, htile]

end Grid.InOrder

/-! ## Farms -/

/-- Whether a farm has its field in order and the bot on it. -/
structure World.InOrder (size : UInt64) (world : World) : Prop where
  grid : world.grid.InOrder size
  x_lt : world.bot.x < size
  y_lt : world.bot.y < size

namespace World.InOrder
variable {size : UInt64} {world : World}

theorem cropUnderBot?_ne_none (h : world.InOrder size) (hsize : size.toNat ^ 2 < 2 ^ 63) :
    world.cropUnderBot? ≠ none := by
  obtain ⟨tile, htile⟩ := h.grid.exists_get? hsize h.x_lt h.y_lt
  simp [cropUnderBot?, tileUnderBot?, htile]

theorem grow (h : world.InOrder size) (step : UInt32) : (world.grow step).InOrder size :=
  ⟨h.grid.grow step, h.x_lt, h.y_lt⟩

theorem of_case {rules : Rules} {command : Command} {after : World} {reply : Command.Reply}
    (h : world.InOrder size) (hcase : Command.Case rules world command after reply) :
    after.InOrder size := by
  cases hcase with
  | moved hon =>
    -- the bot goes only where the field has looked, as unsigned words, that it contains the place
    simp only [Grid.contains, h.grid.size_eq, Bool.and_eq_true, decide_eq_true_eq] at hon
    exact ⟨h.grid, hon.1.2, hon.2⟩
  | turnedLeft => exact ⟨h.grid, h.x_lt, h.y_lt⟩
  | turnedRight => exact ⟨h.grid, h.x_lt, h.y_lt⟩
  | sown hcrop hgold =>
    refine ⟨h.grid.modify _ _ (fun _ => rfl) (fun _ => rfl) ?_, h.x_lt, h.y_lt⟩
    exact fun tile => Tile.inOrder_setCrop tile (by simp)
  | watered hcrop hgold =>
    refine ⟨h.grid.modify _ _ (fun _ => rfl) (fun _ => rfl) ?_, h.x_lt, h.y_lt⟩
    exact fun tile => Tile.inOrder_of_growth_eq_zero rfl
  | harvested hcrop =>
    refine ⟨h.grid.modify _ _ (fun _ => rfl) (fun _ => rfl) ?_, h.x_lt, h.y_lt⟩
    exact fun tile => Tile.inOrder_setCrop tile (by simp)
  | unchanged hreply hoff => exact h

theorem tick (rules : Rules) (script : Script) (program : Program) (h : world.InOrder size) :
    (FarmScript.tick rules script world program).world.InOrder size := by
  have hgrown := h.grow rules.growthStep
  cases hcommand : program.command? script with
  | none => rwa [(tick_of_no_command rules world hcommand).1]
  | some command =>
    rw [(tick_of_command rules world hcommand).1]
    exact hgrown.of_case (Command.execute_case rules _ command)

end World.InOrder

/-! ## No command beside the field -/

theorem Command.Reply.eq_offFarm_of_error? {reply : Command.Reply}
    (h : reply.error? = some "The bot is not on the farm") : reply = .offFarm := by
  cases reply with
  | offFarm => rfl
  | wall => simp [error?] at h
  | tooPoor cost =>
    -- the two messages differ in their first letter, whatever the cost
    have hhead := congrArg (fun text => text.toList.head?) (Option.some.inj h)
    simp [String.toList_append] at hhead
  | _ => simp [error?] at h

theorem Command.Case.cropUnderBot?_eq_none {rules : Rules} {world after : World}
    {command : Command} (h : Command.Case rules world command after .offFarm) :
    world.cropUnderBot? = none := by
  cases h with
  | unchanged hreply hoff => exact hoff rfl

/-- On a farm in order no tick reports that the bot stands beside the field. -/
theorem tick_error_ne_offFarm {size : UInt64} {world : World} (rules : Rules) (script : Script)
    (program : Program) (h : world.InOrder size) (hsize : size.toNat ^ 2 < 2 ^ 63) :
    (tick rules script world program).error ≠ some "The bot is not on the farm" := by
  cases hcommand : program.command? script with
  | none =>
    rw [(tick_of_no_command rules world hcommand).2]
    simp
  | some command =>
    rw [(tick_of_command rules world hcommand).2.2]
    intro herror
    have hcase := Command.execute_case rules (world.grow rules.growthStep) command
    rw [Command.Reply.eq_offFarm_of_error? herror] at hcase
    exact (h.grow rules.growthStep).cropUnderBot?_ne_none hsize hcase.cropUnderBot?_eq_none

theorem Level.world_inOrder (level : Level) {rules : Rules} (hsize : rules.gridSize ≠ 0) :
    (level.world rules).InOrder rules.gridSize := by
  have hpos : 0 < rules.gridSize := UInt64.pos_iff_ne_zero.mpr hsize
  refine ⟨?_, hpos, hpos⟩
  have hgrid : (level.grid rules).InOrder rules.gridSize := by
    unfold Level.grid
    apply List.foldlRecOn
    · exact .bare rules.gridSize
    · intro grid hgrid place _
      exact hgrid.setCrop place.1 place.2 (by simp)
  exact hgrid

end FarmScript
