import FarmScript.Proofs.Farm.Layout
import FarmScript.Proofs.Text.Numerals

/-! # Work in checked arithmetic

The farm is computed with words of fixed width. The namespace `Checked` does the same work with
whole numbers: each sum, product, difference and change of signedness is the true one, and it is
put into its word only if it fits. Where it does not, or where the bot has no tile under it, there
is no result at all.

On a farm in order whose tiles can be counted in a signed word nothing of the kind happens, so that
looking (`holds_eq`) and working (`execute_eq`) in checked arithmetic come to what they come to in
words.
-/

namespace FarmScript
set_option autoImplicit false

namespace Checked
open Command (Reply)

/-! ## Looking and working -/

/-- The index of the tile under the bot, and the tile. -/
def underBot (world : World) : Option (Nat × Tile) :=
  if world.bot.x < world.grid.size ∧ world.bot.y < world.grid.size then do
    let row ← Text.word64? (world.bot.y.toNat * world.grid.size.toNat)
    let i ← Text.word64? (row.toNat + world.bot.x.toNat)
    let tile ← world.grid.tiles[i.toNat]?
    return (i.toNat, tile)
  else none

/-- The world with `change` applied to the tile of an index. -/
def modifyAt (world : World) (i : Nat) (change : Tile → Tile) : World :=
  { world with grid := { world.grid with tiles := world.grid.tiles.modify i change } }

def signed (word : UInt64) : Option Int64 := Text.signed64? word.toNat

def unsigned (word : Int64) : Option UInt64 :=
  if 0 ≤ word.toInt then Text.word64? word.toInt.toNat else none

def ahead (bot : Bot) : Option (Int64 × Int64) := do
  let column ← signed bot.x
  let row ← signed bot.y
  let x ← Text.signed64? (column.toInt + bot.heading.delta.1.toInt)
  let y ← Text.signed64? (row.toInt + bot.heading.delta.2.toInt)
  return (x, y)

/-- Whether a signed position lies on the field; only one without a negative coordinate is read as
unsigned words. -/
def contains (grid : Grid) (x y : Int64) : Option Bool :=
  if 0 ≤ x ∧ 0 ≤ y then do
    let column ← unsigned x
    let row ← unsigned y
    return column < grid.size && row < grid.size
  else some false

/-- What is left of the gold when a cost is paid. -/
def pay (gold cost : UInt32) : Option UInt32 :=
  if cost.toNat ≤ gold.toNat then Text.word32? (gold.toNat - cost.toNat) else none

def goForward (world : World) : Option (World × Reply) := do
  let (x, y) ← ahead world.bot
  if ← contains world.grid x y then
    let column ← unsigned x
    let row ← unsigned y
    return ({ world with bot := { world.bot with x := column, y := row } }, .moved x y)
  else return (world, .wall)

def sow (rules : Rules) (world : World) : Option (World × Reply) := do
  let (i, tile) ← underBot world
  if tile.crop ≠ .empty then return (world, .soilTaken)
  else if world.gold < rules.plantCost then return (world, .tooPoor rules.plantCost)
  else
    let gold ← pay world.gold rules.plantCost
    return ({ modifyAt world i (·.setCrop .planted) with gold := gold }, .sown rules.plantCost)

def irrigate (rules : Rules) (world : World) : Option (World × Reply) :=
  if world.gold < rules.waterCost then some (world, .tooPoor rules.waterCost)
  else do
    let (i, _) ← underBot world
    let gold ← pay world.gold rules.waterCost
    return ({ modifyAt world i (fun tile => { tile with crop := .watered, growth := 0 }) with
      gold := gold }, .watered rules.waterCost)

/-- Gold and harvest are sums that stop at the largest word, so that they always fit. -/
def reap (rules : Rules) (world : World) : Option (World × Reply) := do
  let (i, tile) ← underBot world
  if tile.crop ≠ .ripe then return (world, .nothingRipe)
  else return ({ modifyAt world i (·.setCrop .empty) with
    gold := saturatingAdd world.gold rules.harvestValue
    bot := { world.bot with inventory := saturatingAdd world.bot.inventory 1 } },
    .harvested rules.harvestValue)

def execute (rules : Rules) (world : World) : Command → Option (World × Reply)
  | .forward => goForward world
  | .left => some (Command.turn world.bot.heading.turnLeft world, .turnedLeft)
  | .right => some (Command.turn world.bot.heading.turnRight world, .turnedRight)
  | .plant => sow rules world
  | .water => irrigate rules world
  | .harvest => reap rules world
  | .pass => some (world, .idle)

def holds (world : World) : Condition → Option Bool
  | .literal value => some value
  | .ripe => (underBot world).map fun (_, tile) => tile.crop = .ripe
  | .emptySoil => (underBot world).map fun (_, tile) => tile.crop = .empty
  | .atColumn x => (signed world.bot.x).map fun column => column = x
  | .atRow y => (signed world.bot.y).map fun row => row = y
  | .unknown => some false

/-! ## Words -/

theorem toInt_toInt64 {word : UInt64} (h : word.toNat < 2 ^ 63) :
    word.toInt64.toInt = word.toNat := by
  have hlt : 2 * word.toBitVec.toNat < 2 ^ 64 := by
    rw [UInt64.toNat_toBitVec]
    omega
  exact BitVec.toInt_eq_toNat_of_lt hlt

theorem signed_eq {word : UInt64} (h : word.toNat < 2 ^ 63) : signed word = some word.toInt64 := by
  rw [signed, ← toInt_toInt64 h, Text.signed64?_toInt]

theorem unsigned_eq {word : Int64} (h : 0 ≤ word) : unsigned word = some word.toUInt64 := by
  have hpos : 0 ≤ word.toInt := Int64.le_iff_toInt_le.mp h
  have hvalue : word.toUInt64.toNat = word.toInt.toNat := Int64.toNat_toUInt64_of_le h
  rw [unsigned, if_pos hpos, ← hvalue, Text.word64?_toNat]

theorem toInt_add {a b : Int64} (hlo : -9223372036854775808 ≤ a.toInt + b.toInt)
    (hhi : a.toInt + b.toInt ≤ 9223372036854775807) : (a + b).toInt = a.toInt + b.toInt := by
  rw [Int64.toInt_add]
  exact Int.bmod_eq_of_le (by omega) (by omega)

theorem signed64?_add {a b : Int64} (hlo : -9223372036854775808 ≤ a.toInt + b.toInt)
    (hhi : a.toInt + b.toInt ≤ 9223372036854775807) :
    Text.signed64? (a.toInt + b.toInt) = some (a + b) := by
  rw [← toInt_add hlo hhi, Text.signed64?_toInt]

theorem pay_eq {gold cost : UInt32} (h : cost ≤ gold) : pay gold cost = some (gold - cost) := by
  rw [pay, if_pos (UInt32.le_iff_toNat_le.mp h), ← UInt32.toNat_sub_of_le gold cost h,
    Text.word32?_toNat]

theorem contains_eq (grid : Grid) (x y : Int64) : contains grid x y = some (grid.contains x y) := by
  unfold contains Grid.contains
  split
  · next h => simp [unsigned_eq h.1, unsigned_eq h.2, h.1, h.2]
  · next h =>
    have hnone : (decide (0 ≤ x) && decide (0 ≤ y)) = false := by simpa using h
    simp [hnone]

theorem delta_bounds (heading : Heading) :
    -1 ≤ heading.delta.1.toInt ∧ heading.delta.1.toInt ≤ 1 ∧
      -1 ≤ heading.delta.2.toInt ∧ heading.delta.2.toInt ≤ 1 := by
  cases heading <;> decide

/-! ## On a farm in order -/

section InOrder
variable {size : UInt64} {world : World} (h : world.InOrder size)
  (hsize : size.toNat ^ 2 < 2 ^ 63)
include h hsize

omit hsize in
theorem on_grid : world.bot.x < world.grid.size ∧ world.bot.y < world.grid.size := by
  rw [h.grid.size_eq]
  exact ⟨h.x_lt, h.y_lt⟩

theorem coordinates_lt : world.bot.x.toNat + 1 < 2 ^ 63 ∧ world.bot.y.toNat + 1 < 2 ^ 63 := by
  have hx := UInt64.lt_iff_toNat_lt.mp h.x_lt
  have hy := UInt64.lt_iff_toNat_lt.mp h.y_lt
  have hle : size.toNat ≤ size.toNat ^ 2 := Nat.le_self_pow (by decide) _
  omega

theorem signed_x : signed world.bot.x = some world.bot.column :=
  signed_eq (Nat.lt_of_succ_lt (coordinates_lt h hsize).1)

theorem signed_y : signed world.bot.y = some world.bot.row :=
  signed_eq (Nat.lt_of_succ_lt (coordinates_lt h hsize).2)

theorem ahead_eq : ahead world.bot = some world.bot.ahead := by
  obtain ⟨hx, hy⟩ := coordinates_lt h hsize
  obtain ⟨hleft, hright, hup, hdown⟩ := delta_bounds world.bot.heading
  have hcolumn : world.bot.column.toInt = world.bot.x.toNat := toInt_toInt64 (by omega)
  have hrow : world.bot.row.toInt = world.bot.y.toNat := toInt_toInt64 (by omega)
  have hx' : Text.signed64? (world.bot.column.toInt + world.bot.heading.delta.1.toInt) =
      some world.bot.ahead.1 := signed64?_add (by omega) (by omega)
  have hy' : Text.signed64? (world.bot.row.toInt + world.bot.heading.delta.2.toInt) =
      some world.bot.ahead.2 := signed64?_add (by omega) (by omega)
  simp [ahead, signed_x h hsize, signed_y h hsize, hx', hy']

theorem goForward_eq : goForward world = some (Command.goForward world) := by
  simp only [goForward, ahead_eq h hsize, contains_eq, Command.goForward]
  by_cases hon : world.grid.contains world.bot.ahead.1 world.bot.ahead.2 = true
  · have hpos : 0 ≤ world.bot.ahead.1 ∧ 0 ≤ world.bot.ahead.2 := by
      simp only [Grid.contains, Bool.and_eq_true, decide_eq_true_eq] at hon
      exact hon.1.1
    simp [hon, unsigned_eq hpos.1, unsigned_eq hpos.2]
  · simp [hon]

theorem underBot_eq : ∃ tile, world.cropUnderBot? = some tile.crop ∧
    underBot world = some (world.grid.index world.bot.x world.bot.y, tile) := by
  obtain ⟨tile, htile⟩ := h.grid.exists_get? hsize h.x_lt h.y_lt
  refine ⟨tile, by simp [World.cropUnderBot?, World.tileUnderBot?, htile], ?_⟩
  have hon := on_grid h
  have hindex := h.grid.index_eq hsize h.x_lt h.y_lt
  rw [Grid.index, ← h.grid.size_eq] at hindex
  have hproduct : (world.bot.y * world.grid.size).toNat =
      world.bot.y.toNat * world.grid.size.toNat := by
    -- the product is no larger than the index, and the index is a word
    have hlt := (world.bot.y * world.grid.size + world.bot.x).toNat_lt
    rw [UInt64.toNat_mul]
    exact Nat.mod_eq_of_lt (by omega)
  have hsum : (world.bot.y * world.grid.size + world.bot.x).toNat =
      (world.bot.y * world.grid.size).toNat + world.bot.x.toNat := by
    rw [hproduct]
    exact hindex
  rw [Grid.get?, if_pos hon] at htile
  rw [underBot, if_pos hon, ← hproduct, Text.word64?_toNat, Option.bind_eq_bind, Option.bind_some,
    ← hsum, Text.word64?_toNat, Option.bind_eq_bind, Option.bind_some, ← Grid.index, htile]
  rfl

omit hsize in
/-- The tile that is changed in checked arithmetic is the one that is changed in words. -/
theorem modifyAt_index (change : Tile → Tile) :
    modifyAt world (world.grid.index world.bot.x world.bot.y) change =
      world.modifyUnderBot change := by
  rw [modifyAt, World.modifyUnderBot, Grid.modify, if_pos (on_grid h)]

theorem holds_eq (condition : Condition) :
    holds world condition = some (condition.holds world) := by
  obtain ⟨tile, hcrop, hunder⟩ := underBot_eq h hsize
  cases condition with
  | literal value => rfl
  | ripe => simp [holds, hunder, Condition.holds, hcrop]
  | emptySoil => simp [holds, hunder, Condition.holds, hcrop]
  | atColumn x => rw [holds, signed_x h hsize]; rfl
  | atRow y => rw [holds, signed_y h hsize]; rfl
  | unknown => rfl

theorem execute_eq (rules : Rules) (command : Command) :
    execute rules world command = some (command.execute rules world) := by
  obtain ⟨tile, hcrop, hunder⟩ := underBot_eq h hsize
  cases command with
  | forward => exact goForward_eq h hsize
  | left => rfl
  | right => rfl
  | plant =>
    simp only [execute, sow, hunder, Command.execute, Command.sow, hcrop]
    by_cases htaken : tile.crop ≠ .empty
    · simp [htaken]
    · by_cases hgold : world.gold < rules.plantCost
      · simp [htaken, hgold]
      · simp [htaken, hgold, pay_eq (UInt32.not_lt.mp hgold), modifyAt_index h]
  | water =>
    simp only [execute, irrigate, hunder, Command.execute, Command.irrigate, hcrop]
    by_cases hgold : world.gold < rules.waterCost
    · simp [hgold]
    · simp [hgold, pay_eq (UInt32.not_lt.mp hgold), modifyAt_index h]
  | harvest =>
    simp only [execute, reap, hunder, Command.execute, Command.reap, hcrop]
    by_cases hunripe : tile.crop ≠ .ripe
    · simp [hunripe]
    · simp [hunripe, modifyAt_index h]
  | pass => rfl

end InOrder

end Checked

end FarmScript
