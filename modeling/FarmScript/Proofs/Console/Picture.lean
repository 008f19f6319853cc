import FarmScript.Console.Picture
import FarmScript.Proofs.Farm.Layout
import FarmScript.Proofs.Text.Lines
import FarmScript.Proofs.Text.Numerals

/-! # What a picture shows

The picture of a square field has one line for each row (`World.splitLines_picture`), and a line
begins with one character for each tile of the row: the arrow of the bot where it stands, elsewhere
the mark of the crop (`World.getElem?_glyphs`). As the arrows differ from each other and from the
marks, the picture tells where the bot stands and where it looks; the notes beside the first two
rows tell the gold and the harvest. So two farms with the same picture differ in nothing but the
crop under the bot and how far the crops have grown.
-/

namespace FarmScript
set_option autoImplicit false

/-! ## Characters -/

theorem Crop.glyph_injective : Function.Injective Crop.glyph := by
  intro crop crop' h
  cases crop <;> cases crop' <;> first | rfl | exact absurd h (by decide)

theorem Heading.glyph_injective : Function.Injective Heading.glyph := by
  intro heading heading' h
  cases heading <;> cases heading' <;> first | rfl | exact absurd h (by decide)

theorem Heading.glyph_ne (heading : Heading) (crop : Crop) : heading.glyph ≠ crop.glyph := by
  cases heading <;> cases crop <;> decide

/-! ## Rows -/

/-- Whether a field is laid out and has no tiles besides. -/
structure Grid.IsSquare (grid : Grid) : Prop where
  isLaidOut : grid.IsLaidOut
  count_eq : grid.tiles.size = grid.size.toNat * grid.size.toNat

namespace Grid

theorem InOrder.isSquare {size : UInt64} {grid : Grid} (h : grid.InOrder size) : grid.IsSquare := by
  obtain rfl := h.size_eq
  exact ⟨h.isLaidOut, h.count_eq⟩

/-- The crop in a column and a row of the field. -/
def cropIn? (grid : Grid) (x y : Nat) : Option Crop :=
  grid.tiles[y * grid.size.toNat + x]?.map (·.crop)

theorem cut_eq {α : Type} (width : Nat) {items : List α} {count : Nat}
    (h : items.length = count * (width + 1)) :
    cut width items =
      (List.range count).map fun y => (items.drop (y * (width + 1))).take (width + 1) := by
  induction count generalizing items with
  | zero =>
    rw [Nat.zero_mul, List.length_eq_zero_iff] at h
    rw [h, cut]
    rfl
  | succ count ih =>
    cases items with
    | nil =>
      rw [List.length_nil, Nat.succ_mul] at h
      omega
    | cons item rest =>
      have hrest : (rest.drop width).length = count * (width + 1) := by
        rw [List.length_cons, Nat.succ_mul] at h
        rw [List.length_drop]
        omega
      rw [cut, ih hrest, List.range_succ_eq_map, List.map_cons, List.map_map]
      congr 1
      · simp
      · refine List.map_congr_left fun y _ => ?_
        have hdrop : (y + 1) * (width + 1) = width + y * (width + 1) + 1 := by
          rw [Nat.succ_mul]
          omega
        simp [hdrop]

theorem IsSquare.rows_eq {grid : Grid} (h : grid.IsSquare) :
    grid.rows = (List.range grid.size.toNat).map fun y =>
      (grid.tiles.toList.drop (y * grid.size.toNat)).take grid.size.toNat := by
  have hcount : grid.tiles.toList.length = grid.size.toNat * grid.size.toNat :=
    Array.length_toList.trans h.count_eq
  unfold rows
  cases hsize : grid.size.toNat with
  | zero =>
    rw [hsize] at hcount
    rw [List.length_eq_zero_iff.mp hcount, cut]
    rfl
  | succ width =>
    rw [hsize] at hcount
    exact cut_eq width hcount

end Grid

/-! ## Lines -/

theorem mapIdx_map_range {α β : Type} (change : Nat → α → β) (item : Nat → α) (count : Nat) :
    ((List.range count).map item).mapIdx change =
      (List.range count).map fun i => change i (item i) := by
  apply List.ext_getElem
  · simp
  · intro i _ _
    simp

namespace World

/-- Whether the bot stands in a column and a row. -/
def BotAt (world : World) (x y : Nat) : Prop := world.bot.x.toNat = x ∧ world.bot.y.toNat = y

instance (world : World) (x y : Nat) : Decidable (world.BotAt x y) :=
  inferInstanceAs (Decidable (_ ∧ _))

/-- The characters of the tiles in a row. -/
def glyphs (world : World) (y : Nat) : List Char :=
  ((world.grid.tiles.toList.drop (y * world.grid.size.toNat)).take world.grid.size.toNat).map
    world.glyph

/-- The lines of the picture of a square field. -/
def lines (world : World) : List (List Char) :=
  (List.range world.grid.size.toNat).map fun y => world.glyphs y ++ (world.note y).toList

variable {world : World}

theorem toList_picture (h : world.grid.IsSquare) :
    world.picture.toList = world.lines.flatMap (· ++ ['\n']) := by
  rw [picture, lines, h.rows_eq, String.toList_join, mapIdx_map_range, List.flatMap_map,
    List.flatMap_map]
  refine List.flatMap_congr fun y _ => ?_
  simp [pictureLine, glyphs]

theorem feed_not_mem_glyphs (y : Nat) : '\n' ∉ world.glyphs y := by
  intro hmem
  obtain ⟨tile, -, hglyph⟩ := List.mem_map.mp hmem
  unfold glyph at hglyph
  split at hglyph
  · cases hheading : world.bot.heading <;> rw [hheading] at hglyph <;>
      exact absurd hglyph (by decide)
  · cases hcrop : tile.crop <;> rw [hcrop] at hglyph <;> exact absurd hglyph (by decide)

theorem note_zero (world : World) :
    world.note 0 = "   gold: " ++ Text.numeral world.gold.toNat ++ " G" := rfl

theorem note_one (world : World) :
    world.note 1 = "   harvested: " ++ Text.numeral world.bot.inventory.toNat := rfl

theorem note_add_two (world : World) (y : Nat) : world.note (y + 2) = "" := rfl

theorem feed_not_mem_note (y : Nat) : '\n' ∉ (world.note y).toList := by
  have hnumeral (n : Nat) : '\n' ∉ (Text.numeral n).toList := by
    rw [Text.numeral, String.toList_ofList]
    exact fun hmem => absurd (Text.isDigit_of_mem_decimal hmem) (by decide)
  match y with
  | 0 => simp [note_zero, hnumeral]
  | 1 => simp [note_one, hnumeral]
  | y + 2 => simp [note_add_two]

theorem splitLines_picture (h : world.grid.IsSquare) :
    Text.splitLines world.picture.toList = world.lines ++ [[]] := by
  rw [toList_picture h]
  refine Text.splitLines_flatMap fun line hline => ?_
  obtain ⟨y, -, rfl⟩ := List.mem_map.mp hline
  rw [List.mem_append, not_or]
  exact ⟨feed_not_mem_glyphs y, feed_not_mem_note y⟩

theorem getElem?_lines {y : Nat} (hy : y < world.grid.size.toNat) :
    world.lines[y]? = some (world.glyphs y ++ (world.note y).toList) := by
  simp [lines, hy]

theorem length_glyphs (h : world.grid.IsSquare) {y : Nat} (hy : y < world.grid.size.toNat) :
    (world.glyphs y).length = world.grid.size.toNat := by
  have hrow : (y + 1) * world.grid.size.toNat ≤ world.grid.tiles.size := by
    rw [h.count_eq]
    exact Nat.mul_le_mul_right _ hy
  rw [Nat.succ_mul] at hrow
  simp only [glyphs, List.length_map, List.length_take, List.length_drop, Array.length_toList]
  omega

theorem getElem?_glyphs (h : world.grid.IsSquare) {x y : Nat} (hx : x < world.grid.size.toNat)
    (hy : y < world.grid.size.toNat) : ∃ crop, world.grid.cropIn? x y = some crop ∧
      (world.glyphs y)[x]? =
        some (if world.BotAt x y then world.bot.heading.glyph else crop.glyph) := by
  obtain ⟨tile, htile, rfl, rfl⟩ := h.isLaidOut x hx y hy
  refine ⟨tile.crop, by rw [Grid.cropIn?, htile]; rfl, ?_⟩
  have hplace : world.BotAt tile.x.toNat tile.y.toNat ↔
      tile.x = world.bot.x ∧ tile.y = world.bot.y := by
    rw [BotAt, UInt64.toNat_inj, UInt64.toNat_inj, eq_comm, eq_comm (a := world.bot.y)]
  simp only [glyphs, List.getElem?_map, List.getElem?_take, if_pos hx, List.getElem?_drop,
    Array.getElem?_toList, htile, Option.map_some, glyph, hplace]

theorem exists_row (h : world.grid.IsSquare) {x y : Nat} (hx : x < world.grid.size.toNat)
    (hy : y < world.grid.size.toNat) : ∃ row, world.lines[y]? = some row ∧
      ∃ c, row[x]? = some c ∧ (c = world.bot.heading.glyph ↔ world.BotAt x y) ∧
        (¬ world.BotAt x y → ∃ crop, world.grid.cropIn? x y = some crop ∧ c = crop.glyph) := by
  obtain ⟨crop, hcrop, hglyph⟩ := getElem?_glyphs h hx hy
  have hlt : x < (world.glyphs y).length := (length_glyphs h hy).symm ▸ hx
  refine ⟨_, getElem?_lines hy, _, (List.getElem?_append_left hlt).trans hglyph, ?_⟩
  by_cases hbot : world.BotAt x y
  · rw [if_pos hbot]
    exact ⟨iff_of_true rfl hbot, fun hnot => absurd hbot hnot⟩
  · rw [if_neg hbot]
    exact ⟨iff_of_false (world.bot.heading.glyph_ne crop).symm hbot, fun _ => ⟨crop, hcrop, rfl⟩⟩

end World

/-! ## Two farms with one picture -/

attribute [ext] Bot

namespace World

section Alike
variable {world other : World}

theorem lines_eq_of_picture_eq (h : world.grid.IsSquare) (h' : other.grid.IsSquare)
    (heq : world.picture = other.picture) : world.lines = other.lines := by
  have hlines := splitLines_picture h
  rw [heq, splitLines_picture h'] at hlines
  exact (List.append_cancel_right hlines).symm

theorem size_eq_of_lines_eq (heq : world.lines = other.lines) :
    world.grid.size = other.grid.size := by
  have hlength := congrArg List.length heq
  simpa [lines, UInt64.toNat_inj] using hlength

theorem line_eq_of_lines_eq (h : world.grid.IsSquare) (h' : other.grid.IsSquare)
    (heq : world.lines = other.lines) {y : Nat} (hy : y < world.grid.size.toNat) :
    world.glyphs y = other.glyphs y ∧ world.note y = other.note y := by
  have hsize := size_eq_of_lines_eq heq
  have hy' : y < other.grid.size.toNat := hsize ▸ hy
  have hline := getElem?_lines hy
  rw [heq, getElem?_lines hy', Option.some.injEq] at hline
  have hlength : (other.glyphs y).length = (world.glyphs y).length := by
    rw [length_glyphs h hy, length_glyphs h' hy', hsize]
  obtain ⟨hglyphs, hnote⟩ := List.append_inj hline hlength
  exact ⟨hglyphs.symm, (String.toList_inj.mp hnote).symm⟩

theorem gold_eq_of_note_eq (h : world.note 0 = other.note 0) : world.gold = other.gold := by
  have hnumeral : Text.numeral world.gold.toNat = Text.numeral other.gold.toNat := by
    simpa [note_zero] using h
  exact UInt32.toNat_inj.mp (Text.numeral_injective hnumeral)

theorem inventory_eq_of_note_eq (h : world.note 1 = other.note 1) :
    world.bot.inventory = other.bot.inventory := by
  have hnumeral :
      Text.numeral world.bot.inventory.toNat = Text.numeral other.bot.inventory.toNat := by
    simpa [note_one] using h
  exact UInt32.toNat_inj.mp (Text.numeral_injective hnumeral)

variable (h : world.grid.IsSquare) (h' : other.grid.IsSquare) (heq : world.lines = other.lines)
include h h' heq

/-- In each place both pictures show their bot, looking the same way, or both the same crop. -/
theorem alike_at {x y : Nat} (hx : x < world.grid.size.toNat) (hy : y < world.grid.size.toNat) :
    (world.BotAt x y ∧ other.BotAt x y ∧ world.bot.heading = other.bot.heading) ∨
      (¬ world.BotAt x y ∧ world.grid.cropIn? x y = other.grid.cropIn? x y) := by
  have hsize := size_eq_of_lines_eq heq
  obtain ⟨crop, hcrop, hglyph⟩ := getElem?_glyphs h hx hy
  obtain ⟨crop', hcrop', hglyph'⟩ := getElem?_glyphs h' (hsize ▸ hx) (hsize ▸ hy)
  rw [(line_eq_of_lines_eq h h' heq hy).1, hglyph', Option.some.injEq] at hglyph
  by_cases hbot : world.BotAt x y <;> by_cases hbot' : other.BotAt x y
  · rw [if_pos hbot, if_pos hbot'] at hglyph
    exact .inl ⟨hbot, hbot', (Heading.glyph_injective hglyph).symm⟩
  · rw [if_pos hbot, if_neg hbot'] at hglyph
    exact absurd hglyph.symm (world.bot.heading.glyph_ne crop')
  · rw [if_neg hbot, if_pos hbot'] at hglyph
    exact absurd hglyph (other.bot.heading.glyph_ne crop)
  · rw [if_neg hbot, if_neg hbot'] at hglyph
    exact .inr ⟨hbot, by rw [hcrop, hcrop', Crop.glyph_injective hglyph]⟩

/-- The arrow stands in the place of the one bot, so that the other is there too. -/
theorem bot_eq_of_lines_eq (hsize : 1 < world.grid.size.toNat)
    (hx : world.bot.x < world.grid.size) (hy : world.bot.y < world.grid.size) :
    world.bot = other.bot := by
  have hinventory := inventory_eq_of_note_eq (line_eq_of_lines_eq h h' heq hsize).2
  rcases alike_at h h' heq (UInt64.lt_iff_toNat_lt.mp hx) (UInt64.lt_iff_toNat_lt.mp hy) with
    ⟨-, ⟨hx', hy'⟩, hheading⟩ | ⟨hnot, -⟩
  · exact Bot.ext (UInt64.toNat_inj.mp hx').symm (UInt64.toNat_inj.mp hy').symm hheading hinventory
  · exact absurd ⟨rfl, rfl⟩ hnot

end Alike

end World

/-- The picture of a square field has one line for each row and nothing after them. A line begins
with one character for each column: where the bot stands, and nowhere else, this is its arrow, and
elsewhere it is the mark of the crop. If the field is at least two tiles wide with the bot on it,
any farm with the same picture has a field of the same size, its bot stands in the same place, looks
the same way and has harvested the same, the gold is the same, and so are the crops of all tiles but
the one under the bot. -/
theorem picture_tells_farm {world : World} (hsquare : world.grid.IsSquare) :
    (∃ lines : List (List Char), world.picture.toList.splitOn '\n' = lines ++ [[]] ∧
      lines.length = world.grid.size.toNat ∧
      ∀ x < world.grid.size.toNat, ∀ y < world.grid.size.toNat,
        ∃ row, lines[y]? = some row ∧ ∃ c, row[x]? = some c ∧
          (c = world.bot.heading.glyph ↔ world.BotAt x y) ∧
          (¬ world.BotAt x y → ∃ crop, world.grid.cropIn? x y = some crop ∧ c = crop.glyph)) ∧
    ∀ other : World, other.grid.IsSquare → 2 ≤ world.grid.size →
      world.bot.x < world.grid.size → world.bot.y < world.grid.size →
      world.picture = other.picture →
        world.grid.size = other.grid.size ∧ world.bot = other.bot ∧ world.gold = other.gold ∧
          ∀ x < world.grid.size.toNat, ∀ y < world.grid.size.toNat, ¬ world.BotAt x y →
            world.grid.cropIn? x y = other.grid.cropIn? x y := by
  constructor
  · refine ⟨world.lines, ?_, by simp [World.lines], fun x hx y hy => World.exists_row hsquare hx hy⟩
    rw [← Text.splitLines_eq_splitOn, World.splitLines_picture hsquare]
  · intro other hsquare' hsize hx hy hpicture
    have hlines := World.lines_eq_of_picture_eq hsquare hsquare' hpicture
    have htwo : 1 < world.grid.size.toNat := UInt64.le_iff_toNat_le.mp hsize
    have hfirst := World.line_eq_of_lines_eq hsquare hsquare' hlines (Nat.zero_lt_of_lt htwo)
    refine ⟨World.size_eq_of_lines_eq hlines, ?_, World.gold_eq_of_note_eq hfirst.2, ?_⟩
    · exact World.bot_eq_of_lines_eq hsquare hsquare' hlines htwo hx hy
    · intro x hx y hy hnot
      rcases World.alike_at hsquare hsquare' hlines hx hy with ⟨hat, -⟩ | ⟨-, hcrop⟩
      · exact absurd hat hnot
      · exact hcrop

/-- The seeds under the bot do not show; what else there is on the field does. -/
theorem picture_tells_farm_but_for_the_seeds :
    let field := (Grid.bare 3).setCrop 1 0 .ripe
    let bot := { Bot.spawn with heading := .down }
    let world : World := ⟨field, bot, 20⟩
    let other : World := ⟨field.setCrop 0 0 .planted, bot, 20⟩
    world.grid.IsSquare ∧ other.grid.IsSquare ∧ world ≠ other ∧ world.picture = other.picture ∧
      world.picture = "v*.   gold: 20 G\n...   harvested: 0\n...\n" ∧
      ∀ x < 3, ∀ y < 3, ¬ world.BotAt x y → world.grid.cropIn? x y = other.grid.cropIn? x y := by
  intro field bot world other
  have horder : field.InOrder 3 := (Grid.InOrder.bare 3).setCrop 1 0 (by decide)
  have hsquare : world.grid.IsSquare := horder.isSquare
  have hsquare' : other.grid.IsSquare := (horder.setCrop 0 0 (by decide)).isSquare
  have hsame : world.picture = other.picture := by decide +kernel
  obtain ⟨-, -, -, hcrops⟩ := (picture_tells_farm hsquare).2 other hsquare' (by decide) (by decide)
    (by decide) hsame
  exact ⟨hsquare, hsquare', by decide +kernel, hsame, by decide +kernel, hcrops⟩

end FarmScript
