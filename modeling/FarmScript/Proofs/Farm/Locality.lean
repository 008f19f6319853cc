import FarmScript.Proofs.Farm.CheckedWork
import FarmScript.Proofs.Farm.Pose

/-! # A tick works on one tile

A tick lets the field grow and then carries out at most one command, and a command changes at most
the tile under the bot. `Command.Case.tile` is the whole of it for one tile: a command leaves the
tile alone, or it succeeds on it while the bot stands there and then the crop is the one that the
command makes of the old one (`Command.crop?`), without growth. `tick_tile` says the same of a tick
and a tile that has grown.

Tiles are told apart by their place in the list of tiles, so that none of this needs the field to be
laid out. That matters only where a tile is to be known by its column and row
(`World.eq_of_place?`).
-/

namespace FarmScript
set_option autoImplicit false

/-- The place, in the list of tiles, of the tile under the bot. -/
def World.place? (world : World) : Option Nat :=
  if world.bot.x < world.grid.size ∧ world.bot.y < world.grid.size then
    some (world.grid.index world.bot.x world.bot.y)
  else none

namespace World
variable {world : World} {i : Nat}

theorem tileUnderBot?_of_place? (h : world.place? = some i) :
    world.tileUnderBot? = world.grid.tiles[i]? := by
  unfold place? at h
  split at h
  · next hon =>
    cases h
    rw [tileUnderBot?, Grid.get?, if_pos hon]
  · cases h

theorem getElem?_modifyUnderBot (world : World) (change : Tile → Tile) (i : Nat) :
    (world.modifyUnderBot change).grid.tiles[i]? =
      if world.place? = some i then world.grid.tiles[i]?.map change
      else world.grid.tiles[i]? := by
  unfold modifyUnderBot Grid.modify place?
  split
  · simp only [Array.getElem?_modify, Option.some.injEq]
  · simp

/-- Changing the tile under the bot leaves a tile alone, or the tile is that one and is changed. -/
theorem tile_modifyUnderBot (world : World) (change : Tile → Tile) {found : Crop}
    (hcrop : world.cropUnderBot? = some found) {tile : Tile}
    (htile : world.grid.tiles[i]? = some tile) :
    (world.modifyUnderBot change).grid.tiles[i]? = some tile ∨
      world.place? = some i ∧ found = tile.crop ∧
        (world.modifyUnderBot change).grid.tiles[i]? = some (change tile) := by
  rw [getElem?_modifyUnderBot, htile]
  by_cases hplace : world.place? = some i
  · rw [cropUnderBot?, tileUnderBot?_of_place? hplace, htile] at hcrop
    cases hcrop
    exact .inr ⟨hplace, rfl, if_pos hplace⟩
  · exact .inl (if_neg hplace)

theorem size_tiles_modifyUnderBot (world : World) (change : Tile → Tile) :
    (world.modifyUnderBot change).grid.tiles.size = world.grid.tiles.size := by
  unfold modifyUnderBot Grid.modify
  split
  · exact Array.size_modify
  · rfl

/-- On a field that is laid out, the tile under the bot has the column and the row of the bot. -/
theorem eq_of_place? (hlaid : world.grid.IsLaidOut)
    (hsize : world.grid.size.toNat ^ 2 < 2 ^ 63) (h : world.place? = some i) {tile : Tile}
    (htile : world.grid.tiles[i]? = some tile) :
    tile.x = world.bot.x ∧ tile.y = world.bot.y := by
  unfold place? at h
  split at h
  · next hon =>
    obtain ⟨hx, hy⟩ := hon
    cases h
    obtain ⟨tile', htile', hcolumn, hrow⟩ :=
      hlaid _ (UInt64.lt_iff_toNat_lt.mp hx) _ (UInt64.lt_iff_toNat_lt.mp hy)
    rw [Grid.index_eq hsize hx hy] at htile
    cases htile.symm.trans htile'
    exact ⟨UInt64.toNat_inj.mp hcolumn, UInt64.toNat_inj.mp hrow⟩
  · cases h

end World

/-! ## Commands -/

namespace Command

/-- The crop that a command makes of the crop it finds under the bot, if it succeeds there. -/
def crop? : Command → Crop → Option Crop
  | plant, .empty => some .planted
  | water, _ => some .watered
  | harvest, .ripe => some .empty
  | _, _ => none

section Case
variable {rules : Rules} {world after : World} {command : Command} {reply : Reply}

theorem Case.tile (h : Case rules world command after reply) {i : Nat} {tile : Tile}
    (htile : world.grid.tiles[i]? = some tile) :
    after.grid.tiles[i]? = some tile ∨
      reply.changed = true ∧ world.place? = some i ∧ ∃ crop, command.crop? tile.crop = some crop ∧
        after.grid.tiles[i]? = some { tile with crop := crop, growth := 0 } := by
  -- the three kinds of work differ in the crop they need and the crop they leave
  cases h with
  | moved hon => exact .inl htile
  | turnedLeft => exact .inl htile
  | turnedRight => exact .inl htile
  | unchanged hreply hoff => exact .inl htile
  | sown hcrop hgold =>
    refine (world.tile_modifyUnderBot _ hcrop htile).imp_right fun ⟨hplace, hfound, hafter⟩ => ?_
    exact ⟨rfl, hplace, .planted, hfound ▸ rfl, hafter⟩
  | watered hcrop hgold =>
    refine (world.tile_modifyUnderBot _ hcrop htile).imp_right fun ⟨hplace, hfound, hafter⟩ => ?_
    exact ⟨rfl, hplace, .watered, hfound ▸ rfl, hafter⟩
  | harvested hcrop =>
    refine (world.tile_modifyUnderBot _ hcrop htile).imp_right fun ⟨hplace, hfound, hafter⟩ => ?_
    exact ⟨rfl, hplace, .empty, hfound ▸ rfl, hafter⟩

theorem Case.size_tiles_eq (h : Case rules world command after reply) :
    after.grid.tiles.size = world.grid.tiles.size := by
  cases h with
  | moved hon => rfl
  | turnedLeft => rfl
  | turnedRight => rfl
  | unchanged hreply hoff => rfl
  | sown hcrop hgold => exact World.size_tiles_modifyUnderBot world _
  | watered hcrop hgold => exact World.size_tiles_modifyUnderBot world _
  | harvested hcrop => exact World.size_tiles_modifyUnderBot world _

end Case

theorem Reply.changed_eq_false_of_error? {reply : Reply} (h : reply.error? ≠ none) :
    reply.changed = false := by
  cases reply with
  | wall => rfl
  | offFarm => rfl
  | tooPoor cost => rfl
  | _ => exact absurd rfl h

end Command

/-! ## The step ahead -/

/-- A bot whose coordinates leave room in a signed word looks at the next column or row as a number,
not only as a word. -/
theorem Bot.toInt_ahead {bot : Bot} (hx : bot.x.toNat < 2 ^ 63 - 1)
    (hy : bot.y.toNat < 2 ^ 63 - 1) :
    bot.ahead.1.toInt = bot.x.toNat + bot.heading.delta.1.toInt ∧
      bot.ahead.2.toInt = bot.y.toNat + bot.heading.delta.2.toInt := by
  obtain ⟨hleft, hright, hup, hdown⟩ := Checked.delta_bounds bot.heading
  have hcolumn : bot.column.toInt = bot.x.toNat := Checked.toInt_toInt64 (by omega)
  have hrow : bot.row.toInt = bot.y.toNat := Checked.toInt_toInt64 (by omega)
  rw [← hcolumn, ← hrow]
  exact ⟨Checked.toInt_add (by omega) (by omega), Checked.toInt_add (by omega) (by omega)⟩

theorem toNat_toUInt64_of_le {word : Int64} (h : 0 ≤ word) :
    (word.toUInt64.toNat : Int) = word.toInt := by
  have hpos : 0 ≤ word.toInt := Int64.le_iff_toInt_le.mp h
  have hvalue : word.toUInt64.toNat = word.toInt.toNat := Int64.toNat_toUInt64_of_le h
  omega

/-- Where a command takes the bot: nowhere, or one step ahead onto the field. -/
theorem Command.Case.bot {rules : Rules} {world after : World} {command : Command} {reply : Reply}
    (h : Case rules world command after reply) (hx : world.bot.x.toNat < 2 ^ 63 - 1)
    (hy : world.bot.y.toNat < 2 ^ 63 - 1) :
    after.bot.x = world.bot.x ∧ after.bot.y = world.bot.y ∨
      command = forward ∧ after.bot.x < world.grid.size ∧ after.bot.y < world.grid.size ∧
        (after.bot.x.toNat : Int) = world.bot.x.toNat + world.bot.heading.delta.1.toInt ∧
        (after.bot.y.toNat : Int) = world.bot.y.toNat + world.bot.heading.delta.2.toInt := by
  cases h with
  | moved hon =>
    simp only [Grid.contains, Bool.and_eq_true, decide_eq_true_eq] at hon
    obtain ⟨⟨⟨hleft, hup⟩, hcolumn⟩, hrow⟩ := hon
    obtain ⟨hx', hy'⟩ := Bot.toInt_ahead hx hy
    refine .inr ⟨rfl, hcolumn, hrow, ?_, ?_⟩
    · rw [← hx']
      exact toNat_toUInt64_of_le hleft
    · rw [← hy']
      exact toNat_toUInt64_of_le hup
  | turnedLeft => exact .inl ⟨rfl, rfl⟩
  | turnedRight => exact .inl ⟨rfl, rfl⟩
  | sown hcrop hgold => exact .inl ⟨rfl, rfl⟩
  | watered hcrop hgold => exact .inl ⟨rfl, rfl⟩
  | harvested hcrop => exact .inl ⟨rfl, rfl⟩
  | unchanged hreply hoff => exact .inl ⟨rfl, rfl⟩

/-! ## Ticks -/

/-- Whether the next tick carries out a command with success while the bot stands on the tile in a
place. -/
def SucceedsAt (rules : Rules) (script : Script) (world : World) (program : Program)
    (command : Command) (place : Nat) : Prop :=
  program.command? script = some command ∧
    (command.execute rules (world.grow rules.growthStep)).2.changed = true ∧
    world.place? = some place

instance (rules : Rules) (script : Script) (world : World) (program : Program) (command : Command)
    (place : Nat) : Decidable (SucceedsAt rules script world program command place) :=
  inferInstanceAs (Decidable (_ ∧ _ ∧ _))

section Tick
variable (rules : Rules) (script : Script) {world : World} (program : Program)

theorem tick_tile {i : Nat} {tile : Tile}
    (htile : (world.grow rules.growthStep).grid.tiles[i]? = some tile) :
    (tick rules script world program).world.grid.tiles[i]? = some tile ∨
      ∃ command crop, SucceedsAt rules script world program command i ∧
        command.crop? tile.crop = some crop ∧
        (tick rules script world program).world.grid.tiles[i]? =
          some { tile with crop := crop, growth := 0 } := by
  cases hcommand : program.command? script with
  | none =>
    rw [(tick_of_no_command rules world hcommand).1]
    exact .inl htile
  | some command =>
    rw [(tick_of_command rules world hcommand).1]
    have hcase := Command.execute_case rules (world.grow rules.growthStep) command
    rcases hcase.tile htile with hsame | ⟨hchanged, hplace, crop, hcrop, hafter⟩
    · exact .inl hsame
    · exact .inr ⟨command, crop, ⟨hcommand, hchanged, hplace⟩, hcrop, hafter⟩

theorem size_tick (world : World) :
    (tick rules script world program).world.grid.size = world.grid.size ∧
      (tick rules script world program).world.grid.tiles.size = world.grid.tiles.size := by
  have hgrown : (world.grow rules.growthStep).grid.tiles.size = world.grid.tiles.size :=
    Array.size_map
  cases hcommand : program.command? script with
  | none =>
    rw [(tick_of_no_command rules world hcommand).1]
    exact ⟨rfl, hgrown⟩
  | some command =>
    rw [(tick_of_command rules world hcommand).1, Command.size_execute,
      (Command.execute_case rules _ command).size_tiles_eq]
    exact ⟨rfl, hgrown⟩

theorem tick_bot (hx : world.bot.x.toNat < 2 ^ 63 - 1) (hy : world.bot.y.toNat < 2 ^ 63 - 1) :
    let bot := (tick rules script world program).world.bot
    bot.x = world.bot.x ∧ bot.y = world.bot.y ∨
      program.command? script = some .forward ∧
        bot.x < world.grid.size ∧ bot.y < world.grid.size ∧
        (bot.x.toNat : Int) = world.bot.x.toNat + world.bot.heading.delta.1.toInt ∧
        (bot.y.toNat : Int) = world.bot.y.toNat + world.bot.heading.delta.2.toInt := by
  cases hcommand : program.command? script with
  | none =>
    rw [(tick_of_no_command rules world hcommand).1]
    exact .inl ⟨rfl, rfl⟩
  | some command =>
    rw [(tick_of_command rules world hcommand).1, Option.some.injEq]
    exact (Command.execute_case rules (world.grow rules.growthStep) command).bot hx hy

theorem tick_log_eq_none_or_error_eq_none (world : World) :
    (tick rules script world program).log = none ∨
      (tick rules script world program).error = none := by
  cases hcommand : program.command? script with
  | none => exact .inr (tick_of_no_command rules world hcommand).2
  | some command =>
    obtain ⟨-, hlog, herror⟩ := tick_of_command rules world hcommand
    rw [hlog, herror]
    exact Command.Reply.log?_eq_none_or_error?_eq_none _

variable {rules script program}

theorem tick_world_of_not_changed
    (h : ∀ command, program.command? script = some command →
      (command.execute rules (world.grow rules.growthStep)).2.changed = false) :
    (tick rules script world program).world = world.grow rules.growthStep := by
  cases hcommand : program.command? script with
  | none => exact (tick_of_no_command rules world hcommand).1
  | some command =>
    rw [(tick_of_command rules world hcommand).1]
    exact Command.execute_eq_of_not_changed _ _ _ (h command hcommand)

theorem tick_world_of_error (h : (tick rules script world program).error ≠ none) :
    (tick rules script world program).world = world.grow rules.growthStep := by
  refine tick_world_of_not_changed fun command hcommand => ?_
  rw [(tick_of_command rules world hcommand).2.2] at h
  exact Command.Reply.changed_eq_false_of_error? h

end Tick

/-- On a field that is laid out, a tick does nothing to the farm but let the field grow and carry
out one command, and that is kept to one place. The farm after the tick has the tiles of the grown
field, each in its place and with its column and row, and only the one under the bot can have
another crop or growth. A tick reports a log message or an error, never both. If it reports an
error, or carries out no command, or one that is not done, then the farm is the grown one. The bot
stays where it is, or the command is to go forward and it stands one step further on, in the way it
looked; it does not leave the field. -/
theorem tick_is_local (rules : Rules) (script : Script) {world : World} (program : Program)
    (hlaid : world.grid.IsLaidOut) (hsize : world.grid.size.toNat ^ 2 < 2 ^ 63)
    (hx : world.bot.x.toNat < 2 ^ 63 - 1) (hy : world.bot.y.toNat < 2 ^ 63 - 1) :
    let grown := world.grow rules.growthStep
    let t := tick rules script world program
    (t.world.grid.size = grown.grid.size ∧ t.world.grid.tiles.size = grown.grid.tiles.size ∧
      ∀ (i : Nat) (tile : Tile), grown.grid.tiles[i]? = some tile →
        ∃ tile' : Tile, t.world.grid.tiles[i]? = some tile' ∧ tile'.x = tile.x ∧ tile'.y = tile.y ∧
          (tile' = tile ∨ tile.x = world.bot.x ∧ tile.y = world.bot.y)) ∧
      (t.log = none ∨ t.error = none) ∧
      (t.error ≠ none → t.world = grown) ∧
      (program.command? script = none → t.world = grown) ∧
      (∀ command, program.command? script = some command →
        (command.execute rules grown).2.changed = false → t.world = grown) ∧
      (t.world.bot.x = world.bot.x ∧ t.world.bot.y = world.bot.y ∨
        program.command? script = some .forward ∧
          (t.world.bot.x.toNat : Int) = world.bot.x.toNat + world.bot.heading.delta.1.toInt ∧
          (t.world.bot.y.toNat : Int) = world.bot.y.toNat + world.bot.heading.delta.2.toInt) ∧
      (world.bot.x < world.grid.size ∧ world.bot.y < world.grid.size →
        t.world.bot.x < t.world.grid.size ∧ t.world.bot.y < t.world.grid.size) := by
  intro grown t
  obtain ⟨hside, hcount⟩ := size_tick rules script program world
  have hbot := tick_bot rules script program hx hy
  refine ⟨⟨hside, hcount.trans Array.size_map.symm, ?_⟩,
    tick_log_eq_none_or_error_eq_none rules script program world, tick_world_of_error,
    fun hnone => (tick_of_no_command rules world hnone).1, ?_, ?_, ?_⟩
  · intro i tile htile
    rcases tick_tile rules script program htile with hsame | ⟨command, crop, hsucceeds, -, hafter⟩
    · exact ⟨tile, hsame, rfl, rfl, .inl rfl⟩
    · have hgrown : grown.grid.IsLaidOut := hlaid.grow rules.growthStep
      have hunder : grown.place? = some i := hsucceeds.2.2
      exact ⟨_, hafter, rfl, rfl, .inr (World.eq_of_place? hgrown hsize hunder htile)⟩
  · intro command hcommand hchanged
    refine tick_world_of_not_changed fun command' hcommand' => ?_
    cases hcommand.symm.trans hcommand'
    exact hchanged
  · rcases hbot with hstays | ⟨hforward, -, -, hcolumn, hrow⟩
    · exact .inl hstays
    · exact .inr ⟨hforward, hcolumn, hrow⟩
  · rintro ⟨hcolumn, hrow⟩
    rw [hside]
    rcases hbot with ⟨hx', hy'⟩ | ⟨-, hcolumn', hrow', -, -⟩
    · rw [hx', hy']
      exact ⟨hcolumn, hrow⟩
    · exact ⟨hcolumn', hrow'⟩

/-- A bot beside the field, right of its last column, looks back at it. Sowing from where it stands
is refused and leaves the farm to growth; going forward takes it one column to the left. -/
theorem tick_is_local_beside_the_field :
    let rules := Rules.default
    let world : World := { rules.freshWorld with
      grid := (Grid.bare 6).modify 5 0 fun tile => { tile with crop := .watered, growth := 75 }
      bot := { Bot.spawn with x := 6, heading := .left } }
    let sow : Script := ⟨#["plant()"]⟩
    let go : Script := ⟨#["forward()"]⟩
    world.grid.IsLaidOut ∧ (tick rules sow world .start).error ≠ none ∧
      (tick rules sow world .start).world = world.grow rules.growthStep ∧
      (tick rules go world .start).world.bot.x ≠ world.bot.x ∧
      ((tick rules go world .start).world.bot.x.toNat : Int) =
        world.bot.x.toNat + world.bot.heading.delta.1.toInt := by
  intro rules world sow go
  have hwatered (tile : Tile) : Tile.InOrder { tile with crop := .watered, growth := 75 } :=
    ⟨by simp, fun hother => absurd rfl hother⟩
  have horder : world.grid.InOrder 6 :=
    (Grid.InOrder.bare 6).modify 5 0 (fun _ => rfl) (fun _ => rfl) hwatered
  have hlaid := horder.isLaidOut
  have herror : (tick rules sow world .start).error ≠ none := by decide +kernel
  have hmoves : (tick rules go world .start).world.bot.x ≠ world.bot.x := by decide +kernel
  obtain ⟨-, -, hrefused, -⟩ :=
    tick_is_local rules sow .start hlaid (by decide) (by decide) (by decide)
  obtain ⟨-, -, -, -, -, hbot, -⟩ :=
    tick_is_local rules go .start hlaid (by decide) (by decide) (by decide)
  obtain ⟨-, hcolumn, -⟩ := hbot.resolve_left fun hstays => hmoves hstays.1
  exact ⟨hlaid, herror, hrefused herror, hmoves, hcolumn⟩

end FarmScript
