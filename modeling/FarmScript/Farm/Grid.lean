import FarmScript.Farm.Tile

/-! # The field

A `Grid` is a square field, its tiles row by row. A grid read from a file may hold any number of
tiles, so every look-up goes through `get?`, which gives a tile only for a position on the square
that has one.
-/

namespace FarmScript
set_option autoImplicit false

/-- A square field of side `size`; the tile of column `x` and row `y` has the index
`y * size + x`. -/
structure Grid where
  size : UInt64
  tiles : Array Tile
deriving DecidableEq

namespace Grid

/-- A field of bare soil. -/
def bare (size : UInt64) : Grid where
  size := size
  tiles := Array.ofFn fun i : Fin (size.toNat * size.toNat) =>
    Tile.bare (UInt64.ofNat (i.val % size.toNat)) (UInt64.ofNat (i.val / size.toNat))

/-- The index of a position in the list of tiles. -/
def index (grid : Grid) (x y : UInt64) : Nat := (y * grid.size + x).toNat

/-- Whether a signed position lies on the field. -/
def contains (grid : Grid) (x y : Int64) : Bool :=
  0 ≤ x && 0 ≤ y && x.toUInt64 < grid.size && y.toUInt64 < grid.size

/-- The tile at a position of the field. -/
def get? (grid : Grid) (x y : UInt64) : Option Tile :=
  if x < grid.size ∧ y < grid.size then grid.tiles[grid.index x y]? else none

/-- The crop at a position of the field. -/
def crop? (grid : Grid) (x y : UInt64) : Option Crop := (grid.get? x y).map (·.crop)

/-- The field with `change` applied to the tile at a position; a position off the field changes
nothing. -/
def modify (grid : Grid) (x y : UInt64) (change : Tile → Tile) : Grid :=
  if x < grid.size ∧ y < grid.size then
    { grid with tiles := grid.tiles.modify (grid.index x y) change }
  else grid

/-- The field with another crop at a position. -/
def setCrop (grid : Grid) (x y : UInt64) (crop : Crop) : Grid :=
  grid.modify x y (·.setCrop crop)

/-- The field after every tile has grown by `step`. -/
def grow (step : UInt32) (grid : Grid) : Grid :=
  { grid with tiles := grid.tiles.map (Tile.grow step) }

/-- How many tiles become ripe when the field grows by `step`. -/
def ripened (step : UInt32) (grid : Grid) : Nat := grid.tiles.countP (Tile.ripens step)

/-- A list cut into pieces of `width + 1` elements; the last piece may be shorter. -/
def cut {α : Type} (width : Nat) (items : List α) : List (List α) :=
  match items with
  | [] => []
  | item :: rest => (item :: rest.take width) :: cut width (rest.drop width)
termination_by items.length
decreasing_by simp only [List.length_drop, List.length_cons]; omega

/-- The tiles in rows of `size` tiles. -/
def rows (grid : Grid) : List (List Tile) := cut (grid.size.toNat - 1) grid.tiles.toList

@[simp] theorem size_grow (step : UInt32) (grid : Grid) : (grid.grow step).size = grid.size := rfl

@[simp] theorem size_setCrop (grid : Grid) (x y : UInt64) (crop : Crop) :
    (grid.setCrop x y crop).size = grid.size := by
  unfold setCrop modify
  split <;> rfl

end Grid

end FarmScript
