/-! # Tiles

A tile is one cell of the field. Its crop goes from bare soil over seeds and watered seeds to a
ripe plant; only a watered crop grows, and it ripens when its growth reaches `ripeAt`.
-/

namespace FarmScript
set_option autoImplicit false

/-- The sum of two 32-bit words, held at the largest word when it does not fit. -/
def saturatingAdd (a b : UInt32) : UInt32 :=
  if a.toNat + b.toNat < UInt32.size then a + b else 4294967295

/-- A saturating sum is the true sum, cut off at the largest word. -/
theorem toNat_saturatingAdd (a b : UInt32) :
    (saturatingAdd a b).toNat = min (a.toNat + b.toNat) 4294967295 := by
  unfold saturatingAdd UInt32.size
  split
  · rw [UInt32.toNat_add]; omega
  · have : (4294967295 : UInt32).toNat = 4294967295 := rfl
    omega

/-- What stands on a tile. -/
inductive Crop where
  | empty
  | planted
  | watered
  | ripe
deriving DecidableEq

/-- The name under which a crop is written down. -/
def Crop.name : Crop → String
  | empty => "EMPTY"
  | planted => "PLANTED"
  | watered => "WATERED"
  | ripe => "RIPE"

/-- All crops, in the order in which they follow each other. -/
def Crop.all : List Crop := [empty, planted, watered, ripe]

/-- The growth at which a watered crop is ripe. -/
def ripeAt : UInt32 := 100

/-- A cell of the field: column, row, crop and how far the crop has grown. -/
structure Tile where
  x : UInt64
  y : UInt64
  crop : Crop
  growth : UInt32
deriving DecidableEq

namespace Tile

/-- Bare soil at a position. -/
def bare (x y : UInt64) : Tile where
  x := x
  y := y
  crop := .empty
  growth := 0

/-- The tile with another crop on it. A crop that is not watered has no growth. -/
def setCrop (tile : Tile) (crop : Crop) : Tile :=
  { tile with crop := crop, growth := if crop = .watered then tile.growth else 0 }

/-- Whether growing by `step` makes the tile ripe. -/
def ripens (step : UInt32) (tile : Tile) : Bool :=
  tile.crop = .watered && ripeAt ≤ saturatingAdd tile.growth step

/-- The tile after growing by `step`: a watered crop grows, and is ripe once it is fully grown. -/
def grow (step : UInt32) (tile : Tile) : Tile :=
  if tile.ripens step then tile.setCrop .ripe
  else if tile.crop = .watered then { tile with growth := saturatingAdd tile.growth step }
  else tile

end Tile

end FarmScript
