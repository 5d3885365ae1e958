import Landform.Number.Bounded

namespace Landform

/-!
The size of a map.  Each side has a standard value and bounds; the width may grow with
the number of players, up to its upper bound.
-/

/-- The standard value of a side, and the bounds it has to keep. -/
structure SideRange where
  standard : Nat
  least : Nat
  most : Nat

namespace SideRange

/-- A side that has one value only. -/
def fixed (value : Nat) : SideRange :=
  ⟨value, value, value⟩

/--
The standard value moved into the bounds.  Bounds in the wrong order stand for the
lower bound alone.
-/
def evaluate (side : SideRange) : Nat :=
  max side.least (min side.standard (max side.most side.least))

end SideRange

/-- What a run is asked to produce: both sides, and whether players widen the map. -/
structure MapFormat where
  width : SideRange
  height : SideRange
  playerExtend : Nat := 0

namespace MapFormat

/-- No more players than this widen a map. -/
def extendingPlayers : Nat := 4

/-- A map of exactly one size. -/
def fixed (width height : Nat) : MapFormat :=
  ⟨SideRange.fixed width, SideRange.fixed height, 0⟩

/-- The width for a number of players. -/
def widthFor (format : MapFormat) (players : Nat) : Nat :=
  if format.playerExtend = 0 then format.width.evaluate
  else
    min (min (format.width.evaluate * max 1 (min players extendingPlayers)) 4294967295)
      format.width.most

/-- The width and height for a number of players. -/
def sizeFor (format : MapFormat) (players : Nat) : Nat × Nat :=
  (format.widthFor players, format.height.evaluate)

end MapFormat

end Landform
