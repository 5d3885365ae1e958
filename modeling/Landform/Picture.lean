import Landform.Material.Palette
import Landform.Raster

namespace Landform

/-!
Pictures: what a raster looks like.  A picture has the sides of its raster, and every cell
is shown in the colour its index has.
-/

/-- A picture: its sides, and its colours row by row from the top. -/
structure Picture where
  width : Nat
  height : Nat
  colors : Array Color

namespace Picture

/-- Whether a picture has no pixels. -/
def isEmpty (picture : Picture) : Bool :=
  picture.width == 0 || picture.height == 0

/-- The rows of a picture, from the top. -/
def rows (picture : Picture) : List (Array Color) :=
  (List.range picture.height).map fun y =>
    picture.colors.extract (y * picture.width) ((y + 1) * picture.width)

end Picture

/-- What a raster looks like. -/
def Palette.picture (palette : Palette) (raster : Raster) : Picture where
  width := raster.width
  height := raster.height
  colors := raster.cells.map palette.color

end Landform
