import Landform.Landscape.Node

namespace Landform
namespace Landscape

/-!
The areas blocks take up.  An overlay's area is given in percent of the area around it
and may reach beyond it.  Coordinates are whole numbers of 64 bits; a sum or product that
leaves their range is moved to its nearest end.
-/

/-- A rectangle of the map: its upper left corner and its extent. -/
structure Area where
  x : Int
  y : Int
  width : Int
  height : Int
  deriving DecidableEq, Inhabited

namespace Area

/-- A part of an extent, given in percent and rounded toward zero. -/
def percentOf (extent percent : Int) : Int :=
  Int.tdiv (Number.int64.saturate (extent * percent)) 100

/-- Whether a point of the map lies in an area. -/
def contains (area : Area) (x y : Int) : Bool :=
  decide (x ≥ area.x) && decide (y ≥ area.y) &&
    decide (x < Number.int64.saturate (area.x + area.width)) &&
    decide (y < Number.int64.saturate (area.y + area.height))

/-- The area of an overlay inside an area. -/
def inside (area : Area) (attributes : Attributes) : Area where
  x := Number.int64.saturate (area.x + percentOf area.width attributes.x)
  y := Number.int64.saturate (area.y + percentOf area.height attributes.y)
  width := max (percentOf area.width attributes.width) 0
  height := max (percentOf area.height attributes.height) 0

/-- A distance under a zoom in percent, rounded toward zero; the least zoom is one percent. -/
def zoomed (distance zoom : Int) : Int :=
  Int.tdiv (Number.int64.saturate (distance * 100)) (max zoom 1)

/-- A point of the map in the coordinates of an overlay that takes up an area. -/
def localPoint (area : Area) (attributes : Attributes) (x y : Int) : LocalPoint where
  x := zoomed (Number.int64.saturate (x - area.x)) attributes.zoomX
  y := zoomed (Number.int64.saturate (y - area.y)) attributes.zoomY
  width := zoomed area.width attributes.zoomX
  height := zoomed area.height attributes.zoomY

end Area

end Landscape
end Landform
