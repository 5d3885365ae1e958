import Landform.Number.Bounded
import Landform.Text.Ascii

namespace Landform
namespace Landscape

/-!
The patterns an overlay may have.  A pattern says for every point of an overlay whether
the overlay covers it.  Points are given in the overlay's own coordinates, which count
from its upper left corner; two numbers `a` and `b` set the pattern's measures, and
numbers that are not positive stand for the pattern's usual ones.

All patterns but the wave are computed in whole numbers.  The patterns that look random
are not: they hash the point together with a seed, so a description always renders alike.
-/

/-- The kinds of patterns. -/
inductive Pattern where
  | solid
  | random
  | checker
  | bozo
  | sin
  | boxes
  | lines
  | border
  | script
  deriving DecidableEq, Inhabited

namespace Pattern

/-- The name of a pattern in a description. -/
def name : Pattern -> String
  | .solid => "solid"
  | .random => "random"
  | .checker => "checker"
  | .bozo => "bozo"
  | .sin => "sin"
  | .boxes => "boxes"
  | .lines => "lines"
  | .border => "border"
  | .script => "script"

/-- All patterns. -/
def all : List Pattern :=
  [.solid, .random, .checker, .bozo, .sin, .boxes, .lines, .border, .script]

/-- The pattern of a name, in whatever case the name is written. -/
def ofName? (name : String) : Option Pattern :=
  all.find? fun pattern => Text.sameName pattern.name name

end Pattern

/-- A point of an overlay in its own coordinates, together with the overlay's extent. -/
structure LocalPoint where
  x : Int
  y : Int
  width : Int
  height : Int
  deriving DecidableEq

/-- The numbers that set a pattern's measures. -/
structure PatternMeasures where
  a : Int
  b : Int
  seed : UInt32
  deriving DecidableEq

/-- A measure, or the usual one when the number given is not positive. -/
def measureOr (given usual : Int) : Int :=
  if given > 0 then given else usual

/-- The word of 64 bits that an integer is congruent to. -/
def wordOf (n : Int) : UInt64 :=
  (Int64.ofInt n).toUInt64

/-- Rotates a word to the left. -/
def rotateLeft (word : UInt64) (amount : UInt64) : UInt64 :=
  (word <<< amount) ||| (word >>> (64 - amount))

/-- Hashes a point together with a seed. -/
def hashPoint (seed : UInt32) (x y : Int) : UInt32 :=
  let start := seed.toUInt64 ^^^ 0x9e3779b97f4a7c15
  let column := rotateLeft (start ^^^ (wordOf x * 0xbf58476d1ce4e5b9)) 31
  let both := column ^^^ (wordOf y * 0x94d049bb133111eb)
  let spread := (both ^^^ (both >>> 29)) * 0xbf58476d1ce4e5b9
  (spread ^^^ (spread >>> 32)).toUInt32

/-- The height of the noise at a lattice point, from 0 to 255. -/
def latticeHeight (seed : UInt32) (column row : Int) : Int :=
  Int.ofNat ((hashPoint seed column row) &&& 0xff).toNat

/--
Smooth noise from 0 to 255: the heights of the four lattice points around a point,
weighted by how near the point is to each.
-/
def latticeNoise (seed : UInt32) (x y cell : Int) : Int :=
  let column := x / cell
  let row := y / cell
  let right := x % cell
  let down := y % cell
  let top :=
    latticeHeight seed column row * (cell - right) +
      latticeHeight seed (column + 1) row * right
  let bottom :=
    latticeHeight seed column (row + 1) * (cell - right) +
      latticeHeight seed (column + 1) (row + 1) * right
  Int.tdiv (top * (cell - down) + bottom * down) (cell * cell)

/-- The largest cell of the lattice; greater measures mean this one. -/
def largestCell : Int := 4096

/-- The circumference of the unit circle. -/
def fullTurn : Float := 6.283185307179586

/-- The nearest floating-point number. -/
def toFloat (n : Int) : Float :=
  (Int64.ofInt n).toFloat

/-- Whether a point lies on or below a wave around the middle of the overlay. -/
def belowWave (period swing : Int) (point : LocalPoint) : Bool :=
  let height := toFloat point.height
  let amplitude := height * toFloat swing / 100.0
  let wave := Float.sin (toFloat point.x * fullTurn / toFloat period) * amplitude
  decide (toFloat point.y ≥ height / 2.0 + wave)

namespace Pattern

/-- Whether a pattern covers a point.  A script pattern is asked for elsewhere. -/
def covers (pattern : Pattern) (measures : PatternMeasures) (point : LocalPoint) : Bool :=
  let ⟨x, y, width, height⟩ := point
  match pattern with
  | .solid | .script => true
  | .random =>
      decide (Int.ofNat (hashPoint measures.seed x y).toNat % 100 < measureOr measures.a 50)
  | .checker =>
      let size := measureOr measures.a 10
      (x / size + y / size) % 2 == 0
  | .bozo =>
      let cell := min (measureOr measures.a 16) largestCell
      let threshold := Int.tdiv (measureOr measures.b 50 * 256) 100
      decide (latticeNoise measures.seed x y cell < threshold)
  | .sin => belowWave (measureOr measures.a 32) (measureOr measures.b 25) point
  | .boxes =>
      let size := measureOr measures.a 16
      let gap := min (measureOr measures.b 4) (size - 1)
      decide (x % size ≥ gap) && decide (y % size ≥ gap)
  | .lines =>
      let period := measureOr measures.a 16
      let thickness := measureOr measures.b 4
      decide (Number.int64.saturate (x + y) % period < thickness)
  | .border =>
      let thickness := measureOr measures.a 2
      decide (x < thickness) || decide (y < thickness) ||
        decide (x ≥ Number.int64.saturate (width - thickness)) ||
        decide (y ≥ Number.int64.saturate (height - thickness))

end Pattern

end Landscape
end Landform
