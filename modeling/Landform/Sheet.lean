import Landform.Material.Resolver
import Landform.Number.Floating
import Landform.Raster

namespace Landform

/-!
Sheets: the two rasters a map script paints on.  Every operation acts on the foreground and
the background alike, so the two keep one size.  A material is laid by its spec; a spec
that is not in the tables changes nothing and is noted.  An operation that is refused
leaves the sheet as it was.
-/

/-- A foreground and a background to paint on. -/
structure Sheet where
  foreground : Raster
  background : Raster

/-- A part of a sheet. -/
inductive Sheet.Shape where
  | rectangle (x y width height : Int)
  | ellipse (x y radiusX radiusY : Int)
  deriving DecidableEq

/-- Why an operation on a sheet is refused. -/
inductive Sheet.Refusal where
  | propertyNotWhole (name typeName : String)
  | unknownShape (number : Int)
  | invalidSide (name : String) (value : Int)
  deriving DecidableEq

/-- What came of painting: whether anything was painted, the sheet, and what is noted. -/
structure Sheet.Stroke where
  painted : Bool
  sheet : Sheet
  notes : List String

namespace Sheet

/-- The wording of a refusal. -/
def Refusal.message : Refusal -> String
  | .propertyNotWhole name typeName =>
      "Shape property '" ++ name ++ "' must be an integer, got " ++ typeName
  | .unknownShape number => s!"Unknown shape algorithm {number}"
  | .invalidSide name value => s!"Resize: invalid {name} {value}"

/-- The sheet of the given sides that shows the sky. -/
def blank (width height : Nat) : Sheet :=
  ⟨Raster.blank width height, Raster.blank width height⟩

/-- The width of a sheet. -/
def width (sheet : Sheet) : Nat :=
  sheet.foreground.width

/-- The height of a sheet. -/
def height (sheet : Sheet) : Nat :=
  sheet.foreground.height

/-- The number by which scripts ask for a rectangle. -/
def rectangleNumber : Int := 10

/-- The number by which scripts ask for an ellipse. -/
def ellipseNumber : Int := 12

/-- No side of a sheet can be made longer than this. -/
def longestSide : Int := 16384

namespace Shape

/-- The distance from the centre of an ellipse along one axis, in radii. -/
def inRadii (point centre radius : Int) : Float :=
  Number.floatOfInt (Number.int64.saturate (point - centre)) / Number.floatOfInt radius

/-- Whether a point of a sheet lies in a shape. -/
def contains (shape : Shape) (px py : Int) : Bool :=
  match shape with
  | rectangle x y width height =>
      decide (x ≤ px) && decide (y ≤ py) &&
        decide (px < Number.int64.saturate (x + width)) &&
        decide (py < Number.int64.saturate (y + height))
  | ellipse x y radiusX radiusY =>
      if radiusX ≤ 0 || radiusY ≤ 0 then false
      else
        let dx := inRadii px x radiusX
        let dy := inRadii py y radiusY
        decide (dx * dx + dy * dy ≤ 1.0)

/-- A property of a shape: its value, or the type of a value that is no whole number. -/
abbrev Property := Except String Int

/-- The value of a property, or its usual value when the property is not given. -/
def valueOf (properties : String -> Option Property) (name : String) (usual : Int) :
    Except Refusal Int :=
  match properties name with
  | none => .ok usual
  | some (.ok value) => .ok value
  | some (.error typeName) => .error (.propertyNotWhole name typeName)

/-- The shape with the given properties on a sheet. -/
def ofProperties (sheet : Sheet) (properties : String -> Option Property) :
    Except Refusal Shape := do
  let number ← valueOf properties "Algo" rectangleNumber
  let x ← valueOf properties "X" 0
  let y ← valueOf properties "Y" 0
  if number = rectangleNumber then
    let width ← valueOf properties "Wdt" sheet.width
    let height ← valueOf properties "Hgt" sheet.height
    return .rectangle x y width height
  else if number = ellipseNumber then
    let radiusX ← valueOf properties "Wdt" 10
    let radiusY ← valueOf properties "Hgt" 10
    return .ellipse x y radiusX radiusY
  else .error (.unknownShape number)

end Shape

/-- The note about a spec that is not in the tables. -/
def unknownMaterial (spec : String) : String :=
  "Unknown material '" ++ spec ++ "'"

/-- Lays a material on all points that pass a test. -/
def lay (sheet : Sheet) (material : MaterialPair) (test : Nat -> Nat -> Bool) : Sheet :=
  ⟨sheet.foreground.paintWhere test material.foreground,
    sheet.background.paintWhere test material.background⟩

/-- Lays a material on a whole sheet. -/
def draw (resolver : Resolver) (spec : String) (sheet : Sheet) : Stroke :=
  match resolver.resolve spec with
  | none => ⟨false, sheet, [unknownMaterial spec]⟩
  | some material => ⟨true, sheet.lay material fun _ _ => true, []⟩

/-- Lays a material on a shape. -/
def drawShape (resolver : Resolver) (spec : String) (shape : Shape) (sheet : Sheet) :
    Stroke :=
  match resolver.resolve spec with
  | none => ⟨false, sheet, [unknownMaterial spec]⟩
  | some material => ⟨true, sheet.lay material fun x y => shape.contains x y, []⟩

/-- Lays a material on one point; outside of the sheet there is nothing to paint. -/
def setPixel (resolver : Resolver) (x y : Int) (spec : String) (sheet : Sheet) : Stroke :=
  match resolver.resolve spec with
  | none => ⟨false, sheet, [unknownMaterial spec]⟩
  | some material =>
      ⟨sheet.foreground.inBounds x y,
        ⟨sheet.foreground.set x y material.foreground,
          sheet.background.set x y material.background⟩, []⟩

/-- The index at a point of a raster, or -1 outside. -/
def indexAt (raster : Raster) (x y : Int) : Int :=
  match raster.get? x y with
  | some index => index.toNat
  | none => -1

/-- The foreground at a point, or -1 outside. -/
def pixel (sheet : Sheet) (x y : Int) : Int :=
  indexAt sheet.foreground x y

/-- The background at a point, or -1 outside. -/
def backPixel (sheet : Sheet) (x y : Int) : Int :=
  indexAt sheet.background x y

/-- Gives a sheet new sides. -/
def withSides (width height : Nat) (sheet : Sheet) : Sheet :=
  ⟨sheet.foreground.resize width height, sheet.background.resize width height⟩

/-- A side asked for, if a sheet can have it. -/
def sideOf (name : String) (value : Int) : Except Refusal Nat :=
  if 0 ≤ value ∧ value ≤ longestSide then .ok value.toNat
  else .error (.invalidSide name value)

/-- Gives a sheet the sides a script asks for. -/
def resize (width height : Int) (sheet : Sheet) : Except Refusal Sheet := do
  let newWidth ← sideOf "width" width
  let newHeight ← sideOf "height" height
  return sheet.withSides newWidth newHeight

/-! ## One size -/

/-- The two rasters of a sheet have the same sides. -/
def Fits (sheet : Sheet) : Prop :=
  sheet.foreground.width = sheet.background.width ∧
    sheet.foreground.height = sheet.background.height

theorem blank_fits (width height : Nat) : (blank width height).Fits :=
  ⟨rfl, rfl⟩

theorem draw_fits (resolver : Resolver) (spec : String) {sheet : Sheet} (fits : sheet.Fits) :
    (sheet.draw resolver spec).sheet.Fits := by
  unfold draw
  cases resolver.resolve spec <;> exact fits

theorem drawShape_fits (resolver : Resolver) (spec : String) (shape : Shape) {sheet : Sheet}
    (fits : sheet.Fits) : (sheet.drawShape resolver spec shape).sheet.Fits := by
  unfold drawShape
  cases resolver.resolve spec <;> exact fits

theorem setPixel_fits (resolver : Resolver) (x y : Int) (spec : String) {sheet : Sheet}
    (fits : sheet.Fits) : (sheet.setPixel resolver x y spec).sheet.Fits := by
  unfold setPixel
  cases resolver.resolve spec with
  | none => exact fits
  | some material =>
      simpa only [Fits, Raster.set_width, Raster.set_height] using fits

/-- A sheet that is resized has the sides it was asked to have. -/
theorem resize_eq {width height : Int} {sheet resized : Sheet}
    (asked : sheet.resize width height = .ok resized) :
    resized = sheet.withSides width.toNat height.toNat := by
  have side {name : String} {value : Int} {given : Nat} (allowed : sideOf name value = .ok given) :
      given = value.toNat := by
    unfold sideOf at allowed
    split at allowed
    · exact (Except.ok.inj allowed).symm
    · cases allowed
  unfold resize at asked
  cases newWidth : sideOf "width" width with
  | error refusal => simp [newWidth, bind, Except.bind] at asked
  | ok columns =>
      cases newHeight : sideOf "height" height with
      | error refusal => simp [newWidth, newHeight, bind, Except.bind] at asked
      | ok rows =>
          simp only [newWidth, newHeight, bind, Except.bind, pure, Except.pure,
            Except.ok.injEq] at asked
          rw [← asked, side newWidth, side newHeight]

theorem resize_fits {width height : Int} {sheet resized : Sheet}
    (asked : sheet.resize width height = .ok resized) : resized.Fits := by
  rw [resize_eq asked]
  exact ⟨rfl, rfl⟩

/-! ## Notes -/

theorem draw_notes (resolver : Resolver) (spec : String) (sheet : Sheet) :
    ∀ note ∈ (sheet.draw resolver spec).notes, note = unknownMaterial spec := by
  unfold draw
  cases resolver.resolve spec <;> simp

theorem drawShape_notes (resolver : Resolver) (spec : String) (shape : Shape) (sheet : Sheet) :
    ∀ note ∈ (sheet.drawShape resolver spec shape).notes, note = unknownMaterial spec := by
  unfold drawShape
  cases resolver.resolve spec <;> simp

theorem setPixel_notes (resolver : Resolver) (x y : Int) (spec : String) (sheet : Sheet) :
    ∀ note ∈ (sheet.setPixel resolver x y spec).notes, note = unknownMaterial spec := by
  unfold setPixel
  cases resolver.resolve spec <;> simp

end Sheet

end Landform
