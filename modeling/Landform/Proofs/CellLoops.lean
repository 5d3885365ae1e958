import Landform.Proofs.Painting
import Landform.Proofs.Rectangles

namespace Landform

open Landscape (pointsOf mem_pointsOf)

/-!
# Writing cell by cell

What a raster holds after it was painted or resized is defined at once, for all its cells.  The
same comes about by going through the points, rows from the top and in a row points from the left,
and writing one cell at a time.

A raster is resized into a buffer of its own: the cells that both sizes have are copied one after
another, from where they lie in rows of the old width to where they lie in rows of the new one,
and no copy goes beyond either buffer (`resize_copies`).  A sheet is drawn on by going through the
points of its foreground and writing both rasters wherever the shape holds the point
(`lay_eq_drawn`).
-/

namespace Raster

/-- Writes some points one after another. -/
def writeAll (raster : Raster) (points : List (Nat × Nat)) (value : Nat -> Nat -> UInt8) :
    Raster :=
  points.foldl (fun written point => written.set point.1 point.2 (value point.1 point.2)) raster

section

variable (raster : Raster) (points : List (Nat × Nat)) (value : Nat -> Nat -> UInt8)

theorem writeAll_sides :
    (raster.writeAll points value).width = raster.width ∧
      (raster.writeAll points value).height = raster.height := by
  unfold writeAll
  induction points generalizing raster with
  | nil => exact ⟨rfl, rfl⟩
  | cons point rest inductionHypothesis =>
      have later := inductionHypothesis (raster.set point.1 point.2 (value point.1 point.2))
      rwa [set_width, set_height] at later

/-- Every point that was written holds its value, and all other cells what they held. -/
theorem get?_writeAll {column row : Nat} (inWidth : column < raster.width)
    (inHeight : row < raster.height) :
    (raster.writeAll points value).get? column row =
      if (column, row) ∈ points then some (value column row) else raster.get? column row := by
  unfold writeAll
  induction points generalizing raster with
  | nil => rfl
  | cons point rest inductionHypothesis =>
      have wide : column < (raster.set point.1 point.2 (value point.1 point.2)).width := by
        rwa [set_width]
      have high : row < (raster.set point.1 point.2 (value point.1 point.2)).height := by
        rwa [set_height]
      rw [List.foldl_cons, inductionHypothesis _ wide high, get?_set]
      by_cases here : (column, row) = point
      · -- Writing the point again leaves the same value there.
        subst here
        simp only [inWidth, inHeight, List.mem_cons, true_or, and_self, if_true, ite_self]
      · have apart : ¬(column = point.1 ∧ row = point.2 ∧ column < raster.width ∧
            row < raster.height) := fun all => here (Prod.ext all.1 all.2.1)
        rw [if_neg apart]
        simp only [List.mem_cons, here, false_or]

/-- Where points lie on the raster, each writing goes to one place of the buffer. -/
theorem writeAll_cells
    (inside : ∀ point ∈ points, point.1 < raster.width ∧ point.2 < raster.height) :
    (raster.writeAll points value).cells =
      points.foldl (fun cells point =>
        cells.setIfInBounds (point.2 * raster.width + point.1) (value point.1 point.2))
        raster.cells := by
  unfold writeAll
  induction points generalizing raster with
  | nil => rfl
  | cons point rest inductionHypothesis =>
      obtain ⟨⟨wide, high⟩, later⟩ := List.forall_mem_cons.mp inside
      have written : (raster.set point.1 point.2 (value point.1 point.2)).cells =
          raster.cells.setIfInBounds (point.2 * raster.width + point.1)
            (value point.1 point.2) := by
        simp [set, inBounds, offset, wide, high]
      rw [List.foldl_cons, List.foldl_cons, inductionHypothesis, written, set_width]
      rwa [set_width, set_height]

end

/-- The points of a raster that pass a test. -/
def passing (raster : Raster) (test : Nat -> Nat -> Bool) : List (Nat × Nat) :=
  (pointsOf (raster.width, raster.height)).filter fun point => test point.1 point.2

theorem paintWhere_eq_writeAll (raster : Raster) (test : Nat -> Nat -> Bool) (value : UInt8) :
    raster.paintWhere test value = raster.writeAll (raster.passing test) fun _ _ => value := by
  symm
  have sides := writeAll_sides raster (raster.passing test) fun _ _ => value
  refine ext_cells sides.1 sides.2 fun column row inWidth inHeight => ?_
  have wide : column < raster.width := by rwa [sides.1] at inWidth
  have high : row < raster.height := by rwa [sides.2] at inHeight
  rw [get?_paintWhere raster test value wide high, get?_writeAll raster _ _ wide high]
  simp only [passing, List.mem_filter, mem_pointsOf, wide, high, and_self, true_and]

/-- Painting goes through the points of a raster and writes those that pass. -/
theorem paintWhere_eq_loop (raster : Raster) (test : Nat -> Nat -> Bool) (value : UInt8) :
    raster.paintWhere test value =
      (pointsOf (raster.width, raster.height)).foldl
        (fun painted point =>
          if test point.1 point.2 then painted.set point.1 point.2 value else painted) raster :=
  (paintWhere_eq_writeAll raster test value).trans List.foldl_filter

/-- The points that a raster has before and after it is resized. -/
def kept (raster : Raster) (width height : Nat) : List (Nat × Nat) :=
  pointsOf (min raster.width width, min raster.height height)

theorem mem_kept {raster : Raster} {width height : Nat} {point : Nat × Nat} :
    point ∈ raster.kept width height ↔
      (point.1 < raster.width ∧ point.2 < raster.height) ∧ point.1 < width ∧ point.2 < height := by
  rw [kept, mem_pointsOf]
  omega

/-- What both sizes have is written on a raster of sky. -/
theorem resize_eq_writeAll (raster : Raster) (width height : Nat) :
    raster.resize width height =
      (blank width height).writeAll (raster.kept width height) fun x y =>
        (raster.cells[y * raster.width + x]?).getD 0 := by
  symm
  have sides := writeAll_sides (blank width height) (raster.kept width height) fun x y =>
    (raster.cells[y * raster.width + x]?).getD 0
  refine ext_cells sides.1 sides.2 fun column row inWidth inHeight => ?_
  have wide : column < width := by rwa [sides.1] at inWidth
  have high : row < height := by rwa [sides.2] at inHeight
  rw [get?_resize, if_pos (within_nat wide high), get?_writeAll (blank width height) _ _ wide high]
  by_cases before : column < raster.width ∧ row < raster.height
  · rw [if_pos (mem_kept.mpr ⟨before, wide, high⟩), get?_nat, if_pos before]
  · have sky : (blank width height).get? column row = some 0 := by
      obtain ⟨fits, read⟩ := (blank width height).get?_eq_getElem wide high
      exact read.trans (congrArg some (Array.getElem_replicate fits))
    rw [if_neg fun member => before (mem_kept.mp member).1, sky, get?_nat, if_neg before,
      Option.getD_none]

/-- **Resizing copies cells** from buffer to buffer, one after another, and each from a place
inside of the old buffer to one inside of the new. -/
theorem resize_copies (raster : Raster) (width height : Nat) :
    (∀ point ∈ raster.kept width height,
      point.2 * raster.width + point.1 < raster.cells.size ∧
        point.2 * width + point.1 < width * height) ∧
      (raster.resize width height).cells =
        (raster.kept width height).foldl (fun cells point =>
          cells.setIfInBounds (point.2 * width + point.1)
            ((raster.cells[point.2 * raster.width + point.1]?).getD 0))
          (Array.replicate (width * height) 0) := by
  constructor
  · intro point member
    obtain ⟨⟨column, row⟩, wide, high⟩ := mem_kept.mp member
    rw [raster.size_cells]
    exact ⟨offset_lt column row, offset_lt wide high⟩
  · rw [resize_eq_writeAll]
    exact writeAll_cells (blank width height) _ _ fun point member => (mem_kept.mp member).2

end Raster

namespace Sheet

/-- Goes through the points of the foreground and writes both rasters where the test passes. -/
def drawn (sheet : Sheet) (material : MaterialPair) (test : Nat -> Nat -> Bool) : Sheet :=
  (pointsOf (sheet.width, sheet.height)).foldl (fun painted point =>
    if test point.1 point.2 then
      ⟨painted.foreground.set point.1 point.2 material.foreground,
        painted.background.set point.1 point.2 material.background⟩
    else painted) sheet

/-- **Laying a material is drawing point by point.** -/
theorem lay_eq_drawn {sheet : Sheet} (fits : sheet.Fits) (material : MaterialPair)
    (test : Nat -> Nat -> Bool) : sheet.lay material test = sheet.drawn material test := by
  have both : ∀ (points : List (Nat × Nat)) (front back : Raster),
      points.foldl (fun painted point =>
        if test point.1 point.2 then
          Sheet.mk (painted.foreground.set point.1 point.2 material.foreground)
            (painted.background.set point.1 point.2 material.background)
        else painted) ⟨front, back⟩ =
      ⟨points.foldl (fun painted point =>
          if test point.1 point.2 then painted.set point.1 point.2 material.foreground
          else painted) front,
        points.foldl (fun painted point =>
          if test point.1 point.2 then painted.set point.1 point.2 material.background
          else painted) back⟩ := by
    intro points
    induction points with
    | nil => exact fun _ _ => rfl
    | cons point rest inductionHypothesis =>
        intro front back
        rw [List.foldl_cons, List.foldl_cons, List.foldl_cons]
        cases test point.1 point.2 <;> exact inductionHypothesis _ _
  rw [lay, Raster.paintWhere_eq_loop, Raster.paintWhere_eq_loop, ← fits.1, ← fits.2]
  exact (both _ sheet.foreground sheet.background).symm

end Sheet

end Landform
