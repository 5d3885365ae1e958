import Landform.Proofs.CheckedPatterns
import Landform.Proofs.NeutralOverlays

namespace Landform
namespace Landscape

open Number (int64)

/-!
# Noise between the points of a lattice

Noise has a height at every point of a lattice, which is a hash and as good as any number from 0
to 255.  Inside of a cell it blends the heights of the four corners, first along the upper and the
lower edge, and then between the two.  A blend is a number times one share of a whole, and another
number times the rest, so it lies between both numbers times the whole (`blend_between`).  The
whole is divided out only at the end, once for both directions, and rounding then keeps what lies
between two whole numbers between them.

Cells are closed here: their right and lower edges are those of the cells beside them.  On an edge
in common both cells blend the same two heights, so nothing shows there.  Coordinates may be
negative, as rows and columns of the lattice are found by division that rounds down.  The last cell
has neighbours whose number has wrapped around, which a hash does not tell from one that has not
(`latticeHeight_wrapped`).
-/

/-! ## Cells -/

/-- The noise in a cell of a lattice, at a distance from its left and from its upper edge. -/
def cellNoise (seed : UInt32) (column row right down cell : Int) : Int :=
  let top := blend (latticeHeight seed column row) (latticeHeight seed (column + 1) row) right cell
  let bottom :=
    blend (latticeHeight seed column (row + 1)) (latticeHeight seed (column + 1) (row + 1)) right
      cell
  Int.tdiv (blend top bottom down cell) (cell * cell)

/-- The heights of the four corners of a cell. -/
def cornerHeights (seed : UInt32) (column row : Int) : List Int :=
  [latticeHeight seed column row, latticeHeight seed (column + 1) row,
    latticeHeight seed column (row + 1), latticeHeight seed (column + 1) (row + 1)]

theorem latticeNoise_eq_cell (seed : UInt32) (x y cell : Int) :
    latticeNoise seed x y cell =
      cellNoise seed (x / cell) (y / cell) (x % cell) (y % cell) cell :=
  rfl

/-- The integer of 64 bits that an integer is congruent to. -/
def wrapped (n : Int) : Int :=
  (Int64.ofInt n).toInt

/-- A hash does not tell integers of 64 bits from integers that would have wrapped around. -/
theorem latticeHeight_wrapped (seed : UInt32) (column row : Int) :
    latticeHeight seed (wrapped column) (wrapped row) = latticeHeight seed column row := by
  simp only [latticeHeight, hashPoint, wordOf, wrapped, Int64.ofInt_toInt]

theorem blend_at_start (first second whole : Int) : blend first second 0 whole = first * whole := by
  rw [blend, Int.sub_zero, Int.mul_zero, Int.add_zero]

theorem blend_at_end (first second whole : Int) :
    blend first second whole whole = second * whole := by
  rw [blend, Int.sub_self, Int.mul_zero, Int.zero_add]

section

variable (seed : UInt32) {column row right down cell : Int}

/-- Noise in a cell keeps the bounds that its corners keep. -/
theorem cellNoise_between {low high : Int}
    (bounds : ∀ height ∈ cornerHeights seed column row, low ≤ height ∧ height ≤ high)
    (nonneg : 0 ≤ low) (positive : 0 < cell) (rightMem : 0 ≤ right ∧ right ≤ cell)
    (downMem : 0 ≤ down ∧ down ≤ cell) :
    low ≤ cellNoise seed column row right down cell ∧
      cellNoise seed column row right down cell ≤ high := by
  simp only [cornerHeights, List.forall_mem_cons] at bounds
  rcases bounds with ⟨upperLeft, upperRight, lowerLeft, lowerRight, _⟩
  have top := blend_between upperLeft upperRight rightMem
  have bottom := blend_between lowerLeft lowerRight rightMem
  have both := blend_between top bottom downMem
  rw [Int.mul_assoc, Int.mul_assoc] at both
  have square : 0 < cell * cell := Int.mul_pos positive positive
  have least : 0 ≤ low * (cell * cell) := Int.mul_nonneg nonneg (Int.le_of_lt square)
  rw [cellNoise, Int.tdiv_eq_ediv_of_nonneg (Int.le_trans least both.1)]
  constructor
  · exact (Int.le_ediv_iff_mul_le square).mpr both.1
  · calc _
      _ ≤ high * (cell * cell) / (cell * cell) := Int.ediv_le_ediv square both.2
      _ = high := Int.mul_ediv_cancel high (Int.ne_of_gt square)

theorem cellNoise_upperLeft (positive : 0 < cell) :
    cellNoise seed column row 0 0 cell = latticeHeight seed column row := by
  have square : cell * cell ≠ 0 := Int.ne_of_gt (Int.mul_pos positive positive)
  rw [cellNoise, blend_at_start, blend_at_start, Int.mul_assoc, Int.mul_tdiv_cancel _ square]

/-- On its right edge a cell has the noise of the cell beside it. -/
theorem cellNoise_rightEdge (down : Int) :
    cellNoise seed column row cell down cell = cellNoise seed (column + 1) row 0 down cell := by
  rw [cellNoise, cellNoise, blend_at_end, blend_at_end, blend_at_start, blend_at_start]

/-- On its lower edge a cell has the noise of the cell below it. -/
theorem cellNoise_lowerEdge (right : Int) :
    cellNoise seed column row right cell cell = cellNoise seed column (row + 1) right 0 cell := by
  rw [cellNoise, cellNoise, blend_at_end, blend_at_start]

end

/-- The noise in a cell has the corners' heights at the corners, and goes on in the cells beside
and below without a break. -/
structure IsContinuous (seed : UInt32) (column row cell : Int) : Prop where
  upperLeft : cellNoise seed column row 0 0 cell = latticeHeight seed column row
  upperRight : cellNoise seed column row cell 0 cell = latticeHeight seed (column + 1) row
  lowerLeft : cellNoise seed column row 0 cell cell = latticeHeight seed column (row + 1)
  lowerRight : cellNoise seed column row cell cell cell = latticeHeight seed (column + 1) (row + 1)
  rightEdge : ∀ down,
    cellNoise seed column row cell down cell = cellNoise seed (column + 1) row 0 down cell
  lowerEdge : ∀ right,
    cellNoise seed column row right cell cell = cellNoise seed column (row + 1) right 0 cell

theorem cellNoise_isContinuous (seed : UInt32) (column row : Int) {cell : Int}
    (positive : 0 < cell) : IsContinuous seed column row cell where
  upperLeft := cellNoise_upperLeft seed positive
  upperRight := by rw [cellNoise_rightEdge, cellNoise_upperLeft seed positive]
  lowerLeft := by rw [cellNoise_lowerEdge, cellNoise_upperLeft seed positive]
  lowerRight := by
    rw [cellNoise_rightEdge, cellNoise_lowerEdge, cellNoise_upperLeft seed positive]
  rightEdge := cellNoise_rightEdge seed
  lowerEdge := cellNoise_lowerEdge seed

/-! ## Points -/

section

variable (seed : UInt32) (x y : Int) {cell : Int} (positive : 0 < cell)

include positive in
/-- Noise keeps the bounds that the corners around a point keep. -/
theorem latticeNoise_between {low high : Int}
    (bounds : ∀ height ∈ cornerHeights seed (x / cell) (y / cell), low ≤ height ∧ height ≤ high)
    (nonneg : 0 ≤ low) :
    low ≤ latticeNoise seed x y cell ∧ latticeNoise seed x y cell ≤ high := by
  have rest (n : Int) : 0 ≤ n % cell ∧ n % cell ≤ cell :=
    ⟨Int.emod_nonneg n (Int.ne_of_gt positive), Int.le_of_lt (Int.emod_lt_of_pos n positive)⟩
  exact cellNoise_between seed bounds nonneg positive (rest x) (rest y)

theorem cornerHeights_mem (column row : Int) :
    ∀ height ∈ cornerHeights seed column row, 0 ≤ height ∧ height ≤ 255 := by
  simp only [cornerHeights, List.forall_mem_cons]
  exact ⟨latticeHeight_mem seed _ _, latticeHeight_mem seed _ _, latticeHeight_mem seed _ _,
    latticeHeight_mem seed _ _, List.forall_mem_nil _⟩

include positive in
/-- Noise is a byte. -/
theorem latticeNoise_mem :
    0 ≤ latticeNoise seed x y cell ∧ latticeNoise seed x y cell ≤ 255 :=
  latticeNoise_between seed x y positive (cornerHeights_mem seed _ _) (Int.le_refl 0)

include positive in
theorem latticeNoise_at_corner (column row : Int) :
    latticeNoise seed (column * cell) (row * cell) cell = latticeHeight seed column row := by
  have nonzero : cell ≠ 0 := Int.ne_of_gt positive
  rw [latticeNoise_eq_cell, Int.mul_ediv_cancel column nonzero, Int.mul_ediv_cancel row nonzero,
    Int.mul_emod_left, Int.mul_emod_left, cellNoise_upperLeft seed positive]

end

/-! ## Large cells -/

/-- Two blocks that are the same but for one overlay of noise, in them or being them, which has
another cell; both its cells are at least the largest one that counts. -/
inductive VariesLargeCell : Node -> Node -> Prop where
  | here {header : NodeHeader} {attributes : Attributes} {children : List Node} {a : Int}
      (noise : attributes.pattern = .bozo) (large : largestCell ≤ attributes.a)
      (other : largestCell ≤ a) :
      VariesLargeCell (.mk header attributes children)
        (.mk header { attributes with a := a } children)
  | inside {header : NodeHeader} {attributes : Attributes} {front back : List Node}
      {node other : Node} (varies : VariesLargeCell node other) :
      VariesLargeCell (.mk header attributes (front ++ node :: back))
        (.mk header attributes (front ++ other :: back))

theorem min_measure_largest {a : Int} (large : largestCell ≤ a) (usual : Int) :
    min (measureOr a usual) largestCell = largestCell := by
  have positive : 0 < a := Int.lt_of_lt_of_le (by decide) large
  rw [measureOr, if_pos positive, Int.min_eq_right large]

/-- Noise with a cell that is larger than the largest one covers what noise with that one does. -/
theorem covers_bozo_large {a : Int} (large : largestCell ≤ a) (b : Int) (seed : UInt32)
    (point : LocalPoint) :
    Pattern.bozo.covers ⟨a, b, seed⟩ point = Pattern.bozo.covers ⟨largestCell, b, seed⟩ point := by
  simp only [Pattern.covers, min_measure_largest large, min_measure_largest (Int.le_refl _)]

namespace VariesLargeCell

variable {node other : Node} (varies : VariesLargeCell node other)

include varies in
theorem inside_eq (area : Area) : area.inside other.attributes = area.inside node.attributes := by
  cases varies <;> rfl

include varies in
theorem lays_eq : other.attributes.mask = node.attributes.mask ∧
    other.attributes.materialSpec = node.attributes.materialSpec := by
  cases varies <;> exact ⟨rfl, rfl⟩

include varies in
theorem coversPoint_eq {σ : Type u} (host : ScriptHost σ) (area : Area) (x y : Int) (state : σ) :
    coversPoint host other area x y state = coversPoint host node area x y state := by
  cases varies with
  | @here header attributes children a noise large larger =>
      have covers (point : LocalPoint) :
          Pattern.bozo.covers ⟨a, attributes.b, attributes.seed⟩ point =
            Pattern.bozo.covers ⟨attributes.a, attributes.b, attributes.seed⟩ point := by
        rw [covers_bozo_large larger, covers_bozo_large large]
      simp only [coversPoint, Node.attributes, Attributes.measures, Area.localPoint, noise, covers]
  | inside varies => exact coversPoint_congr host ⟨rfl, rfl⟩ area state

include varies in
theorem paintAll_eq {σ : Type u} (host : ScriptHost σ) (resolver : Resolver) (x y : Int)
    (area : Area) (shown : MaterialPair × σ) :
    Layer.paintAll host x y (Layer.ofNodes resolver area other.children) shown =
      Layer.paintAll host x y (Layer.ofNodes resolver area node.children) shown := by
  induction varies generalizing area shown with
  | here => rfl
  | @inside header attributes front back node other varies inductionHypothesis =>
      simp only [Node.children, ofNodes_append, ofNodes_cons, paintAll_append, Layer.paintAll]
      rw [varies.inside_eq, paint_congr host resolver (varies.coversPoint_eq host _ x y)
        varies.lays_eq fun _ shown => inductionHypothesis _ shown]

include varies in
theorem unknownMaterials_eq (resolver : Resolver) :
    unknownMaterials resolver other = unknownMaterials resolver node := by
  induction varies with
  | here => rfl
  | @inside header attributes front back node other varies inductionHypothesis =>
      have alike : unknownMaterial? resolver (.mk header attributes (front ++ other :: back)) =
          unknownMaterial? resolver (.mk header attributes (front ++ node :: back)) := rfl
      simp only [unknownMaterials] at inductionHypothesis
      simp only [unknownMaterials, Node.preorder, Node.preorderAll, preorderAll_append,
        List.filterMap_append, List.filterMap_cons, alike, inductionHypothesis]

include varies in
theorem render_eq {σ : Type u} (host : ScriptHost σ) (resolver : Resolver) (format : MapFormat)
    (players : Nat) (state : σ) :
    render host resolver format players other state =
      render host resolver format players node state := by
  have base : baseMaterial resolver other = baseMaterial resolver node := by
    rw [baseMaterial, varies.lays_eq.2, baseMaterial]
  have points (canvas : Canvas σ) (x y : Nat) (area : Area) :
      canvas.paintPoint host (baseMaterial resolver node)
          (Layer.ofNodes resolver area other.children) x y =
        canvas.paintPoint host (baseMaterial resolver node)
          (Layer.ofNodes resolver area node.children) x y := by
    simp only [Canvas.paintPoint, varies.paintAll_eq host resolver x y area]
  simp only [render, paint, paintRows_eq_points, Canvas.paintPoints, ofNode_eq, Layer.children,
    base, points, varies.unknownMaterials_eq]

end VariesLargeCell

/-! ## All noise -/

/-- What the noise at a point is: it is found without leaving the range of 64 bits; it is the noise
of the cell that the point lies in; and it lies between the least and the greatest height of the
corners of this cell, which are bytes. -/
structure IsBetweenCorners (seed : UInt32) (x y cell : Int) : Prop where
  checked : latticeNoise? seed x y cell = some (latticeNoise seed x y cell)
  inCell : latticeNoise seed x y cell =
    cellNoise seed (x / cell) (y / cell) (x % cell) (y % cell) cell
  between : Exists fun least => Exists fun greatest =>
    (cornerHeights seed (x / cell) (y / cell)).min? = some least ∧
      (cornerHeights seed (x / cell) (y / cell)).max? = some greatest ∧
      0 ≤ least ∧ least ≤ latticeNoise seed x y cell ∧
      latticeNoise seed x y cell ≤ greatest ∧ greatest ≤ 255

theorem latticeNoise_isBetween (seed : UInt32) {x y cell : Int}
    (column : int64.contains x = true) (row : int64.contains y = true) (positive : 0 < cell)
    (small : cell ≤ largestCell) : IsBetweenCorners seed x y cell where
  checked := latticeNoise_checked seed column row positive small
  inCell := latticeNoise_eq_cell seed x y cell
  between := by
    have bytes := cornerHeights_mem seed (x / cell) (y / cell)
    have some : cornerHeights seed (x / cell) (y / cell) ≠ [] := List.cons_ne_nil _ _
    rcases Option.isSome_iff_exists.mp (List.isSome_min?_of_ne_nil some) with ⟨least, isLeast⟩
    rcases Option.isSome_iff_exists.mp (List.isSome_max?_of_ne_nil some) with
      ⟨greatest, isGreatest⟩
    rcases List.min?_eq_some_iff.mp isLeast with ⟨low, least_le⟩
    rcases List.max?_eq_some_iff.mp isGreatest with ⟨high, le_greatest⟩
    have between := latticeNoise_between seed x y positive
      (fun height member => ⟨least_le height member, le_greatest height member⟩)
      (bytes least low).1
    exact ⟨least, greatest, isLeast, isGreatest, (bytes least low).1, between.1, between.2,
      (bytes greatest high).2⟩

/--
**Noise follows its lattice.**  Take noise with any seed and a cell of 1 to 4096 points.  At every
point of 64 bits it is found without overflow and lies between the least and the greatest of the
four heights around the point.  At every point of the lattice it is the height there, and the
noise of each cell goes on in the cells beside and below without a break, whatever the sign of
their coordinates and whether or not their numbers wrap around.  Cells of more than 4096 points
cover what those of 4096 do, so a map renders the same if one such cell is put for another.
-/
theorem noise_follows_lattice (seed : UInt32) {cell : Int} (positive : 0 < cell)
    (small : cell ≤ largestCell) :
    (∀ x y : Int, int64.contains x = true -> int64.contains y = true ->
        IsBetweenCorners seed x y cell) ∧
      (∀ column row : Int,
        latticeNoise seed (column * cell) (row * cell) cell = latticeHeight seed column row ∧
          latticeHeight seed (wrapped column) (wrapped row) = latticeHeight seed column row ∧
          IsContinuous seed column row cell) ∧
      (∀ a b : Int, largestCell ≤ a -> ∀ point : LocalPoint,
        Pattern.bozo.covers ⟨a, b, seed⟩ point =
          Pattern.bozo.covers ⟨largestCell, b, seed⟩ point) ∧
      ∀ map other : Node, VariesLargeCell map other ->
        ∀ {σ : Type u} (host : ScriptHost σ) (resolver : Resolver) (format : MapFormat)
          (players : Nat) (state : σ),
          render host resolver format players other state =
            render host resolver format players map state := by
  refine ⟨fun x y column row => ?_, fun column row => ⟨?_, ?_, ?_⟩, ?_, ?_⟩
  · exact latticeNoise_isBetween seed column row positive small
  · exact latticeNoise_at_corner seed positive column row
  · exact latticeHeight_wrapped seed column row
  · exact cellNoise_isContinuous seed column row positive
  · exact fun a b large point => covers_bozo_large large b seed point
  · exact fun map other varies σ => varies.render_eq

/-- A map with one overlay of noise. -/
def noisy (a : Int) : Node :=
  .mk ⟨.map, none, Place.unknown⟩ {}
    [.mk ⟨.overlay, none, Place.unknown⟩ { pattern := .bozo, a := a, material := some "Earth" } []]

/-- Around the point at the right end of the range, one row above the middle, there are heights
from 107 to 253.  The noise there is 252. -/
theorem noise_follows_lattice_atEnd :
    cornerHeights 5 2251799813685247 (-1) = [136, 107, 112, 253] ∧
      latticeNoise? 5 9223372036854775807 (-1) largestCell = some 252 ∧
      IsBetweenCorners 5 9223372036854775807 (-1) largestCell ∧
      render ScriptHost.absent ⟨[], [("earth", 1)]⟩ (MapFormat.fixed 40 30) 1 (noisy 1000000000)
          none =
        render ScriptHost.absent ⟨[], [("earth", 1)]⟩ (MapFormat.fixed 40 30) 1
          (noisy largestCell) none := by
  rcases noise_follows_lattice 5 (show 0 < largestCell by decide) (Int.le_refl _) with
    ⟨between, _, _, renders⟩
  have varies : VariesLargeCell (noisy largestCell) (noisy 1000000000) :=
    @VariesLargeCell.inside _ _ [] [] _ _ (.here rfl (Int.le_refl _) (by decide))
  refine ⟨by decide, by decide, between _ _ (by decide) (by decide), ?_⟩
  exact renders _ _ varies ScriptHost.absent _ _ 1 none

end Landscape
end Landform
