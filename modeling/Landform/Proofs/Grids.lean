import Landform.Raster

namespace Landform

/-!
# Rasters as grids

A raster keeps its cells in one buffer, row by row, so where a cell lies depends on the width, and
a raster that is resized lays its cells anew.  None of that can be seen from outside: a raster is
read as a function of all whole coordinates, which has a value exactly between its sides, and every
operation does to that function what it would do to a sheet of squared paper.

The grids here are such functions.  They say nothing about buffers, so that a run of operations on
grids is what a run on rasters is held against (`run_matches`): each raster on the way reads like
its grid, every writing is answered alike, and rows are cut out of the buffer where they belong.
No bound is set to the sides or the coordinates.
-/

/-! ## Grids -/

/-- Whether a point lies between some sides. -/
def Within (width height : Nat) (x y : Int) : Prop :=
  0 ≤ x ∧ x < width ∧ 0 ≤ y ∧ y < height

instance withinDecidable (width height : Nat) (x y : Int) : Decidable (Within width height x y) :=
  inferInstanceAs (Decidable (_ ∧ _))

/-- A function of all whole coordinates that has a value exactly between its sides. -/
@[ext]
structure Grid where
  width : Nat
  height : Nat
  cell : Int -> Int -> Option UInt8
  isSome_cell : ∀ x y, (cell x y).isSome = true ↔ Within width height x y

namespace Grid

/-- The grid that has the values of a function between its sides. -/
def tabulate (width height : Nat) (value : Int -> Int -> UInt8) : Grid where
  width := width
  height := height
  cell x y := if Within width height x y then some (value x y) else none
  isSome_cell x y := by
    by_cases inside : Within width height x y <;> simp [inside]

/-- Writes one cell, if there is one at the point. -/
def set (grid : Grid) (x y : Int) (value : UInt8) : Grid where
  width := grid.width
  height := grid.height
  cell i j := if i = x ∧ j = y then (grid.cell i j).map fun _ => value else grid.cell i j
  isSome_cell i j := by
    rw [← grid.isSome_cell]
    split <;> simp

/-- Writes every cell. -/
def fill (grid : Grid) (value : UInt8) : Grid where
  width := grid.width
  height := grid.height
  cell i j := (grid.cell i j).map fun _ => value
  isSome_cell i j := by
    rw [← grid.isSome_cell, Option.isSome_map]

/-- Gives the grid new sides; cells that it did not have show the sky. -/
def resize (grid : Grid) (width height : Nat) : Grid :=
  tabulate width height fun x y => (grid.cell x y).getD 0

end Grid

/-! ## Operations -/

/-- What can be done to a raster or to a grid. -/
inductive RasterOperation where
  | set (x y : Int) (value : UInt8)
  | fill (value : UInt8)
  | resize (width height : Nat)

/-- A grid after an operation, and whether there was a cell to write, if one was to be written. -/
def Grid.perform (grid : Grid) : RasterOperation -> Grid × Option Bool
  | .set x y value => (grid.set x y value, some (grid.cell x y).isSome)
  | .fill value => (grid.fill value, none)
  | .resize width height => (grid.resize width height, none)

/-- A raster after an operation, and whether there was a cell to write, if one was to be written. -/
def Raster.perform (raster : Raster) : RasterOperation -> Raster × Option Bool
  | .set x y value => (raster.set x y value, some (raster.inBounds x y))
  | .fill value => (raster.fill value, none)
  | .resize width height => (raster.resize width height, none)

section

variable {σ : Type u} {τ : Type v} {α : Type w} {β : Type x}

/-- What is there after some steps, one after another, and the answers to them. -/
def stepAll (perform : σ -> α -> σ × β) (state : σ) : List α -> σ × List β
  | [] => (state, [])
  | step :: rest =>
      let (next, answer) := perform state step
      let (last, answers) := stepAll perform next rest
      (last, answer :: answers)

/-- If every step is seen as a step on what is seen, so is every run. -/
theorem stepAll_seen {perform : σ -> α -> σ × β} {performSeen : τ -> α -> τ × β} {seen : σ -> τ}
    (follows : ∀ state step,
      performSeen (seen state) step = ((perform state step).map seen id)) (state : σ)
    (steps : List α) :
    stepAll performSeen (seen state) steps = (stepAll perform state steps).map seen id := by
  induction steps generalizing state with
  | nil => rfl
  | cons step rest inductionHypothesis =>
      simp only [stepAll, follows, Prod.map_fst, Prod.map_snd, inductionHypothesis]
      rfl

end

/-! ## How rasters are read -/

/-- A point between the sides has natural coordinates. -/
theorem exists_of_within {width height : Nat} {x y : Int} (inside : Within width height x y) :
    Exists fun column : Nat => Exists fun row : Nat =>
      x = column ∧ y = row ∧ column < width ∧ row < height := by
  obtain ⟨left, right, above, below⟩ := inside
  exact ⟨x.toNat, y.toNat, by omega, by omega, by omega, by omega⟩

theorem within_nat {width height column row : Nat} (inWidth : column < width)
    (inHeight : row < height) : Within width height column row := by
  unfold Within
  omega

theorem Grid.cell_outside {grid : Grid} {x y : Int}
    (outside : ¬ Within grid.width grid.height x y) : grid.cell x y = none := by
  rw [← grid.isSome_cell] at outside
  exact Option.not_isSome_iff_eq_none.mp outside

/-- Grids of the same sides are equal if they agree between them. -/
theorem Grid.eq_of_cells {first second : Grid} (widths : first.width = second.width)
    (heights : first.height = second.height)
    (alike : ∀ column row : Nat, column < first.width -> row < first.height ->
      first.cell column row = second.cell column row) : first = second := by
  apply Grid.ext widths heights
  funext x y
  by_cases inside : Within first.width first.height x y
  · obtain ⟨column, row, rfl, rfl, inWidth, inHeight⟩ := exists_of_within inside
    exact alike column row inWidth inHeight
  · rw [cell_outside inside]
    rw [widths, heights] at inside
    rw [cell_outside inside]

/-- A grid is told by its values between the sides. -/
theorem Grid.eq_tabulate {grid : Grid} {width height : Nat} {value : Int -> Int -> UInt8}
    (widths : grid.width = width) (heights : grid.height = height)
    (values : ∀ column row : Nat, column < width -> row < height ->
      grid.cell column row = some (value column row)) : grid = tabulate width height value := by
  apply eq_of_cells widths heights
  intro column row inWidth inHeight
  rw [widths] at inWidth
  rw [heights] at inHeight
  exact (values column row inWidth inHeight).trans (if_pos (within_nat inWidth inHeight)).symm

namespace Raster

theorem inBounds_iff (raster : Raster) (x y : Int) :
    raster.inBounds x y = true ↔ Within raster.width raster.height x y := by
  simp only [inBounds, Within, Bool.and_eq_true, decide_eq_true_eq]
  omega

/-- A cell lies in the buffer behind all rows above and the cells before it. -/
theorem get?_eq_getElem (raster : Raster) {column row : Nat} (inWidth : column < raster.width)
    (inHeight : row < raster.height) :
    Exists fun fits : row * raster.width + column < raster.cells.size =>
      raster.get? column row = some raster.cells[row * raster.width + column] := by
  have fits : row * raster.width + column < raster.cells.size := by
    rw [raster.size_cells]
    exact offset_lt inWidth inHeight
  refine ⟨fits, ?_⟩
  rw [get?_nat, if_pos ⟨inWidth, inHeight⟩, Array.getElem?_eq_getElem fits]

theorem isSome_get? (raster : Raster) (x y : Int) :
    (raster.get? x y).isSome = true ↔ Within raster.width raster.height x y := by
  rw [← inBounds_iff]
  by_cases inside : raster.inBounds x y = true
  · obtain ⟨column, row, rfl, rfl, inWidth, inHeight⟩ :=
      exists_of_within ((inBounds_iff _ _ _).mp inside)
    obtain ⟨fits, read⟩ := raster.get?_eq_getElem inWidth inHeight
    simp only [read, inside, Option.isSome_some]
  · simp only [get?, inside, if_false, Option.isSome_none, Bool.false_eq_true]

/-- A raster as it is read. -/
def grid (raster : Raster) : Grid where
  width := raster.width
  height := raster.height
  cell := raster.get?
  isSome_cell := raster.isSome_get?

theorem get?_outside {raster : Raster} {x y : Int}
    (outside : ¬ Within raster.width raster.height x y) : raster.get? x y = none :=
  @Grid.cell_outside raster.grid x y outside

theorem set_outside {raster : Raster} {x y : Int}
    (outside : ¬ Within raster.width raster.height x y) (value : UInt8) :
    raster.set x y value = raster := by
  rw [← inBounds_iff] at outside
  exact if_neg outside

theorem set_grid (raster : Raster) (x y : Int) (value : UInt8) :
    (raster.set x y value).grid = raster.grid.set x y value := by
  apply Grid.eq_of_cells (raster.set_width x y value) (raster.set_height x y value)
  intro column row inWidth inHeight
  show (raster.set x y value).get? column row =
    if (column : Int) = x ∧ (row : Int) = y then (raster.get? column row).map fun _ => value
    else raster.get? column row
  have wide : column < raster.width := raster.set_width x y value ▸ inWidth
  have high : row < raster.height := raster.set_height x y value ▸ inHeight
  by_cases target : Within raster.width raster.height x y
  · obtain ⟨across, down, rfl, rfl, _, _⟩ := exists_of_within target
    obtain ⟨old, read⟩ := Option.isSome_iff_exists.mp
      ((raster.isSome_get? column row).mpr (within_nat wide high))
    simp only [get?_set, Int.natCast_inj, wide, high, and_true, read, Option.map_some]
  -- Nothing is written, and the point is not the one where something should be.
  · have other : ¬ ((column : Int) = x ∧ (row : Int) = y) := by
      rintro ⟨rfl, rfl⟩
      exact target (within_nat wide high)
    rw [set_outside target, if_neg other]

theorem ofCells_grid {width height : Nat} {cells : Array UInt8} {raster : Raster}
    (made : ofCells width height cells = .ok raster) :
    raster.grid = .tabulate width height fun x y =>
      (cells[y.toNat * width + x.toNat]?).getD 0 := by
  unfold ofCells at made
  split at made
  · rename_i size_cells
    cases made
    refine Grid.eq_tabulate rfl rfl fun column row inWidth inHeight => ?_
    obtain ⟨fits, read⟩ := get?_eq_getElem ⟨width, height, cells, size_cells⟩ inWidth inHeight
    refine read.trans ?_
    rw [Int.toNat_natCast, Int.toNat_natCast, Array.getElem?_eq_getElem fits, Option.getD_some]
  · cases made

theorem filled_grid (width height : Nat) (value : UInt8) :
    (filled width height value).grid = .tabulate width height fun _ _ => value := by
  refine Grid.eq_tabulate rfl rfl fun column row inWidth inHeight => ?_
  obtain ⟨fits, read⟩ := (filled width height value).get?_eq_getElem inWidth inHeight
  exact read.trans (congrArg some (Array.getElem_replicate fits))

theorem fill_grid (raster : Raster) (value : UInt8) :
    (raster.fill value).grid = raster.grid.fill value := by
  rw [fill, filled_grid]
  refine (@Grid.eq_tabulate (raster.grid.fill value) _ _ _ rfl rfl ?_).symm
  intro column row inWidth inHeight
  obtain ⟨old, read⟩ := Option.isSome_iff_exists.mp
    ((raster.isSome_get? column row).mpr (within_nat inWidth inHeight))
  exact congrArg (Option.map fun _ => value) read

theorem resize_grid (raster : Raster) (width height : Nat) :
    (raster.resize width height).grid = raster.grid.resize width height :=
  Grid.eq_tabulate rfl rfl fun column row inWidth inHeight =>
    (get?_generate width height _ column row).trans (if_pos ⟨inWidth, inHeight⟩)

/-- Every operation on a raster is the operation on what is read of it. -/
theorem perform_grid (raster : Raster) (operation : RasterOperation) :
    raster.grid.perform operation = (raster.perform operation).map grid id := by
  cases operation with
  | set x y value =>
      have answer : (raster.get? x y).isSome = raster.inBounds x y := by
        rw [Bool.eq_iff_iff, isSome_get?, inBounds_iff]
      exact Prod.ext (raster.set_grid x y value).symm (congrArg some answer)
  | fill value => exact Prod.ext (raster.fill_grid value).symm rfl
  | resize width height => exact Prod.ext (raster.resize_grid width height).symm rfl

theorem run_grid (raster : Raster) (operations : List RasterOperation) :
    stepAll Grid.perform raster.grid operations =
      (stepAll perform raster operations).map grid id :=
  stepAll_seen perform_grid raster operations

/-! ## Rows -/

theorem hasRow_iff (raster : Raster) (y : Nat) :
    raster.hasRow y = true ↔ y < raster.height ∨ raster.width = 0 := by
  rw [hasRow, decide_eq_true_iff, raster.size_cells, ← Nat.succ_mul, Nat.mul_comm raster.width]
  constructor
  · intro fits
    rcases Nat.eq_zero_or_pos raster.width with flat | wide
    · exact Or.inr flat
    · exact Or.inl (Nat.le_of_mul_le_mul_right fits wide)
  · rintro (below | flat)
    · exact Nat.mul_le_mul_right _ below
    · simp [flat]

/-- There is no row exactly below a raster that has columns. -/
theorem row?_eq_none_iff (raster : Raster) (y : Nat) :
    raster.row? y = none ↔ raster.height ≤ y ∧ 0 < raster.width := by
  have there := raster.hasRow_iff y
  unfold row?
  cases found : raster.hasRow y with
  | true =>
      simp only [found, true_iff] at there
      simp only [if_true, reduceCtorEq, false_iff]
      omega
  | false =>
      simp only [found, Bool.false_eq_true, false_iff] at there
      simp only [Bool.false_eq_true, if_false, true_iff]
      omega

/-- A row lists its cells from the left. -/
theorem row?_lists (raster : Raster) {y : Nat} (below : y < raster.height) :
    Exists fun row => raster.row? y = some row ∧
      row.toList.map some = (List.range raster.width).map fun x : Nat => raster.get? x y := by
  refine ⟨_, if_pos ((raster.hasRow_iff y).mpr (Or.inl below)), ?_⟩
  have fits : y * raster.width + raster.width ≤ raster.cells.size :=
    of_decide_eq_true ((raster.hasRow_iff y).mpr (Or.inl below))
  apply List.ext_getElem
  · simp only [List.length_map, Array.length_toList, Array.size_extract, List.length_range]
    omega
  · intro x _ inRange
    have inWidth : x < raster.width := by simpa using inRange
    obtain ⟨_, read⟩ := raster.get?_eq_getElem inWidth below
    simp only [List.getElem_map, Array.getElem_toList, Array.getElem_extract, List.getElem_range,
      read]

/-! ## Resizing twice -/

theorem get?_resize (raster : Raster) (width height : Nat) (x y : Int) :
    (raster.resize width height).get? x y =
      if Within width height x y then some ((raster.get? x y).getD 0) else none :=
  congrFun (congrFun (congrArg Grid.cell (raster.resize_grid width height)) x) y

/-- What was cut off does not come back. -/
theorem get?_resize_cut (raster : Raster) {width height wider higher : Nat} {x y : Int}
    (cut : ¬ Within width height x y) (shown : Within wider higher x y) :
    ((raster.resize width height).resize wider higher).get? x y = some 0 := by
  rw [get?_resize, if_pos shown, get?_resize, if_neg cut, Option.getD_none]

/-- A size on the way makes no difference if all cells pass it that are there before and after. -/
theorem resize_resize (raster : Raster) {width height last lowest : Nat}
    (covers : ∀ x y, Within raster.width raster.height x y -> Within last lowest x y ->
      Within width height x y) :
    (raster.resize width height).resize last lowest = raster.resize last lowest := by
  refine ext_get? rfl rfl fun x y => ?_
  rw [get?_resize, get?_resize, get?_resize]
  by_cases shown : Within last lowest x y
  · rw [if_pos shown, if_pos shown]
    by_cases kept : Within raster.width raster.height x y
    · rw [if_pos (covers x y kept shown), Option.getD_some]
    · rw [get?_outside kept]
      split <;> rfl
  · rw [if_neg shown, if_neg shown]

end Raster

/-! ## Runs -/

/-- The ways in which a raster is made. -/
inductive RasterOrigin where
  | blank (width height : Nat)
  | filled (width height : Nat) (value : UInt8)
  | ofCells (width height : Nat) (cells : Array UInt8)

namespace RasterOrigin

/-- The raster that is made, unless the number of its cells does not fit its sides. -/
def make : RasterOrigin -> Except Raster.SizeMismatch Raster
  | .blank width height => .ok (.blank width height)
  | .filled width height value => .ok (.filled width height value)
  | .ofCells width height cells => Raster.ofCells width height cells

/-- What is meant to be read at first; given cells are taken row by row from the top. -/
def grid : RasterOrigin -> Grid
  | .blank width height => .tabulate width height fun _ _ => 0
  | .filled width height value => .tabulate width height fun _ _ => value
  | .ofCells width height cells =>
      .tabulate width height fun x y => (cells[y.toNat * width + x.toNat]?).getD 0

theorem make_grid {origin : RasterOrigin} {raster : Raster} (made : origin.make = .ok raster) :
    raster.grid = origin.grid := by
  cases origin with
  | blank width height =>
      cases made
      exact Raster.filled_grid width height 0
  | filled width height value =>
      cases made
      exact Raster.filled_grid width height value
  | ofCells width height cells => exact Raster.ofCells_grid made

end RasterOrigin

namespace Raster

/-- Nothing that is read of a raster tells it from a grid. -/
structure Matches (raster : Raster) (grid : Grid) : Prop where
  width : raster.width = grid.width
  height : raster.height = grid.height
  /-- The buffer has as many cells as the grid. -/
  stored : raster.cells.size = grid.width * grid.height
  read : ∀ x y, raster.get? x y = grid.cell x y
  /-- A row lists its cells from the left. -/
  row : ∀ y : Nat, y < grid.height -> Exists fun row => raster.row? y = some row ∧
    row.toList.map some = (List.range grid.width).map fun x : Nat => grid.cell x y
  /-- There is no row exactly below a raster that has columns. -/
  noRow : ∀ y, raster.row? y = none ↔ grid.height ≤ y ∧ 0 < grid.width
  /-- What was cut off does not come back. -/
  cut : ∀ width height wider higher x y, ¬ Within width height x y -> Within wider higher x y ->
    ((raster.resize width height).resize wider higher).get? x y = some 0
  /-- A size on the way makes no difference if all cells pass it that are there before and after. -/
  direct : ∀ width height last lowest,
    (∀ x y, Within grid.width grid.height x y -> Within last lowest x y ->
      Within width height x y) ->
    (raster.resize width height).resize last lowest = raster.resize last lowest

theorem matches_grid (raster : Raster) : raster.Matches raster.grid where
  width := rfl
  height := rfl
  stored := raster.size_cells
  read _ _ := rfl
  row _ below := raster.row?_lists below
  noRow y := raster.row?_eq_none_iff y
  cut _ _ _ _ _ _ cut shown := raster.get?_resize_cut cut shown
  direct _ _ _ _ covers := raster.resize_resize covers

/-- However a raster is made and whatever is done to it then, it cannot be told from the grid that
the same is done to, and every writing is answered alike. -/
theorem run_matches {origin : RasterOrigin} {start : Raster} (made : origin.make = .ok start)
    (operations : List RasterOperation) :
    (stepAll perform start operations).1.Matches
      (stepAll Grid.perform origin.grid operations).1 ∧
    (stepAll perform start operations).2 = (stepAll Grid.perform origin.grid operations).2 := by
  have same := run_grid start operations
  rw [RasterOrigin.make_grid made] at same
  rw [same]
  exact ⟨matches_grid _, rfl⟩

/-- Four cells of which all but one are cut off, after one writing on the raster and one beside. -/
def cutting : List RasterOperation :=
  [.set 1 1 9, .set (-1) 0 9, .resize 1 1, .resize 2 2, .set 0 1 7]

theorem run_matches_cutting :
    (RasterOrigin.ofCells 2 2 #[1, 2, 3, 4]).make = .ok ⟨2, 2, #[1, 2, 3, 4], rfl⟩ ∧
      (stepAll perform ⟨2, 2, #[1, 2, 3, 4], rfl⟩ cutting).2 =
        [some true, some false, none, none, some true] ∧
      (stepAll perform ⟨2, 2, #[1, 2, 3, 4], rfl⟩ cutting).1.get? 0 0 = some 1 ∧
      (stepAll perform ⟨2, 2, #[1, 2, 3, 4], rfl⟩ cutting).1.get? 1 1 = some 0 ∧
      (stepAll perform ⟨2, 2, #[1, 2, 3, 4], rfl⟩ cutting).1.get? 0 1 = some 7 ∧
      (stepAll perform ⟨2, 2, #[1, 2, 3, 4], rfl⟩ cutting).1.row? 2 = none := by
  obtain ⟨last, answers⟩ :=
    @run_matches (.ofCells 2 2 #[1, 2, 3, 4]) ⟨2, 2, #[1, 2, 3, 4], rfl⟩ rfl cutting
  exact ⟨rfl, answers.trans (by decide), (last.read 0 0).trans (by decide),
    (last.read 1 1).trans (by decide), (last.read 0 1).trans (by decide),
    (last.noRow 2).mpr (by decide)⟩

end Raster

end Landform
