import Landform.Fault

namespace Landform

/-!
Rasters: rectangular grids of material indexes, stored row by row from the top.  The
number of stored cells is the product of the two sides, and every operation keeps it so.
A cell is addressed by integer coordinates; reading or writing outside the grid is not
an error but has no cell to act on.
-/

/-- A grid of material indexes. -/
structure Raster where
  width : Nat
  height : Nat
  cells : Array UInt8
  size_cells : cells.size = width * height

/-- A buffer whose length does not fit the sides of the grid. -/
structure Raster.SizeMismatch where
  width : Nat
  height : Nat
  given : Nat

namespace Raster

/-- The mismatch as a fault. -/
def SizeMismatch.fault (mismatch : SizeMismatch) : Fault where
  code := "RASTER_SIZE"
  message :=
    s!"Raster of {mismatch.width}x{mismatch.height} needs " ++
      s!"{mismatch.width * mismatch.height} pixels, got {mismatch.given}."

/-- The grid whose cells all hold one index. -/
def filled (width height : Nat) (value : UInt8) : Raster where
  width := width
  height := height
  cells := Array.replicate (width * height) value
  size_cells := Array.size_replicate

/-- The grid of sky. -/
def blank (width height : Nat) : Raster :=
  filled width height 0

/-- The grid with the given cells, row by row from the top. -/
def ofCells (width height : Nat) (cells : Array UInt8) : Except SizeMismatch Raster :=
  if h : cells.size = width * height then .ok ⟨width, height, cells, h⟩
  else .error ⟨width, height, cells.size⟩

/-- Whether a point lies on the grid. -/
def inBounds (raster : Raster) (x y : Int) : Bool :=
  decide (0 ≤ x) && decide (0 ≤ y) &&
    decide (x < raster.width) && decide (y < raster.height)

/-- The position of a point in the stored cells; meaningful for points on the grid. -/
def offset (raster : Raster) (x y : Int) : Nat :=
  y.toNat * raster.width + x.toNat

/-- The index at a point of the grid. -/
def get? (raster : Raster) (x y : Int) : Option UInt8 :=
  if raster.inBounds x y then raster.cells[raster.offset x y]? else none

/-- Writes one cell; a point outside leaves the grid as it is. -/
def set (raster : Raster) (x y : Int) (value : UInt8) : Raster :=
  if raster.inBounds x y then
    { raster with
      cells := raster.cells.setIfInBounds (raster.offset x y) value
      size_cells := by simpa using raster.size_cells }
  else raster

@[simp] theorem set_width (raster : Raster) (x y : Int) (value : UInt8) :
    (raster.set x y value).width = raster.width := by
  unfold set
  split <;> rfl

@[simp] theorem set_height (raster : Raster) (x y : Int) (value : UInt8) :
    (raster.set x y value).height = raster.height := by
  unfold set
  split <;> rfl

theorem get?_nat (raster : Raster) (x y : Nat) :
    raster.get? x y =
      if x < raster.width ∧ y < raster.height then raster.cells[y * raster.width + x]?
      else none := by
  simp only [get?, inBounds, offset, Int.natCast_nonneg, decide_true, Bool.true_and,
    Int.ofNat_lt, Bool.and_eq_true, decide_eq_true_eq, Int.toNat_natCast]

theorem offset_lt {width height x y : Nat} (column : x < width) (row : y < height) :
    y * width + x < width * height := by
  calc y * width + x < y * width + width := Nat.add_lt_add_left column _
    _ = (y + 1) * width := by rw [Nat.add_mul, Nat.one_mul]
    _ ≤ height * width := Nat.mul_le_mul_right _ row
    _ = width * height := Nat.mul_comm _ _

theorem offset_column {width x : Nat} (y : Nat) (column : x < width) :
    (y * width + x) % width = x := by
  rw [Nat.mul_add_mod_self_right, Nat.mod_eq_of_lt column]

theorem offset_row {width x : Nat} (y : Nat) (column : x < width) :
    (y * width + x) / width = y := by
  rw [Nat.mul_comm, Nat.mul_add_div (Nat.zero_lt_of_lt column), Nat.div_eq_of_lt column,
    Nat.add_zero]

theorem offset_inj {width x y i j : Nat} (first : x < width) (second : i < width)
    (same : y * width + x = j * width + i) : x = i ∧ y = j := by
  have columns := congrArg (· % width) same
  have rows := congrArg (· / width) same
  simp only [offset_column _ first, offset_column _ second] at columns
  simp only [offset_row _ first, offset_row _ second] at rows
  exact ⟨columns, rows⟩

/-- Writing a point changes what is read there and nowhere else. -/
theorem get?_set (raster : Raster) (x y i j : Nat) (value : UInt8) :
    (raster.set x y value).get? i j =
      if i = x ∧ j = y ∧ i < raster.width ∧ j < raster.height then some value
      else raster.get? i j := by
  by_cases inside : x < raster.width ∧ y < raster.height
  · have fits : y * raster.width + x < raster.cells.size := by
      rw [raster.size_cells]
      exact offset_lt inside.1 inside.2
    have written : (raster.set x y value).cells =
        raster.cells.setIfInBounds (y * raster.width + x) value := by
      simp [set, inBounds, offset, inside.1, inside.2]
    rw [get?_nat, get?_nat, set_width, set_height, written]
    by_cases shown : i < raster.width ∧ j < raster.height
    · by_cases same : i = x ∧ j = y
      · rcases same with ⟨rfl, rfl⟩
        simp [shown, fits]
      · have elsewhere : y * raster.width + x ≠ j * raster.width + i := by
          intro equal
          have points := offset_inj inside.1 shown.1 equal
          exact same ⟨points.1.symm, points.2.symm⟩
        have apart : ¬ (i = x ∧ j = y ∧ i < raster.width ∧ j < raster.height) :=
          fun all => same ⟨all.1, all.2.1⟩
        rw [if_pos shown, if_pos shown, if_neg apart,
          Array.getElem?_setIfInBounds_ne elsewhere]
    · have hidden : ¬ (i = x ∧ j = y ∧ i < raster.width ∧ j < raster.height) :=
        fun all => shown all.2.2
      rw [if_neg shown, if_neg shown, if_neg hidden]
  · have untouched : raster.set x y value = raster := by
      have outside : raster.inBounds x y = false := by
        simp only [inBounds, Int.natCast_nonneg, decide_true, Bool.true_and, Int.ofNat_lt]
        rw [← Bool.decide_and]
        exact decide_eq_false inside
      simp only [set, outside, Bool.false_eq_true, if_false]
    have apart : ¬ (i = x ∧ j = y ∧ i < raster.width ∧ j < raster.height) := by
      rintro ⟨rfl, rfl, shown⟩
      exact inside shown
    rw [untouched, if_neg apart]

/-- Writes every cell. -/
def fill (raster : Raster) (value : UInt8) : Raster :=
  filled raster.width raster.height value

/--
The grid whose cell at a column and a row is the value of a function there.
-/
def generate (width height : Nat) (value : Nat -> Nat -> UInt8) : Raster where
  width := width
  height := height
  cells := Array.ofFn fun cell : Fin (width * height) =>
    value (cell.val % width) (cell.val / width)
  size_cells := Array.size_ofFn

theorem get?_generate (width height : Nat) (value : Nat -> Nat -> UInt8) (x y : Nat) :
    (generate width height value).get? x y =
      if x < width ∧ y < height then some (value x y) else none := by
  rw [get?_nat]
  by_cases inside : x < width ∧ y < height
  · have shown : x < (generate width height value).width ∧
        y < (generate width height value).height := inside
    have fits := offset_lt inside.1 inside.2
    rw [if_pos shown, if_pos inside]
    simp only [generate, Array.getElem?_ofFn, fits, dif_pos, offset_column y inside.1,
      offset_row y inside.1]
  · have hidden : ¬ (x < (generate width height value).width ∧
        y < (generate width height value).height) := inside
    rw [if_neg hidden, if_neg inside]

/-- Two grids with the same sides that read alike are equal. -/
theorem ext_get? {first second : Raster} (widths : first.width = second.width)
    (heights : first.height = second.height)
    (alike : ∀ x y : Nat, first.get? x y = second.get? x y) : first = second := by
  have cells : first.cells = second.cells := by
    apply Array.ext
    · rw [first.size_cells, second.size_cells, widths, heights]
    · intro cell inFirst inSecond
      have wide : 0 < first.width := by
        apply Nat.pos_of_ne_zero
        intro flat
        rw [first.size_cells, flat, Nat.zero_mul] at inFirst
        exact Nat.not_lt_zero _ inFirst
      have column : cell % first.width < first.width := Nat.mod_lt _ wide
      have row : cell / first.width < first.height := by
        apply Nat.div_lt_of_lt_mul
        rw [← first.size_cells]
        exact inFirst
      have place : cell / first.width * first.width + cell % first.width = cell :=
        Nat.div_add_mod' cell first.width
      have read := alike (cell % first.width) (cell / first.width)
      rw [get?_nat, get?_nat, ← widths, ← heights, if_pos ⟨column, row⟩, if_pos ⟨column, row⟩,
        place, Array.getElem?_eq_getElem inFirst, Array.getElem?_eq_getElem inSecond] at read
      exact Option.some.inj read
  cases first
  cases second
  cases widths
  cases heights
  cases cells
  rfl

/-- Writes one index to all cells whose column and row pass a test. -/
def paintWhere (raster : Raster) (test : Nat -> Nat -> Bool) (value : UInt8) : Raster :=
  { raster with
    cells := raster.cells.mapIdx fun cell old =>
      if test (cell % raster.width) (cell / raster.width) then value else old
    size_cells := by simpa using raster.size_cells }

/-- Gives the grid new sides: what both grids have in common is kept, the rest is sky. -/
def resize (raster : Raster) (width height : Nat) : Raster :=
  generate width height fun x y => (raster.get? x y).getD 0

/-- Whether a row lies within the stored cells. -/
def hasRow (raster : Raster) (y : Nat) : Bool :=
  decide (y * raster.width + raster.width ≤ raster.cells.size)

/-- The cells of a row from the left, if the row lies within the stored cells. -/
def row? (raster : Raster) (y : Nat) : Option (Array UInt8) :=
  if raster.hasRow y then
    some (raster.cells.extract (y * raster.width) (y * raster.width + raster.width))
  else none

/-- The rows of the grid from the top. -/
def rows (raster : Raster) : List (Array UInt8) :=
  (List.range raster.height).map fun y =>
    raster.cells.extract (y * raster.width) (y * raster.width + raster.width)

end Raster

end Landform
