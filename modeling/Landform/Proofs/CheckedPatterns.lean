import Landform.Landscape.Area

namespace Landform

/-!
# Patterns in arithmetic that can fail

Patterns and areas are computed with integers of 64 bits.  Some operations are said to move a
result outside of the range to its nearest end.  Of all the others it is taken for granted that
they stay inside and never divide by zero.  Here nothing is taken for granted: an operation that
leaves the range, or divides by zero, gives nothing, and a computation gives nothing as soon as
one of its operations does.

Areas and local points never fail, since every operation on them is moved into the range or
divides what was.  Nor do patterns, with one exception.  A checker adds the numbers of a column
and a row as they are.  Both may come close to the end of the range if a checker has squares of
one point, and then their sum is beyond it.
-/

namespace Number

namespace Span

/-- A sum, unless it leaves the range. -/
def plus? (span : Span) (m n : Int) : Option Int :=
  span.check (m + n)

/-- A difference, unless it leaves the range. -/
def minus? (span : Span) (m n : Int) : Option Int :=
  span.check (m - n)

/-- A product, unless it leaves the range. -/
def times? (span : Span) (m n : Int) : Option Int :=
  span.check (m * n)

/-- A quotient rounded toward zero, unless it leaves the range.  There is none by zero. -/
def quotient? (span : Span) (m n : Int) : Option Int :=
  if n = 0 then none else span.check (Int.tdiv m n)

/-- A quotient with a remainder that is not negative, unless it leaves the range. -/
def wholeQuotient? (span : Span) (m n : Int) : Option Int :=
  if n = 0 then none else span.check (m / n)

/-- The remainder that is not negative.  There is none where there is no quotient. -/
def remainder? (span : Span) (m n : Int) : Option Int :=
  (span.wholeQuotient? m n).map fun _ => m % n

section

variable {span : Span} {m n : Int}

theorem check_of_contains (inside : span.contains n = true) : span.check n = some n :=
  if_pos inside

theorem contains_saturate (span : Span) (n : Int) : span.contains (span.saturate n) = true :=
  (span.contains_iff _).mpr (span.saturate_mem n)

/-- Division by a positive number stays inside of a range around zero. -/
theorem contains_ediv (around : span.contains 0 = true) (inside : span.contains m = true)
    (positive : 0 < n) : span.contains (m / n) = true := by
  rw [contains_iff] at around inside ⊢
  constructor
  · apply (Int.le_ediv_iff_mul_le positive).mpr
    have least : span.low * n ≤ span.low * 1 :=
      Int.mul_le_mul_of_nonpos_left around.1 (show 1 ≤ n from positive)
    omega
  · apply Int.le_of_lt_add_one
    apply (Int.ediv_lt_iff_lt_mul positive).mpr
    have most : (span.high + 1) * 1 ≤ (span.high + 1) * n :=
      Int.mul_le_mul_of_nonneg_left (show 1 ≤ n from positive) (by omega)
    omega

theorem contains_tdiv (around : span.contains 0 = true) (inside : span.contains m = true)
    (positive : 0 < n) : span.contains (Int.tdiv m n) = true := by
  rcases Int.le_total 0 m with above | below
  · rw [Int.tdiv_eq_ediv_of_nonneg above]
    exact contains_ediv around inside positive
  · have opposite : Int.tdiv m n = -(-m / n) := by
      rw [← Int.tdiv_eq_ediv_of_nonneg (Int.neg_nonneg_of_nonpos below), Int.neg_tdiv, Int.neg_neg]
    have least : 0 ≤ -m / n := Int.ediv_nonneg (by omega) (by omega)
    have most : -m / n ≤ -m := Int.ediv_le_self n (by omega)
    rw [contains_iff] at around inside ⊢
    omega

theorem quotient_of_pos (around : span.contains 0 = true) (inside : span.contains m = true)
    (positive : 0 < n) : span.quotient? m n = some (Int.tdiv m n) := by
  rw [quotient?, if_neg (Int.ne_of_gt positive),
    check_of_contains (contains_tdiv around inside positive)]

theorem wholeQuotient_of_pos (around : span.contains 0 = true) (inside : span.contains m = true)
    (positive : 0 < n) : span.wholeQuotient? m n = some (m / n) := by
  rw [wholeQuotient?, if_neg (Int.ne_of_gt positive),
    check_of_contains (contains_ediv around inside positive)]

theorem remainder_of_pos (around : span.contains 0 = true) (inside : span.contains m = true)
    (positive : 0 < n) : span.remainder? m n = some (m % n) := by
  rw [remainder?, wholeQuotient_of_pos around inside positive]
  rfl

end

end Span

/-- The range of 64 bits in numerals. -/
theorem int64_contains_iff (n : Int) : int64.contains n = true ↔
    -9223372036854775808 ≤ n ∧ n ≤ 9223372036854775807 :=
  int64.contains_iff n

theorem int64_check {n : Int} (low : -9223372036854775808 ≤ n) (high : n ≤ 9223372036854775807) :
    int64.check n = some n :=
  Span.check_of_contains ((int64_contains_iff n).mpr ⟨low, high⟩)

theorem int64_contains_zero : int64.contains 0 = true := by
  decide

end Number

namespace Landscape

open Number

/-!
## Areas

Here and below, a definition is the one whose name lacks the question mark, with operations that
can fail.
-/

namespace Area

def percentOf? (extent percent : Int) : Option Int :=
  int64.quotient? (int64.saturate (extent * percent)) 100

def inside? (area : Area) (attributes : Attributes) : Option Area := do
  let right ← percentOf? area.width attributes.x
  let down ← percentOf? area.height attributes.y
  let width ← percentOf? area.width attributes.width
  let height ← percentOf? area.height attributes.height
  some ⟨int64.saturate (area.x + right), int64.saturate (area.y + down), max width 0,
    max height 0⟩

def zoomed? (distance zoom : Int) : Option Int :=
  int64.quotient? (int64.saturate (distance * 100)) (max zoom 1)

def localPoint? (area : Area) (attributes : Attributes) (x y : Int) : Option LocalPoint := do
  let column ← zoomed? (int64.saturate (x - area.x)) attributes.zoomX
  let row ← zoomed? (int64.saturate (y - area.y)) attributes.zoomY
  let width ← zoomed? area.width attributes.zoomX
  let height ← zoomed? area.height attributes.zoomY
  some ⟨column, row, width, height⟩

theorem percentOf_checked (extent percent : Int) :
    percentOf? extent percent = some (percentOf extent percent) :=
  Span.quotient_of_pos int64_contains_zero (int64.contains_saturate _) (by decide)

/-- The area of an overlay never fails. -/
theorem inside_checked (area : Area) (attributes : Attributes) :
    area.inside? attributes = some (area.inside attributes) := by
  simp only [inside?, percentOf_checked, Option.bind_eq_bind, Option.bind_some]
  rfl

theorem zoomed_checked (distance zoom : Int) :
    zoomed? distance zoom = some (zoomed distance zoom) :=
  Span.quotient_of_pos int64_contains_zero (int64.contains_saturate _) (by omega)

theorem contains_zoomed (distance zoom : Int) : int64.contains (zoomed distance zoom) = true :=
  Span.contains_tdiv int64_contains_zero (int64.contains_saturate _) (by omega)

/-- Nor do the coordinates of a point in it, which have 64 bits however the area came about. -/
theorem localPoint_checked (area : Area) (attributes : Attributes) (x y : Int) :
    area.localPoint? attributes x y = some (area.localPoint attributes x y) := by
  simp only [localPoint?, zoomed_checked, Option.bind_eq_bind, Option.bind_some]
  rfl

end Area

/-! ## Noise -/

/-- Two numbers, each times its share of a whole. -/
def blend (first second share whole : Int) : Int :=
  first * (whole - share) + second * share

def blend? (first second share whole : Int) : Option Int := do
  let rest ← int64.minus? whole share
  let near ← int64.times? first rest
  let far ← int64.times? second share
  int64.plus? near far

/-- The neighbours of a lattice point are found by addition that wraps around, which hashing
cannot tell from addition without an end. -/
def latticeNoise? (seed : UInt32) (x y cell : Int) : Option Int := do
  let column ← int64.wholeQuotient? x cell
  let row ← int64.wholeQuotient? y cell
  let right ← int64.remainder? x cell
  let down ← int64.remainder? y cell
  let top ← blend? (latticeHeight seed column row) (latticeHeight seed (column + 1) row) right cell
  let bottom ←
    blend? (latticeHeight seed column (row + 1)) (latticeHeight seed (column + 1) (row + 1)) right
      cell
  let weighted ← blend? top bottom down cell
  let square ← int64.times? cell cell
  int64.quotient? weighted square

section

variable {low high first second share whole : Int}

/-- What two numbers come to lies where they lie, times the whole. -/
theorem blend_between (firstMem : low ≤ first ∧ first ≤ high)
    (secondMem : low ≤ second ∧ second ≤ high) (shareMem : 0 ≤ share ∧ share ≤ whole) :
    low * whole ≤ blend first second share whole ∧
      blend first second share whole ≤ high * whole := by
  have rest : 0 ≤ whole - share := by omega
  have shares (n : Int) : n * (whole - share) + n * share = n * whole := by
    rw [← Int.mul_add, Int.sub_add_cancel]
  constructor
  · calc low * whole
      _ = low * (whole - share) + low * share := (shares low).symm
      _ ≤ blend first second share whole :=
        Int.add_le_add (Int.mul_le_mul_of_nonneg_right firstMem.1 rest)
          (Int.mul_le_mul_of_nonneg_right secondMem.1 shareMem.1)
  · calc blend first second share whole
      _ ≤ high * (whole - share) + high * share :=
        Int.add_le_add (Int.mul_le_mul_of_nonneg_right firstMem.2 rest)
          (Int.mul_le_mul_of_nonneg_right secondMem.2 shareMem.1)
      _ = high * whole := shares high

theorem blend_checked (firstMem : 0 ≤ first ∧ first ≤ high) (secondMem : 0 ≤ second ∧ second ≤ high)
    (shareMem : 0 ≤ share ∧ share ≤ whole) (short : whole ≤ 9223372036854775807)
    (small : high * whole ≤ 9223372036854775807) :
    blend? first second share whole = some (blend first second share whole) := by
  have rest : 0 ≤ whole - share := by omega
  have near := Int.mul_nonneg firstMem.1 rest
  have far := Int.mul_nonneg secondMem.1 shareMem.1
  have both := (blend_between firstMem secondMem shareMem).2
  unfold blend at both ⊢
  simp only [blend?, Span.minus?, Span.times?, Span.plus?]
  rw [int64_check (by omega) (by omega)]
  simp only [Option.bind_eq_bind, Option.bind_some]
  rw [int64_check (by omega) (by omega), Option.bind_some, int64_check (by omega) (by omega),
    Option.bind_some, int64_check (by omega) (by omega)]

end

theorem latticeHeight_mem (seed : UInt32) (column row : Int) :
    0 ≤ latticeHeight seed column row ∧ latticeHeight seed column row ≤ 255 := by
  have masked : ((hashPoint seed column row) &&& 0xff).toNat ≤ 255 := by
    rw [UInt32.toNat_and]
    exact Nat.and_le_right
  refine ⟨Int.natCast_nonneg _, ?_⟩
  unfold latticeHeight
  exact Int.ofNat_le.mpr masked

/-- Noise never fails, since cells are small. -/
theorem latticeNoise_checked (seed : UInt32) {x y cell : Int} (column : int64.contains x = true)
    (row : int64.contains y = true) (positive : 0 < cell) (small : cell ≤ largestCell) :
    latticeNoise? seed x y cell = some (latticeNoise seed x y cell) := by
  have bound : cell ≤ 4096 := small
  have right : 0 ≤ x % cell ∧ x % cell ≤ cell :=
    ⟨Int.emod_nonneg x (by omega), Int.le_of_lt (Int.emod_lt_of_pos x positive)⟩
  have down : 0 ≤ y % cell ∧ y % cell ≤ cell :=
    ⟨Int.emod_nonneg y (by omega), Int.le_of_lt (Int.emod_lt_of_pos y positive)⟩
  have square : 0 < cell * cell ∧ cell * cell ≤ 4096 * 4096 :=
    ⟨Int.mul_pos positive positive, Int.mul_le_mul bound bound (by omega) (by omega)⟩
  have heights := latticeHeight_mem seed
  have top := blend_between (heights (x / cell) (y / cell)) (heights (x / cell + 1) (y / cell))
    right
  have bottom := blend_between (heights (x / cell) (y / cell + 1))
    (heights (x / cell + 1) (y / cell + 1)) right
  rw [Int.zero_mul] at top bottom
  have weighted := blend_between top bottom down
  rw [Int.zero_mul] at weighted
  have limit : 255 * cell * cell ≤ 255 * (4096 * 4096) := by
    rw [Int.mul_assoc]
    omega
  simp only [latticeNoise?, Span.wholeQuotient_of_pos int64_contains_zero column positive,
    Span.wholeQuotient_of_pos int64_contains_zero row positive,
    Span.remainder_of_pos int64_contains_zero column positive,
    Span.remainder_of_pos int64_contains_zero row positive, Option.bind_eq_bind, Option.bind_some]
  rw [blend_checked (heights _ _) (heights _ _) right (by omega) (by omega), Option.bind_some,
    blend_checked (heights _ _) (heights _ _) right (by omega) (by omega), Option.bind_some,
    blend_checked top bottom down (by omega) (by omega), Option.bind_some, Span.times?,
    int64_check (by omega) (by omega), Option.bind_some,
    Span.quotient_of_pos int64_contains_zero ?_ square.1]
  · rfl
  · rw [int64_contains_iff]
    omega

/-! ## Patterns -/

namespace Pattern

/-- The wave is computed in floating-point numbers, which do not fail. -/
def covers? (pattern : Pattern) (measures : PatternMeasures) (point : LocalPoint) :
    Option Bool :=
  let ⟨x, y, width, height⟩ := point
  match pattern with
  | .solid | .script => some true
  | .random => do
      let percent ← nat32.remainder? (Int.ofNat (hashPoint measures.seed x y).toNat) 100
      some (decide (percent < measureOr measures.a 50))
  | .checker => do
      let size := measureOr measures.a 10
      let column ← int64.wholeQuotient? x size
      let row ← int64.wholeQuotient? y size
      let both ← int64.plus? column row
      let parity ← int64.remainder? both 2
      some (parity == 0)
  | .bozo => do
      let cell := min (measureOr measures.a 16) largestCell
      let scaled ← int64.times? (measureOr measures.b 50) 256
      let threshold ← int64.quotient? scaled 100
      let noise ← latticeNoise? measures.seed x y cell
      some (decide (noise < threshold))
  | .sin => some (belowWave (measureOr measures.a 32) (measureOr measures.b 25) point)
  | .boxes => do
      let size := measureOr measures.a 16
      let last ← int64.minus? size 1
      let gap := min (measureOr measures.b 4) last
      let right ← int64.remainder? x size
      let down ← int64.remainder? y size
      some (decide (right ≥ gap) && decide (down ≥ gap))
  | .lines => do
      let period := measureOr measures.a 16
      let thickness := measureOr measures.b 4
      let across ← int64.remainder? (int64.saturate (x + y)) period
      some (decide (across < thickness))
  | .border =>
      let thickness := measureOr measures.a 2
      some (decide (x < thickness) || decide (y < thickness) ||
        decide (x ≥ int64.saturate (width - thickness)) ||
        decide (y ≥ int64.saturate (height - thickness)))

/-- Whether a pattern is a checker whose column and row at a point add up to more than 64 bits. -/
def overflows (pattern : Pattern) (measures : PatternMeasures) (point : LocalPoint) : Bool :=
  let size := measureOr measures.a 10
  pattern == .checker && !int64.contains (point.x / size + point.y / size)

end Pattern

theorem measureOr_mem {given usual limit : Int} (positive : 0 < usual) (small : usual ≤ limit)
    (bound : given ≤ limit) : 0 < measureOr given usual ∧ measureOr given usual ≤ limit := by
  unfold measureOr
  split <;> omega

/-- **Patterns fail where a checker overflows, and nowhere else.**  Where they do not fail, they
cover what they cover in arithmetic without an end. -/
theorem covers_checked (pattern : Pattern) {measures : PatternMeasures} {point : LocalPoint}
    (a : measures.a ≤ 2147483647) (b : measures.b ≤ 2147483647)
    (column : int64.contains point.x = true) (row : int64.contains point.y = true) :
    pattern.covers? measures point =
      if pattern.overflows measures point then none else some (pattern.covers measures point) := by
  rcases point with ⟨x, y, width, height⟩
  cases pattern with
  | solid | script | sin | border => rfl
  | random =>
      have word : nat32.contains (Int.ofNat (hashPoint measures.seed x y).toNat) = true := by
        have high := (hashPoint measures.seed x y).toNat_lt
        rw [Span.contains_iff]
        exact ⟨Int.natCast_nonneg _, by simp only [nat32, Int.ofNat_eq_natCast]; omega⟩
      simp only [Pattern.covers?,
        Span.remainder_of_pos (by decide) word (show (0 : Int) < 100 by decide),
        Option.bind_eq_bind, Option.bind_some]
      rfl
  | checker =>
      have size := @measureOr_mem measures.a 10 _ (by decide) (by decide) a
      simp only [Pattern.covers?, Pattern.overflows,
        Span.wholeQuotient_of_pos int64_contains_zero column size.1,
        Span.wholeQuotient_of_pos int64_contains_zero row size.1, Option.bind_eq_bind,
        Option.bind_some, Span.plus?, Span.check, beq_self_eq_true, Bool.true_and]
      cases sum : int64.contains (x / measureOr measures.a 10 + y / measureOr measures.a 10) with
      | false => rfl
      | true =>
          simp only [if_true, Option.bind_some,
            Span.remainder_of_pos int64_contains_zero sum (show (0 : Int) < 2 by decide)]
          rfl
  | bozo =>
      have size := @measureOr_mem measures.a 16 _ (by decide) (by decide) a
      have density := @measureOr_mem measures.b 50 _ (by decide) (by decide) b
      have cell : 0 < min (measureOr measures.a 16) largestCell ∧
          min (measureOr measures.a 16) largestCell ≤ largestCell := by
        unfold largestCell
        omega
      have scaled : int64.contains (measureOr measures.b 50 * 256) = true := by
        rw [int64_contains_iff]
        omega
      simp only [Pattern.covers?, Span.times?, Span.check_of_contains scaled,
        Span.quotient_of_pos int64_contains_zero scaled (show (0 : Int) < 100 by decide),
        latticeNoise_checked measures.seed column row cell.1 cell.2, Option.bind_eq_bind,
        Option.bind_some]
      rfl
  | boxes =>
      have size := @measureOr_mem measures.a 16 _ (by decide) (by decide) a
      have last : int64.contains (measureOr measures.a 16 - 1) = true := by
        rw [int64_contains_iff]
        omega
      simp only [Pattern.covers?, Span.minus?, Span.check_of_contains last,
        Span.remainder_of_pos int64_contains_zero column size.1,
        Span.remainder_of_pos int64_contains_zero row size.1, Option.bind_eq_bind,
        Option.bind_some]
      rfl
  | lines =>
      have period := @measureOr_mem measures.a 16 _ (by decide) (by decide) a
      simp only [Pattern.covers?, Span.remainder_of_pos int64_contains_zero
        (int64.contains_saturate (x + y)) period.1, Option.bind_eq_bind, Option.bind_some]
      rfl

/-- Squares of two points and more halve the coordinates, and halves add up to no more. -/
theorem overflows_narrow {pattern : Pattern} {measures : PatternMeasures} {point : LocalPoint}
    (column : int64.contains point.x = true) (row : int64.contains point.y = true)
    (overflows : pattern.overflows measures point = true) :
    pattern = .checker ∧ measures.a = 1 := by
  rcases Bool.and_eq_true_iff.mp overflows with ⟨checker, outside⟩
  refine ⟨beq_iff_eq.mp checker, ?_⟩
  refine Decidable.byContradiction fun wide => ?_
  have size : 2 ≤ measureOr measures.a 10 := by
    unfold measureOr
    split <;> omega
  have half {n : Int} (inside : int64.contains n = true) :
      -4611686018427387904 ≤ n / measureOr measures.a 10 ∧
        n / measureOr measures.a 10 < 4611686018427387904 := by
    rw [int64_contains_iff] at inside
    constructor
    · apply (Int.le_ediv_iff_mul_le (by omega)).mpr
      omega
    · apply (Int.ediv_lt_iff_lt_mul (by omega)).mpr
      omega
  have across := half column
  have down := half row
  have sum : int64.contains
      (point.x / measureOr measures.a 10 + point.y / measureOr measures.a 10) = true := by
    rw [int64_contains_iff]
    omega
  rw [sum] at outside
  cases outside

end Landscape
end Landform
