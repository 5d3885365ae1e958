import Landform.Proofs.Measures

namespace Landform
namespace Landscape

open Number (int32 int64)

/-!
# Patterns that repeat

A checker, boxes and lines repeat across the plane.  Coordinates may be negative, and the patterns
are the same there: a coordinate falls into a square by division that rounds down and leaves a rest
that is not negative, so moving a point by whole squares adds to the number of its square and
leaves its place in the square (`Int.add_mul_ediv_right`, `Int.add_mul_emod_self_right`).  Division
that rounds toward zero would mirror the patterns there.

Two things could break the repetition at the ends of 64 bits.  Lines add both coordinates, and
their sum stops at the end of the range; a checker of single points adds them too, and its sum
must not leave the range at all.  So the coordinates and their sums are asked to lie in the range
(`LocalPoint.Fits`), before and after the point is moved.  Then all three patterns give an answer
in arithmetic that can fail, which is the one in arithmetic without an end.
-/

namespace LocalPoint

/-- A point whose coordinates lie in the range of 64 bits, and their sum too. -/
structure Fits (point : LocalPoint) : Prop where
  column : int64.contains point.x = true
  row : int64.contains point.y = true
  sum : int64.contains (point.x + point.y) = true

/-- A point moved to the right and down. -/
def moved (point : LocalPoint) (right down : Int) : LocalPoint :=
  { point with x := point.x + right, y := point.y + down }

end LocalPoint

namespace Pattern

/-! ## Moving by whole squares -/

section

variable (measures : PatternMeasures) (point : LocalPoint)

/-- A checker changes with every square that a point is moved by, along any axis. -/
theorem checker_moved (columns rows : Int) :
    let size := measureOr measures.a 10
    checker.covers measures (point.moved (columns * size) (rows * size)) =
      (checker.covers measures point != ((columns + rows) % 2 == 1)) := by
  intro size
  have nonzero : size ≠ 0 := Int.ne_of_gt (measureOr_pos (by decide))
  have square (n count : Int) : (n + count * size) / size = n / size + count :=
    Int.add_mul_ediv_right n count nonzero
  have parity (column row : Int) : (column + columns + (row + rows)) % 2 =
      ((column + row) % 2 + (columns + rows) % 2) % 2 := by
    omega
  change (((point.x + columns * size) / size + (point.y + rows * size) / size) % 2 == 0) =
    (((point.x / size + point.y / size) % 2 == 0) != ((columns + rows) % 2 == 1))
  rw [square, square, parity]
  rcases Int.emod_two_eq (point.x / size + point.y / size) with here | here <;>
    rcases Int.emod_two_eq (columns + rows) with moved | moved <;> rw [here, moved] <;> rfl

/-- Boxes are the same in every box. -/
theorem boxes_moved (columns rows : Int) :
    let size := measureOr measures.a 16
    boxes.covers measures (point.moved (columns * size) (rows * size)) =
      boxes.covers measures point := by
  intro size
  rw [Bool.eq_iff_iff, covers_boxes_iff, covers_boxes_iff]
  simp only [LocalPoint.moved, size, Int.add_mul_emod_self_right]

variable {point}

/-- Lines are the same wherever the sum of the coordinates leaves the same rest. -/
theorem lines_moved (fits : point.Fits) {right down : Int}
    (stays : (point.moved right down).Fits) (whole : measureOr measures.a 16 ∣ right + down) :
    lines.covers measures (point.moved right down) = lines.covers measures point := by
  have exactly {other : LocalPoint} (inRange : other.Fits) :
      int64.saturate (other.x + other.y) = other.x + other.y :=
    int64.saturate_of_mem ((int64.contains_iff _).mp inRange.sum).1
      ((int64.contains_iff _).mp inRange.sum).2
  have sum : (point.moved right down).x + (point.moved right down).y =
      point.x + point.y + (right + down) := by
    simp only [LocalPoint.moved]
    omega
  rcases whole with ⟨count, same⟩
  rw [Bool.eq_iff_iff, covers_lines_iff, covers_lines_iff, exactly stays, exactly fits, sum, same,
    Int.add_mul_emod_self_left]

end

/-! ## Answers in 64 bits -/

/-- Where the coordinates and their sum are in the range, patterns do not fail. -/
theorem covers_of_fits (pattern : Pattern) {measures : PatternMeasures} {point : LocalPoint}
    (a : measures.a ≤ 2147483647) (b : measures.b ≤ 2147483647) (fits : point.Fits) :
    pattern.covers? measures point = some (pattern.covers measures point) := by
  have stays : ¬ pattern.overflows measures point = true := by
    intro overflows
    -- Only single points overflow, and with those the number of a square is its coordinate.
    have single := (overflows_narrow fits.column fits.row overflows).2
    have outside := (Bool.and_eq_true_iff.mp overflows).2
    rw [single, measureOr_of_pos (by decide), Int.ediv_one, Int.ediv_one, fits.sum] at outside
    cases outside
  rw [covers_checked pattern a b fits.column fits.row, if_neg stays]

/-- What becomes of the answers of a pattern along a move.  Wherever the coordinates and their sum
are in the range before and after, the pattern gives an answer there, in arithmetic that can fail
too, and the second answer comes from the first one by a change. -/
def Moves (pattern : Pattern) (measures : PatternMeasures) (right down : Int)
    (change : Bool -> Bool) : Prop :=
  ∀ point : LocalPoint, point.Fits -> (point.moved right down).Fits ->
    pattern.covers? measures point = some (pattern.covers measures point) ∧
      pattern.covers? measures (point.moved right down) =
        some (pattern.covers measures (point.moved right down)) ∧
      pattern.covers measures (point.moved right down) = change (pattern.covers measures point)

section

variable {measures : PatternMeasures} (a : measures.a ≤ int32.high) (b : measures.b ≤ int32.high)

include a b in
theorem moves_of {pattern : Pattern} {right down : Int} {change : Bool -> Bool}
    (changes : ∀ point : LocalPoint, point.Fits -> (point.moved right down).Fits ->
      pattern.covers measures (point.moved right down) = change (pattern.covers measures point)) :
    pattern.Moves measures right down change :=
  fun point fits stays =>
    ⟨covers_of_fits pattern a b fits, covers_of_fits pattern a b stays, changes point fits stays⟩

include a b in
/-- By an even number of squares in all a checker keeps its answers, and by an odd one it turns
them round. -/
theorem checker_moves (columns rows : Int) {right down : Int} {change : Bool -> Bool}
    (across : columns * measureOr measures.a 10 = right)
    (below : rows * measureOr measures.a 10 = down)
    (parity : ∀ covered, (covered != ((columns + rows) % 2 == 1)) = change covered) :
    checker.Moves measures right down change := by
  refine moves_of a b fun point _ _ => ?_
  rw [← across, ← below, checker_moved, parity]

include a b in
theorem boxes_moves (columns rows : Int) {right down : Int}
    (across : columns * measureOr measures.a 16 = right)
    (below : rows * measureOr measures.a 16 = down) : boxes.Moves measures right down id := by
  refine moves_of a b fun point _ _ => ?_
  rw [← across, ← below, boxes_moved, id]

include a b in
theorem lines_moves {right down : Int} (whole : measureOr measures.a 16 ∣ right + down) :
    lines.Moves measures right down id :=
  moves_of a b fun _ fits stays => lines_moved measures fits stays whole

end

/--
**How patterns repeat.**  A checker turns its answer round where a point is moved by the size of a
square along one axis, and keeps it where it is moved so along both, or by two squares along one.
Boxes keep their answer where a point is moved by the size of a box along an axis.  Lines keep it
where a point is moved by their distance along an axis, or by one unit to the left and one down.
All this holds for measures of 32 bits, positive or not, and for all points, whatever the signs of
their coordinates, as long as these and their sum stay in the range; then no pattern overflows.
-/
theorem patterns_repeat {measures : PatternMeasures} (a : measures.a ≤ int32.high)
    (b : measures.b ≤ int32.high) :
    let square := measureOr measures.a 10
    let distance := measureOr measures.a 16
    (checker.Moves measures square 0 not ∧ checker.Moves measures 0 square not ∧
        checker.Moves measures square square id ∧
        checker.Moves measures (2 * square) 0 id ∧ checker.Moves measures 0 (2 * square) id) ∧
      (boxes.Moves measures distance 0 id ∧ boxes.Moves measures 0 distance id) ∧
      (lines.Moves measures distance 0 id ∧ lines.Moves measures 0 distance id ∧
        lines.Moves measures (-1) 1 id) := by
  intro square distance
  have one (n : Int) : 1 * n = n := Int.one_mul n
  have none (n : Int) : 0 * n = 0 := Int.zero_mul n
  refine ⟨⟨?_, ?_, ?_, ?_, ?_⟩, ⟨?_, ?_⟩, ?_, ?_, ?_⟩
  · exact checker_moves a b 1 0 (one _) (none _) (by decide)
  · exact checker_moves a b 0 1 (none _) (one _) (by decide)
  · exact checker_moves a b 1 1 (one _) (one _) (by decide)
  · exact checker_moves a b 2 0 rfl (none _) (by decide)
  · exact checker_moves a b 0 2 (none _) rfl (by decide)
  · exact boxes_moves a b 1 0 (one _) (none _)
  · exact boxes_moves a b 0 1 (none _) (one _)
  · exact lines_moves a b (Int.add_zero _ ▸ Int.dvd_refl _)
  · exact lines_moves a b (Int.zero_add _ ▸ Int.dvd_refl _)
  · exact lines_moves a b (Int.dvd_zero _)

/-- Squares of three points meet at the corner, where coordinates change their sign. -/
theorem patterns_repeat_acrossCorner :
    checker.covers ⟨3, 0, 0⟩ ⟨-1, 2, 9, 9⟩ = false ∧
      checker.covers ⟨3, 0, 0⟩ ⟨2, 2, 9, 9⟩ = true ∧
      checker.covers? ⟨3, 0, 0⟩ ⟨2, 2, 9, 9⟩ = some (!checker.covers ⟨3, 0, 0⟩ ⟨-1, 2, 9, 9⟩) := by
  have moves := (@patterns_repeat ⟨3, 0, 0⟩ (by decide) (by decide)).1.1
  rcases moves ⟨-1, 2, 9, 9⟩ ⟨by decide, by decide, by decide⟩
    ⟨by decide, by decide, by decide⟩ with ⟨_, answers, turned⟩
  refine ⟨by decide, by decide, ?_⟩
  rw [← turned]
  exact answers

end Pattern

end Landscape
end Landform
