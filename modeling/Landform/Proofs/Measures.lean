import Landform.Proofs.Noise

namespace Landform
namespace Landscape

open Number (int64)

/-!
# Patterns under greater measures

A pattern that covers a point under a measure covers it under a greater one too, for the measures
that stand for a density or a thickness; the gaps of boxes work the other way (`Widens`).  Every
pattern compares something that does not depend on the measure with a bound that does, and the
bound grows with the measure: it may be rounded, or moved to the end of a range, or limited, but
none of these changes the order.  All measures here are positive.  One that is not stands for the
usual measure, and is no longer in order with the others.

At some measure nothing is left to cover (`Fills`).  Boxes never come to that end, since the last
row and column of each box are not part of a gap.
-/

namespace Pattern

/-! ## What is compared -/

section

variable (measures : PatternMeasures) (point : LocalPoint)

theorem covers_random_iff : random.covers measures point = true ↔
    Int.ofNat (hashPoint measures.seed point.x point.y).toNat % 100 < measureOr measures.a 50 :=
  decide_eq_true_iff

theorem covers_bozo_iff : bozo.covers measures point = true ↔
    latticeNoise measures.seed point.x point.y (min (measureOr measures.a 16) largestCell) <
      Int.tdiv (measureOr measures.b 50 * 256) 100 :=
  decide_eq_true_iff

theorem covers_boxes_iff : boxes.covers measures point = true ↔
    let size := measureOr measures.a 16
    let gap := min (measureOr measures.b 4) (size - 1)
    gap ≤ point.x % size ∧ gap ≤ point.y % size := by
  simp only [covers, Bool.and_eq_true, decide_eq_true_eq, ge_iff_le]

theorem covers_lines_iff : lines.covers measures point = true ↔
    int64.saturate (point.x + point.y) % measureOr measures.a 16 < measureOr measures.b 4 :=
  decide_eq_true_iff

theorem covers_border_iff : border.covers measures point = true ↔
    let thickness := measureOr measures.a 2
    point.x < thickness ∨ point.y < thickness ∨
      int64.saturate (point.width - thickness) ≤ point.x ∨
      int64.saturate (point.height - thickness) ≤ point.y := by
  simp only [covers, Bool.or_eq_true, decide_eq_true_eq, ge_iff_le, or_assoc]

end

/-! ## Greater measures -/

/-- Measures of a pattern that differ in one positive measure, and the second ones let the pattern
cover what it covers with the first ones. -/
inductive Widens : Pattern -> PatternMeasures -> PatternMeasures -> Prop where
  | random {p q b : Int} {seed : UInt32} (positive : 0 < p) (le : p ≤ q) :
      Widens .random ⟨p, b, seed⟩ ⟨q, b, seed⟩
  | bozo {a p q : Int} {seed : UInt32} (positive : 0 < p) (le : p ≤ q) :
      Widens .bozo ⟨a, p, seed⟩ ⟨a, q, seed⟩
  | lines {a p q : Int} {seed : UInt32} (positive : 0 < p) (le : p ≤ q) :
      Widens .lines ⟨a, p, seed⟩ ⟨a, q, seed⟩
  | border {p q b : Int} {seed : UInt32} (positive : 0 < p) (le : p ≤ q) :
      Widens .border ⟨p, b, seed⟩ ⟨q, b, seed⟩
  | boxes {a p q : Int} {seed : UInt32} (positive : 0 < p) (le : p ≤ q) :
      Widens .boxes ⟨a, q, seed⟩ ⟨a, p, seed⟩

/-- Measures with which a pattern covers every point. -/
inductive Fills : Pattern -> PatternMeasures -> Prop where
  | random {a b : Int} {seed : UInt32} (all : 100 ≤ a) : Fills .random ⟨a, b, seed⟩
  | bozo {a b : Int} {seed : UInt32} (all : 100 ≤ b) : Fills .bozo ⟨a, b, seed⟩
  | lines {a b : Int} {seed : UInt32} (all : measureOr a 16 ≤ b) : Fills .lines ⟨a, b, seed⟩

end Pattern

section

variable {usual p q : Int}

theorem measureOr_of_pos (positive : 0 < p) : measureOr p usual = p :=
  if_pos positive

theorem measureOr_pos (positive : 0 < usual) : 0 < measureOr p usual := by
  unfold measureOr
  split <;> omega

theorem measureOr_mono (positive : 0 < p) (le : p ≤ q) : measureOr p usual ≤ measureOr q usual := by
  rwa [measureOr_of_pos positive, measureOr_of_pos (Int.lt_of_lt_of_le positive le)]

/-- The bound of noise grows with its density, though it is rounded. -/
theorem noiseBound_mono (nonneg : 0 ≤ p) (le : p ≤ q) :
    Int.tdiv (p * 256) 100 ≤ Int.tdiv (q * 256) 100 := by
  rw [Int.tdiv_eq_ediv_of_nonneg (by omega), Int.tdiv_eq_ediv_of_nonneg (by omega)]
  exact Int.ediv_le_ediv (by decide) (by omega)

end

namespace Pattern

theorem covers_of_widens {pattern : Pattern} {measures wider : PatternMeasures}
    (widens : pattern.Widens measures wider) {point : LocalPoint}
    (covers : pattern.covers measures point = true) : pattern.covers wider point = true := by
  cases widens with
  | random positive le =>
      rw [covers_random_iff] at covers ⊢
      exact Int.lt_of_lt_of_le covers (measureOr_mono positive le)
  | bozo positive le =>
      rw [covers_bozo_iff] at covers ⊢
      exact Int.lt_of_lt_of_le covers (noiseBound_mono (Int.le_of_lt (measureOr_pos (by decide)))
        (measureOr_mono positive le))
  | lines positive le =>
      rw [covers_lines_iff] at covers ⊢
      exact Int.lt_of_lt_of_le covers (measureOr_mono positive le)
  | @border p q b seed positive le =>
      rw [covers_border_iff] at covers ⊢
      have thicker : measureOr p 2 ≤ measureOr q 2 := measureOr_mono positive le
      have right := int64.saturate_mono (Int.sub_le_sub_left thicker point.width)
      have lower := int64.saturate_mono (Int.sub_le_sub_left thicker point.height)
      dsimp only at covers ⊢
      omega
  | @boxes a p q seed positive le =>
      rw [covers_boxes_iff] at covers ⊢
      have wider : measureOr p 4 ≤ measureOr q 4 := measureOr_mono positive le
      dsimp only at covers ⊢
      omega

theorem covers_of_fills {pattern : Pattern} {measures : PatternMeasures}
    (fills : pattern.Fills measures) (point : LocalPoint) :
    pattern.covers measures point = true := by
  cases fills with
  | @random a b seed all =>
      rw [covers_random_iff, measureOr_of_pos (Int.lt_of_lt_of_le (by decide) all)]
      exact Int.lt_of_lt_of_le (Int.emod_lt_of_pos _ (by decide)) all
  | @bozo a b seed all =>
      have cell : 0 < min (measureOr a 16) largestCell :=
        Int.lt_min.mpr ⟨measureOr_pos (by decide), by decide⟩
      rw [covers_bozo_iff, measureOr_of_pos (Int.lt_of_lt_of_le (by decide) all)]
      calc latticeNoise seed point.x point.y (min (measureOr a 16) largestCell)
        _ ≤ 255 := (latticeNoise_mem seed point.x point.y cell).2
        _ < Int.tdiv (100 * 256) 100 := by decide
        _ ≤ Int.tdiv (b * 256) 100 := noiseBound_mono (by decide) all
  | @lines a b seed all =>
      have period : 0 < measureOr a 16 := measureOr_pos (by decide)
      rw [covers_lines_iff, measureOr_of_pos (Int.lt_of_lt_of_le period all)]
      exact Int.lt_of_lt_of_le (Int.emod_lt_of_pos _ period) all

/-- The last point of a box is covered, whatever its gap. -/
theorem covers_boxes_last (measures : PatternMeasures) (column row width height : Int) :
    let size := measureOr measures.a 16
    boxes.covers measures
      ⟨column * size + (size - 1), row * size + (size - 1), width, height⟩ = true := by
  intro size
  have positive : 0 < size := measureOr_pos (by decide)
  have last (n : Int) : (n * size + (size - 1)) % size = size - 1 := by
    rw [Int.add_comm, Int.add_mul_emod_self_right, Int.emod_eq_of_lt (by omega) (by omega)]
  rw [covers_boxes_iff]
  dsimp only
  rw [last, last]
  exact ⟨Int.min_le_right _ _, Int.min_le_right _ _⟩

/--
**Greater measures cover more.**  Put a greater number for a positive measure that is a density or
a thickness: what random dots, noise, lines or a border cover, they still cover.  So do boxes if
their gap gets smaller.  Dots and noise of a hundred percent or more, and lines at least as thick
as they are apart, cover every point.  Boxes cover a point of every box, whatever the gap.
-/
theorem covers_grows_with_measures :
    (∀ {pattern : Pattern} {measures wider : PatternMeasures}, pattern.Widens measures wider ->
        ∀ point, pattern.covers measures point = true -> pattern.covers wider point = true) ∧
      (∀ {pattern : Pattern} {measures : PatternMeasures}, pattern.Fills measures ->
        ∀ point, pattern.covers measures point = true) ∧
      ∀ (measures : PatternMeasures) (column row width height : Int),
        let size := measureOr measures.a 16
        Exists fun x => Exists fun y =>
          (column * size ≤ x ∧ x < (column + 1) * size) ∧
            (row * size ≤ y ∧ y < (row + 1) * size) ∧
            boxes.covers measures ⟨x, y, width, height⟩ = true := by
  refine ⟨fun widens point covers => covers_of_widens widens covers,
    fun fills point => covers_of_fills fills point, fun measures column row width height => ?_⟩
  intro size
  have positive : 0 < size := measureOr_pos (by decide)
  have inside (n : Int) : n * size ≤ n * size + (size - 1) ∧
      n * size + (size - 1) < (n + 1) * size := by
    rw [Int.add_mul, Int.one_mul]
    omega
  exact ⟨_, _, inside column, inside row, covers_boxes_last measures column row width height⟩

/-- Lines of the usual distance leave out one point in sixteen if they are fifteen points thick,
and none if they are thicker.  A border of two points has the point beside one of one point, and
what boxes keep of a gap of three they keep of a gap of two. -/
theorem covers_grows_with_measures_atBounds :
    lines.covers ⟨-5, 15, 0⟩ ⟨-9, 8, 20, 20⟩ = false ∧
      lines.covers ⟨-5, 16, 0⟩ ⟨-9, 8, 20, 20⟩ = true ∧
      border.covers ⟨1, 0, 0⟩ ⟨19, 5, 20, 20⟩ = true ∧
      border.covers ⟨2, 0, 0⟩ ⟨19, 5, 20, 20⟩ = true ∧
      boxes.covers ⟨4, 3, 0⟩ ⟨-1, 7, 20, 20⟩ = true ∧
      boxes.covers ⟨4, 2, 0⟩ ⟨-1, 7, 20, 20⟩ = true := by
  rcases covers_grows_with_measures with ⟨grows, fills, _⟩
  refine ⟨by decide, fills (.lines (by decide)) _, by decide, ?_, by decide, ?_⟩
  · exact grows (@Widens.border 1 2 0 0 (by decide) (by decide)) _ (by decide)
  · exact grows (@Widens.boxes 4 2 3 0 (by decide) (by decide)) _ (by decide)

end Pattern

end Landscape
end Landform
