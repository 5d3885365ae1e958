import Landform.Proofs.NeutralOverlays

namespace Landform

/-!
# The sizes of maps

Players may only widen a map, and only up to the upper bound of its width.  The product of the
standing width and the number of players stops at the end of 32 bits.  This is never seen, as the
upper bound has 32 bits itself (`widthFor_eq`), so what is left to compare are products of small
numbers with two bounds.

The bounds may be given in the wrong order.  The standing width takes them for the lower bound
alone, but the width that players have widened is cut at the upper one.  With bounds in the wrong
order a format that lets players widen the map then makes it narrower instead, however many
players there are.  In all other formats the bounds hold (`sizeFor_bounds`).
-/

/-! ## Sides -/

namespace SideRange

variable (side : SideRange)

theorem least_le_evaluate : side.least ≤ side.evaluate :=
  Nat.le_max_left _ _

theorem evaluate_le : side.evaluate ≤ max side.least side.most := by
  unfold evaluate
  omega

theorem evaluate_of_reversed {side : SideRange} (reversed : side.most < side.least) :
    side.evaluate = side.least := by
  unfold evaluate
  omega

end SideRange

/-! ## Widths -/

namespace MapFormat

/-- The bounds of the width are in their order, or players do not widen the map. -/
def KeepsBounds (format : MapFormat) : Prop :=
  format.playerExtend = 0 ∨ format.width.least ≤ format.width.most

/-- How many times its standing width a map may have. -/
def widening (players : Nat) : Nat :=
  max 1 (min players extendingPlayers)

theorem one_le_widening (players : Nat) : 1 ≤ widening players :=
  Nat.le_max_left _ _

theorem widening_mono {fewer more : Nat} (le : fewer ≤ more) :
    widening fewer ≤ widening more := by
  unfold widening
  omega

theorem widening_of_alone {players : Nat} (alone : players ≤ 1) : widening players = 1 := by
  unfold widening
  omega

section

variable {format : MapFormat}

theorem widthFor_of_standing (standing : format.playerExtend = 0) (players : Nat) :
    format.widthFor players = format.width.evaluate :=
  if_pos standing

/-- Where players widen a map, the end of 32 bits is never reached in front of the upper bound. -/
theorem widthFor_eq (narrow : format.IsNarrow) (widens : format.playerExtend ≠ 0)
    (players : Nat) :
    format.widthFor players =
      min (format.width.evaluate * widening players) format.width.most := by
  have most : format.width.most ≤ 4294967295 := narrow.1.2.2
  rw [widthFor, if_neg widens, ← widening, Nat.min_assoc, Nat.min_eq_right most]

theorem widthFor_le (narrow : format.IsNarrow) (players : Nat) :
    format.widthFor players ≤ max format.width.least format.width.most := by
  by_cases standing : format.playerExtend = 0
  · rw [widthFor_of_standing standing]
    exact format.width.evaluate_le
  · rw [widthFor_eq narrow standing]
    exact Nat.le_trans (Nat.min_le_right _ _) (Nat.le_max_right _ _)

theorem widthFor_mono (narrow : format.IsNarrow) {fewer more : Nat} (le : fewer ≤ more) :
    format.widthFor fewer ≤ format.widthFor more := by
  by_cases standing : format.playerExtend = 0
  · exact Nat.le_of_eq
      ((widthFor_of_standing standing fewer).trans (widthFor_of_standing standing more).symm)
  · rw [widthFor_eq narrow standing, widthFor_eq narrow standing]
    have wider := Nat.mul_le_mul_left format.width.evaluate (widening_mono le)
    omega

/-- With bounds in their order, players do not make a map narrower. -/
theorem evaluate_le_widthFor (narrow : format.IsNarrow) (keeps : format.KeepsBounds)
    (players : Nat) : format.width.evaluate ≤ format.widthFor players := by
  by_cases standing : format.playerExtend = 0
  · exact Nat.le_of_eq (widthFor_of_standing standing players).symm
  · have ordered : format.width.least ≤ format.width.most := keeps.resolve_left standing
    have below := format.width.evaluate_le
    have wider := Nat.le_mul_of_pos_right format.width.evaluate (one_le_widening players)
    rw [widthFor_eq narrow standing]
    omega

/-- With bounds in their order, a player alone does not make a map any wider either. -/
theorem widthFor_of_alone (narrow : format.IsNarrow) (keeps : format.KeepsBounds)
    {players : Nat} (alone : format.playerExtend = 0 ∨ players ≤ 1) :
    format.widthFor players = format.width.evaluate := by
  apply Nat.le_antisymm
  · by_cases standing : format.playerExtend = 0
    · exact Nat.le_of_eq (widthFor_of_standing standing players)
    · rw [widthFor_eq narrow standing, widening_of_alone (alone.resolve_left standing),
        Nat.mul_one]
      exact Nat.min_le_left _ _
  · exact evaluate_le_widthFor narrow keeps players

/-- With bounds in the wrong order, players are given the upper bound, below the lower one. -/
theorem widthFor_of_reversed (narrow : format.IsNarrow) (reversed : ¬ format.KeepsBounds)
    (players : Nat) :
    format.widthFor players = format.width.most ∧
      format.width.most < format.width.evaluate := by
  rcases not_or.mp reversed with ⟨widens, unordered⟩
  have below : format.width.most < format.width.least := Nat.lt_of_not_le unordered
  have standing := SideRange.evaluate_of_reversed below
  have wider := Nat.le_mul_of_pos_right format.width.evaluate (one_le_widening players)
  rw [widthFor_eq narrow widens]
  omega

end

/--
**The bounds of a map's size.**  Take any format whose numbers have 32 bits.  The height is the
standing one, whatever the players.  The width does not exceed both bounds, and more players do
not make it smaller.  If the bounds of the width are in their order, or players do not widen the
map, then the width is no less than its lower bound and the standing width, and it is the standing
width if players do not widen the map or there is at most one.  In all other formats the width is
the upper bound, which is less than the standing width, for any number of players.
-/
theorem sizeFor_bounds {format : MapFormat} (narrow : format.IsNarrow) :
    (∀ players, (format.sizeFor players).2 = format.height.evaluate) ∧
      (∀ players, (format.sizeFor players).1 ≤ max format.width.least format.width.most) ∧
      (∀ fewer more, fewer ≤ more -> (format.sizeFor fewer).1 ≤ (format.sizeFor more).1) ∧
      (format.KeepsBounds -> ∀ players,
        format.width.least ≤ (format.sizeFor players).1 ∧
          format.width.evaluate ≤ (format.sizeFor players).1 ∧
          (format.playerExtend = 0 ∨ players ≤ 1 ->
            (format.sizeFor players).1 = format.width.evaluate)) ∧
      (¬ format.KeepsBounds -> ∀ players,
        (format.sizeFor players).1 = format.width.most ∧
          format.width.most < format.width.evaluate) := by
  refine ⟨fun _ => rfl, ?_, ?_, ?_, ?_⟩
  · exact widthFor_le narrow
  · intro fewer more le
    exact widthFor_mono narrow le
  · intro keeps players
    have standing := evaluate_le_widthFor narrow keeps players
    refine ⟨?_, standing, ?_⟩
    · exact Nat.le_trans format.width.least_le_evaluate standing
    · exact widthFor_of_alone narrow keeps
  · exact widthFor_of_reversed narrow

/-- A map of fifty columns that players widen up to a hundred and twenty. -/
def widened : MapFormat :=
  ⟨⟨50, 50, 120⟩, SideRange.fixed 40, 1⟩

/-- Two players double the standing width, and a third one takes it to its upper bound. -/
theorem sizeFor_bounds_widened :
    widened.IsNarrow ∧ widened.KeepsBounds ∧ (widened.sizeFor 1).1 = widened.width.evaluate ∧
      (widened.sizeFor 2).1 ≤ (widened.sizeFor 3).1 ∧
      widened.sizeFor 2 = (100, 40) ∧ widened.sizeFor 3 = (120, 40) := by
  have narrow : widened.IsNarrow := by
    simp [IsNarrow, SideRange.IsNarrow, widened, SideRange.fixed]
  have keeps : widened.KeepsBounds := Or.inr (by decide)
  rcases sizeFor_bounds narrow with ⟨_, _, mono, bounded, _⟩
  exact ⟨narrow, keeps, (bounded keeps 1).2.2 (Or.inr (Nat.le_refl 1)), mono 2 3 (by decide), rfl,
    rfl⟩

/-- A map of ten columns at least and five at most, to be widened by players. -/
def narrowed : MapFormat :=
  ⟨⟨10, 10, 5⟩, SideRange.fixed 1, 1⟩

/-- Its standing width is its lower bound, but with one player it has half of it. -/
theorem narrowed_below_bounds :
    narrowed.width.evaluate = 10 ∧ narrowed.width.least = 10 ∧
      max narrowed.width.least narrowed.width.most = 10 ∧ narrowed.sizeFor 1 = (5, 1) := by
  decide

end MapFormat

end Landform
