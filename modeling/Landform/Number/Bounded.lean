namespace Landform
namespace Number

/-!
Integers of a fixed range.  Values are unbounded integers throughout; what the range
does is said by an explicit operation: a test for being inside, and the saturation
that moves a value outside to the nearest end.
-/

/-- A range of integers, both ends included. -/
structure Span where
  low : Int
  high : Int
  low_le_high : low ≤ high := by decide

/-- Signed integers of 32 bits. -/
def int32 : Span := ⟨-2147483648, 2147483647, by decide⟩

/-- Signed integers of 64 bits. -/
def int64 : Span := ⟨-9223372036854775808, 9223372036854775807, by decide⟩

/-- Unsigned integers of 8 bits. -/
def nat8 : Span := ⟨0, 255, by decide⟩

/-- Unsigned integers of 32 bits. -/
def nat32 : Span := ⟨0, 4294967295, by decide⟩

/-- Unsigned integers of 64 bits. -/
def nat64 : Span := ⟨0, 18446744073709551615, by decide⟩

namespace Span

/-- Whether an integer lies in the range. -/
def contains (span : Span) (n : Int) : Bool :=
  decide (span.low ≤ n) && decide (n ≤ span.high)

/-- The member of the range nearest to an integer. -/
def saturate (span : Span) (n : Int) : Int :=
  max span.low (min n span.high)

/-- The integer itself when it lies in the range. -/
def check (span : Span) (n : Int) : Option Int :=
  if span.contains n then some n else none

@[simp] theorem contains_iff (span : Span) (n : Int) :
    span.contains n = true ↔ span.low ≤ n ∧ n ≤ span.high := by
  simp [contains]

theorem saturate_of_mem (span : Span) {n : Int}
    (low : span.low ≤ n) (high : n ≤ span.high) : span.saturate n = n := by
  unfold saturate
  omega

theorem saturate_mem (span : Span) (n : Int) :
    span.low ≤ span.saturate n ∧ span.saturate n ≤ span.high := by
  have h := span.low_le_high
  unfold saturate
  omega

theorem saturate_mono (span : Span) {m n : Int} (le : m ≤ n) :
    span.saturate m ≤ span.saturate n := by
  unfold saturate
  omega

/-- Going on twice and stopping at the end of the range is going on once and stopping there. -/
theorem saturate_add_add (span : Span) {n first second : Int} (low : span.low ≤ n)
    (forth : 0 ≤ first) (further : 0 ≤ second) :
    span.saturate (span.saturate (n + first) + second) = span.saturate (n + first + second) := by
  have ordered := span.low_le_high
  unfold saturate
  omega

end Span

end Number
end Landform
