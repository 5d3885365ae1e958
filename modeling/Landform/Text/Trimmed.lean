import Mathlib.Data.List.DropRight
import Landform.Text.Blank

namespace Landform
namespace Text

/-!
What trimming leaves of a text: the one part of it that has nothing but blanks around it and
begins and ends with something else.
-/

/-- A text is the given one with blanks around it, and that one has none at its ends. -/
structure IsTrimmed (bare cs : List Char) : Prop where
  around : Exists fun lead => Exists fun trail =>
    cs = lead ++ (bare ++ trail) ∧ (∀ c ∈ lead, isBlank c = true) ∧ ∀ c ∈ trail, isBlank c = true
  first : ∀ c ∈ bare.head?, isBlank c = false
  last : ∀ c ∈ bare.getLast?, isBlank c = false

theorem dropWhile_eq_self {cs : List Char} (first : ∀ c ∈ cs.head?, isBlank c = false) :
    cs.dropWhile isBlank = cs := by
  cases cs with
  | nil => rfl
  | cons c rest => exact List.dropWhile_cons_of_neg (Bool.eq_false_iff.mp (first c rfl))

theorem not_isBlank_of_mem_head? {cs : List Char} :
    ∀ c ∈ (cs.dropWhile isBlank).head?, isBlank c = false := by
  intro c first
  rw [← List.find?_not_eq_head?_dropWhile] at first
  simpa using List.find?_some first

theorem isTrimmed_trimChars (cs : List Char) : IsTrimmed (trimChars cs) cs := by
  have whole : trimChars cs ++ (cs.dropWhile isBlank).rtakeWhile isBlank = cs.dropWhile isBlank :=
    List.rdropWhile_append_rtakeWhile
  refine ⟨⟨cs.takeWhile isBlank, (cs.dropWhile isBlank).rtakeWhile isBlank, ?_,
    fun c => List.mem_takeWhile_imp, fun c => List.mem_rtakeWhile_imp⟩, fun c first => ?_, ?_⟩
  · rw [whole, List.takeWhile_append_dropWhile]
  · obtain ⟨more, trimmed⟩ := List.head?_eq_some_iff.mp first
    refine @not_isBlank_of_mem_head? cs c ?_
    rw [← whole, trimmed]
    rfl
  · rw [trimChars, List.getLast?_reverse]
    exact not_isBlank_of_mem_head?

/-- Blanks around a text make no difference to what trimming leaves of it. -/
theorem IsTrimmed.trimChars_eq {bare cs : List Char} (trimmed : IsTrimmed bare cs) :
    trimChars cs = bare := by
  obtain ⟨⟨lead, trail, rfl, blankLead, blankTrail⟩, first, last⟩ := trimmed
  rw [trimChars, List.dropWhile_append_of_pos blankLead]
  cases bare with
  | nil =>
      rw [List.nil_append, List.dropWhile_eq_nil_iff.mpr blankTrail]
      rfl
  | cons c rest =>
      have firstOfAll : ∀ d ∈ ((c :: rest) ++ trail).head?, isBlank d = false := first
      have lastFirst : ∀ d ∈ (c :: rest).reverse.head?, isBlank d = false := by
        rw [List.head?_reverse]
        exact last
      rw [dropWhile_eq_self firstOfAll, List.reverse_append,
        List.dropWhile_append_of_pos fun d member => blankTrail d (List.mem_reverse.mp member),
        dropWhile_eq_self lastFirst, List.reverse_reverse]

end Text
end Landform
