namespace Landform
namespace Text

/-!
Comparison of names without regard to the case of the twenty-six ASCII letters.  All
other characters, accented letters included, are compared as they are.
-/

/-- Lower-cases the ASCII letters of a text and keeps everything else. -/
def asciiLower (s : String) : String :=
  String.ofList (s.toList.map Char.toLower)

/-- Equality of texts up to the case of ASCII letters. -/
def sameName (a b : String) : Bool :=
  asciiLower a == asciiLower b

theorem toLower_toNat (c : Char) :
    c.toLower.toNat = if 65 ≤ c.toNat ∧ c.toNat ≤ 90 then c.toNat + 32 else c.toNat := by
  have bounds : (c.val ≥ 'A'.val ∧ c.val ≤ 'Z'.val) = (65 ≤ c.toNat ∧ c.toNat ≤ 90) := by
    simp only [ge_iff_le, UInt32.le_iff_toNat_le]
    rfl
  unfold Char.toLower
  split
  · rename_i upper
    rw [bounds] at upper
    rw [if_pos upper]
    have small : c.toNat + 32 < 2 ^ 32 := by omega
    exact (UInt32.toNat_add _ _).trans (Nat.mod_eq_of_lt small)
  · rename_i other
    rw [bounds] at other
    rw [if_neg other]

theorem toLower_toLower (c : Char) : c.toLower.toLower = c.toLower := by
  apply Char.toNat_inj.mp
  by_cases capital : 65 ≤ c.toNat ∧ c.toNat ≤ 90
  · rw [toLower_toNat c.toLower, toLower_toNat c, if_pos capital, if_neg (by omega)]
  · rw [toLower_toNat c.toLower, toLower_toNat c, if_neg capital, if_neg capital]

/-- Lower-casing a text leaves no letter to be lower-cased. -/
theorem asciiLower_asciiLower (s : String) : asciiLower (asciiLower s) = asciiLower s := by
  rw [asciiLower, asciiLower, String.toList_ofList, List.map_map]
  exact congrArg String.ofList (List.map_congr_left fun c _ => toLower_toLower c)

theorem sameName_refl (a : String) : sameName a a = true := by
  simp [sameName]

theorem sameName_comm (a b : String) : sameName a b = sameName b a := by
  exact BEq.comm

theorem sameName_trans {a b c : String}
    (hab : sameName a b = true) (hbc : sameName b c = true) :
    sameName a c = true := by
  simp only [sameName, beq_iff_eq] at *
  exact hab.trans hbc

end Text
end Landform
