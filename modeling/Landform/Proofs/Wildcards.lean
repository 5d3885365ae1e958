import Landform.Archive.Wildcard
import Landform.Text.Ascii
import Mathlib.Data.List.Forall2

namespace Landform

/-!
# What wildcard patterns cover

A pattern is matched from its end, with one answer for every end piece of the name.  What the
answers are about is said by `Fits`: the characters of the name are dealt out to the parts of the
pattern, one to each part, and any number on one line to a run.  `covers_iff_fits` says that the
matching finds out just that.

A name is a pattern too.  Whatever has the same characters up to the case of ASCII letters is
covered by it, but more may be: `*` and `?` stand for other characters, and simple case folding
has other characters in common with ASCII than lower-casing ASCII letters.  There are two of
these, the long s and the sign for kelvin.  Apart from them, `Plain` characters mean in a pattern
what they mean in a name.
-/

/-! ## Dealing out a name -/

namespace Wildcard

/-- The characters of a name are dealt out to the parts of a pattern, in order. -/
inductive Fits : List WildcardPart -> List Char -> Prop where
  | done : Fits [] []
  | one {part : WildcardPart} {c : Char} {parts : List WildcardPart} {cs : List Char}
      (single : part ≠ .run) (taken : part.takes c = true) (rest : Fits parts cs) :
      Fits (part :: parts) (c :: cs)
  | enough {parts : List WildcardPart} {cs : List Char} (rest : Fits parts cs) :
      Fits (.run :: parts) cs
  | more {c : Char} {parts : List WildcardPart} {cs : List Char} (sameLine : c ≠ '\n')
      (rest : Fits (.run :: parts) cs) : Fits (.run :: parts) (c :: cs)

/-- A part that is no run is put in front of what covers the end pieces. -/
theorem coverage_single {part : WildcardPart} (single : part ≠ .run) (name : List Char)
    (parts : List WildcardPart) :
    coverage name (part :: parts) = takeOne part name (coverage name parts) := by
  cases part with
  | run => exact absurd rfl single
  | single => rfl
  | literal character => rfl

/-- What is found out about the end pieces of a name does not depend on its first character. -/
theorem coverage_cons (c : Char) (cs : List Char) (parts : List WildcardPart) :
    Exists fun here => coverage (c :: cs) parts = here :: coverage cs parts := by
  induction parts with
  | nil => exact ⟨false, rfl⟩
  | cons part parts inductionHypothesis =>
      rcases inductionHypothesis with ⟨here, known⟩
      by_cases run : part = .run
      · subst run
        simp only [coverage, known, takeRun]
        exact ⟨_, rfl⟩
      · rw [coverage_single run, coverage_single run, known, takeOne]
        exact ⟨_, rfl⟩

theorem fits_run_cons {c : Char} {cs : List Char} {parts : List WildcardPart} :
    Fits (.run :: parts) (c :: cs) ↔
      Fits parts (c :: cs) ∨ (c ≠ '\n' ∧ Fits (.run :: parts) cs) := by
  constructor
  · intro fits
    cases fits with
    | one single => exact absurd rfl single
    | enough rest => exact Or.inl rest
    | more sameLine rest => exact Or.inr ⟨sameLine, rest⟩
  · rintro (rest | ⟨sameLine, rest⟩)
    · exact .enough rest
    · exact .more sameLine rest

theorem fits_run_nil {parts : List WildcardPart} : Fits (.run :: parts) [] ↔ Fits parts [] := by
  constructor
  · intro fits
    cases fits with
    | enough rest => exact rest
  · exact .enough

theorem fits_single {part : WildcardPart} (single : part ≠ .run) {c : Char} {cs : List Char}
    {parts : List WildcardPart} :
    Fits (part :: parts) (c :: cs) ↔ part.takes c = true ∧ Fits parts cs := by
  constructor
  · intro fits
    cases fits with
    | one _ taken rest => exact ⟨taken, rest⟩
    | enough => exact absurd rfl single
    | more => exact absurd rfl single
  · rintro ⟨taken, rest⟩
    exact .one single taken rest

theorem not_fits_single_nil {part : WildcardPart} (single : part ≠ .run)
    {parts : List WildcardPart} : ¬Fits (part :: parts) [] := by
  intro fits
  cases fits with
  | enough => exact single rfl

/-- The first answer is the one about the whole name. -/
theorem coverage_head (parts : List WildcardPart) (name : List Char) :
    (coverage name parts).headD false = true ↔ Fits parts name := by
  induction parts generalizing name with
  | nil =>
      cases name with
      | nil => exact iff_of_true rfl .done
      | cons c cs => exact iff_of_false Bool.false_ne_true fun fits => nomatch fits
  | cons part parts inductionHypothesis =>
      by_cases run : part = .run
      · subst run
        -- Going on with the run is about a shorter name and the same parts.
        induction name with
        | nil => exact (inductionHypothesis []).trans fits_run_nil.symm
        | cons c cs shorter =>
            rcases coverage_cons c cs parts with ⟨here, known⟩
            have now := inductionHypothesis (c :: cs)
            rw [known, List.headD_cons] at now
            rw [coverage] at shorter
            rw [coverage, known, takeRun, List.headD_cons, Bool.or_eq_true, Bool.and_eq_true,
              bne_iff_ne, shorter, now, fits_run_cons]
      · rw [coverage_single run]
        cases name with
        | nil => exact iff_of_false Bool.false_ne_true (not_fits_single_nil run)
        | cons c cs =>
            rcases coverage_cons c cs parts with ⟨here, known⟩
            rw [known, takeOne, List.headD_cons, Bool.and_eq_true, inductionHypothesis,
              fits_single run]

/-- A pattern covers a name if the name can be dealt out to its parts. -/
theorem covers_iff_fits (pattern : Wildcard) (name : String) :
    pattern.covers name = true ↔ Fits pattern.parts name.toList :=
  coverage_head pattern.parts name.toList

/-- A text that is met by a name character for character covers it. -/
theorem fits_of_each {text name : List Char}
    (each : List.Forall₂ (fun c d => (WildcardPart.ofChar c).takes d = true) text name) :
    Fits (text.map WildcardPart.ofChar) name := by
  induction each with
  | nil => exact .done
  | @cons c d text name taken _ rest =>
      by_cases run : WildcardPart.ofChar c = .run
      · rw [List.map_cons, run]
        rw [run] at taken
        exact .more (bne_iff_ne.mp taken) (.enough rest)
      · exact .one run taken rest

/-- Without runs, a text covers only what meets it character for character. -/
theorem each_of_fits {text name : List Char}
    (single : ∀ c ∈ text, WildcardPart.ofChar c ≠ .run)
    (fits : Fits (text.map WildcardPart.ofChar) name) :
    List.Forall₂ (fun c d => (WildcardPart.ofChar c).takes d = true) text name := by
  induction text generalizing name with
  | nil =>
      cases fits with
      | done => exact .nil
  | cons c text inductionHypothesis =>
      have first := single c List.mem_cons_self
      cases name with
      | nil => exact absurd fits (not_fits_single_nil first)
      | cons d name =>
          rcases (fits_single first).mp fits with ⟨taken, rest⟩
          exact .cons taken
            (inductionHypothesis (fun c member => single c (List.mem_cons_of_mem _ member)) rest)

end Wildcard

/-! ## Letters and their cases -/

namespace Text

/-- Lower-casing ASCII letters keeps characters inside of ASCII there, and all others as they
are. -/
theorem eq_of_toLower_eq {c d : Char} (same : c.toLower = d.toLower) :
    c = d ∨ (c.toNat < 0x80 ∧ d.toNat < 0x80) := by
  have numbers := congrArg Char.toNat same
  rw [toLower_toNat, toLower_toNat] at numbers
  by_cases equal : c.toNat = d.toNat
  · exact Or.inl (Char.toNat_inj.mp equal)
  · right
    split at numbers <;> split at numbers <;> omega

/-- Characters that are the same up to the case of ASCII letters have one representative. -/
theorem foldCase_of_toLower_eq {c d : Char} (same : c.toLower = d.toLower) :
    foldCase c = foldCase d := by
  rcases eq_of_toLower_eq same with equal | ⟨here, there⟩
  · rw [equal]
  · simp only [foldCase, here, there, if_true, same]

/-- Only the line feed is lower-cased to it. -/
theorem eq_lineFeed_of_toLower_eq {c : Char} (same : c.toLower = '\n'.toLower) : c = '\n' := by
  have numbers := congrArg Char.toNat same
  have ten : '\n'.toNat = 10 := rfl
  rw [toLower_toNat, toLower_toNat, ten] at numbers
  refine Char.toNat_inj.mp (Eq.trans ?_ ten.symm)
  split at numbers <;> split at numbers <;> omega

end Text

namespace Text.CaseRun

/-- A run that leads to characters outside of ASCII, or that of the long s or the kelvin sign. -/
def avoidsAscii (run : CaseRun) : Bool :=
  (run.first == run.last && (run.first == 0x17F || run.first == 0x212A)) ||
    (decide (0x80 ≤ run.first + run.offset) &&
      (decide (run.last + run.offset < 0xD800) ||
        (decide (0xDFFF < run.first + run.offset) && decide (run.last + run.offset < 0x110000))))

theorem mapped_toNat {run : CaseRun} (avoids : run.avoidsAscii = true) {d : Char}
    (covered : run.covers d.toNat = true) :
    d = '\u017f' ∨ d = '\u212a' ∨
      0x80 ≤ (Char.ofNat (Int.ofNat d.toNat + run.offset).toNat).toNat := by
  have longS : '\u017f'.toNat = 0x17F := rfl
  have kelvin : '\u212a'.toNat = 0x212A := rfl
  simp only [covers, Bool.and_eq_true, decide_eq_true_eq] at covered
  simp only [avoidsAscii, Bool.or_eq_true, Bool.and_eq_true, beq_iff_eq, decide_eq_true_eq]
    at avoids
  rcases avoids with ⟨one, first | first⟩ | ⟨above, valid⟩
  · exact Or.inl (Char.toNat_inj.mp (by omega))
  · exact Or.inr (Or.inl (Char.toNat_inj.mp (by omega)))
  · right
    right
    have valid : (Int.ofNat d.toNat + run.offset).toNat.isValidChar := by
      simp only [Nat.isValidChar, Int.ofNat_eq_natCast]
      omega
    have code : (Char.ofNat (Int.ofNat d.toNat + run.offset).toNat).toNat =
        (Int.ofNat d.toNat + run.offset).toNat := by
      rw [Char.ofNat, dif_pos valid]
      rfl
    rw [code]
    simp only [Int.ofNat_eq_natCast]
    omega

theorem image_toNat {runs : Array CaseRun} (avoid : ∀ run ∈ runs, run.avoidsAscii = true)
    {d : Char} (outside : 0x80 ≤ d.toNat) :
    d = '\u017f' ∨ d = '\u212a' ∨ 0x80 ≤ (image runs d).toNat := by
  unfold image
  split
  · rename_i run found
    have covered : run.covers d.toNat = true :=
      @Array.find?_some _ (fun run => run.covers d.toNat) run runs found
    exact mapped_toNat (avoid run (Array.mem_of_find?_eq_some found)) covered
  · exact Or.inr (Or.inr outside)

end Text.CaseRun

namespace Text

theorem foldRuns_avoidAscii : ∀ run ∈ foldRuns, run.avoidsAscii = true := by
  decide +kernel

/-- Outside of ASCII, only the long s and the kelvin sign have a representative in ASCII. -/
theorem foldCase_toNat {d : Char} (outside : 0x80 ≤ d.toNat) :
    d = '\u017f' ∨ d = '\u212a' ∨ 0x80 ≤ (foldCase d).toNat := by
  rw [foldCase, if_neg (Nat.not_lt.mpr outside)]
  exact CaseRun.image_toNat foldRuns_avoidAscii outside

theorem foldCase_longS : foldCase '\u017f' = 's' := by
  decide +kernel

theorem foldCase_kelvin : foldCase '\u212a' = 'k' := by
  decide +kernel

/-- A character that is lower-cased to a small letter is this letter or the capital one. -/
theorem toNat_of_toLower {c letter : Char} (same : c.toLower = letter) :
    c.toNat = letter.toNat ∨ c.toNat + 32 = letter.toNat := by
  rw [← same, toLower_toNat]
  split
  · exact Or.inr rfl
  · exact Or.inl rfl

end Text

/-! ## Names as patterns -/

namespace WildcardPart

theorem ofChar_literal {c : Char} (noRun : c ≠ '*') (noSingle : c ≠ '?') :
    ofChar c = .literal c := by
  unfold ofChar
  split
  · exact absurd rfl noRun
  · exact absurd rfl noSingle
  · rfl

theorem ofChar_single {c : Char} (noRun : c ≠ '*') : ofChar c ≠ .run := by
  unfold ofChar
  split
  · exact absurd rfl noRun
  · exact nofun
  · exact nofun

/-- What a part takes, it takes in both cases. -/
theorem takes_of_toLower_eq {part : WildcardPart} {c d : Char} (same : c.toLower = d.toLower)
    (taken : part.takes c = true) : part.takes d = true := by
  have sameLine (here : (c != '\n') = true) : (d != '\n') = true := by
    refine bne_iff_ne.mpr fun lineFeed => bne_iff_ne.mp here ?_
    rw [lineFeed] at same
    exact Text.eq_lineFeed_of_toLower_eq same
  cases part with
  | run => exact sameLine taken
  | single => exact sameLine taken
  | literal expected =>
      rw [takes, Text.sameFolded, Text.foldCase_of_toLower_eq same] at taken
      exact taken

/-- In a pattern, a character stands for itself in both cases, whatever else it stands for. -/
theorem ofChar_takes {c d : Char} (same : c.toLower = d.toLower) :
    (ofChar c).takes d = true := by
  refine takes_of_toLower_eq same ?_
  unfold ofChar
  split
  · decide
  · decide
  · exact Text.sameFolded_refl c

/-- A character that, in a pattern, stands for itself and for none of the given characters but
those that are the same up to the case of ASCII letters. -/
structure Plain (among : Char -> Prop) (c : Char) : Prop where
  noRun : c ≠ '*'
  alone : ∀ d, among d -> (ofChar c).takes d = true -> d.toLower = c.toLower

/-- Every ASCII character but the two marks is plain among ASCII characters. -/
theorem plain_ascii {c : Char} (ascii : c.toNat < 0x80) (noRun : c ≠ '*') (noSingle : c ≠ '?') :
    Plain (fun d => d.toNat < 0x80) c := by
  refine ⟨noRun, fun d inside taken => ?_⟩
  rw [ofChar_literal noRun noSingle, takes, Text.sameFolded, beq_iff_eq, Text.foldCase,
    if_pos ascii, Text.foldCase, if_pos inside] at taken
  exact taken.symm

/-- Every ASCII character but the two marks and the letters of two characters outside of ASCII is
plain among all characters. -/
theorem plain_all {c : Char} (ascii : c.toNat < 0x80)
    (known : c ∉ ['*', '?', 's', 'S', 'k', 'K']) : Plain (fun _ => True) c := by
  simp only [List.mem_cons, List.not_mem_nil, or_false, not_or] at known
  rcases known with ⟨noRun, noSingle, letters⟩
  have inside := plain_ascii ascii noRun noSingle
  refine ⟨noRun, fun d _ taken => ?_⟩
  by_cases within : d.toNat < 0x80
  · exact inside.alone d within taken
  · exfalso
    rw [ofChar_literal noRun noSingle, takes, Text.sameFolded, beq_iff_eq, Text.foldCase,
      if_pos ascii] at taken
    rcases Text.foldCase_toNat (Nat.not_lt.mp within) with longS | kelvin | outside
    · rw [longS, Text.foldCase_longS] at taken
      rcases Text.toNat_of_toLower taken with small | capital
      · exact letters.1 (Char.toNat_inj.mp small)
      · exact letters.2.1 (Char.toNat_inj.mp (Nat.add_right_cancel capital))
    · rw [kelvin, Text.foldCase_kelvin] at taken
      rcases Text.toNat_of_toLower taken with small | capital
      · exact letters.2.2.1 (Char.toNat_inj.mp small)
      · exact letters.2.2.2 (Char.toNat_inj.mp (Nat.add_right_cancel capital))
    · have size := Text.toLower_toNat c
      rw [taken] at size
      split at size <;> omega

end WildcardPart

end Landform
