import Landform.Proofs.Wildcards

namespace Landform

/-!
# Wildcard patterns as regular expressions

A wildcard pattern stands for a regular expression: `.*` for every run, `.` for every single
character, and every other character for itself, with a backslash where the character would mean
something in an expression.  The expression ignores case and is held at both ends of the name.

Of regular expressions as many are read here as are needed to say what such a text means: the sign
for ignoring case, the two ends, the dot, characters that stand for themselves, and the star behind
one of these.  Any other text is not read.  An expression matches a text if it stands anywhere in
it; the ends ask for what is before and behind, the dot leaves out the line feed, and case is
simple case folding.

What a pattern covers is said without expressions by `Splits`: the name is the pieces, put one
behind the other, that the characters of the pattern stand for.  Every pattern is read as an
expression, and it matches a name if and only if the pattern splits it.  The matching that goes
through the pattern from its end decides the same.
-/

/-! ## Expressions -/

/-- What stands for one character in an expression. -/
inductive ExpressionAtom where
  | any
  | literal (character : Char)
  deriving DecidableEq

/-- A piece of an expression: one of the two ends, or an atom, once or any number of times. -/
inductive ExpressionPiece where
  | front
  | back
  | once (atom : ExpressionAtom)
  | repeated (atom : ExpressionAtom)
  deriving DecidableEq

/-- A regular expression, and whether it ignores case. -/
structure Expression where
  ignoresCase : Bool
  pieces : List ExpressionPiece
  deriving DecidableEq

/-- A character of an expression's text, once it is known whether it stands for itself. -/
inductive ExpressionSign where
  | mark (character : Char)
  | plain (character : Char)
  deriving DecidableEq

namespace Expression

/-- The characters that mean something in expressions. -/
def marks : List Char :=
  ['\\', '.', '+', '*', '?', '(', ')', '|', '[', ']', '{', '}', '^', '$', '#', '&', '-', '~']

/-- A character written so that it stands for itself. -/
def escaped (c : Char) : List Char :=
  if c ∈ marks then ['\\', c] else [c]

/-- Tells the characters that stand for themselves from those that mean something. -/
def signs? : List Char -> Option (List ExpressionSign)
  | [] => some []
  | '\\' :: c :: rest => if c ∈ marks then (signs? rest).map (.plain c :: ·) else none
  | c :: rest => (signs? rest).map ((if c ∈ marks then .mark c else .plain c) :: ·)

/-- Puts the signs together to pieces. -/
def pieces? : List ExpressionSign -> Option (List ExpressionPiece)
  | [] => some []
  | .mark '^' :: rest => (pieces? rest).map (.front :: ·)
  | .mark '$' :: rest => (pieces? rest).map (.back :: ·)
  | .mark '.' :: .mark '*' :: rest => (pieces? rest).map (.repeated .any :: ·)
  | .mark '.' :: rest => (pieces? rest).map (.once .any :: ·)
  | .plain c :: .mark '*' :: rest => (pieces? rest).map (.repeated (.literal c) :: ·)
  | .plain c :: rest => (pieces? rest).map (.once (.literal c) :: ·)
  | .mark _ :: _ => none

/-- The expression that a text is read as. -/
def ofText? (text : String) : Option Expression :=
  match text.toList with
  | '(' :: '?' :: 'i' :: ')' :: rest => ((signs? rest).bind pieces?).map (⟨true, ·⟩)
  | characters => ((signs? characters).bind pieces?).map (⟨false, ·⟩)

end Expression

/-- Whether an atom stands for a character. -/
def ExpressionAtom.takes (ignoresCase : Bool) : ExpressionAtom -> Char -> Bool
  | .any, c => c != '\n'
  | .literal expected, c =>
      if ignoresCase then Text.sameFolded expected c else expected == c

/-- Whether a piece stands for what was taken, between what is before and what is behind. -/
def ExpressionPiece.Takes (ignoresCase : Bool) (before taken behind : List Char) :
    ExpressionPiece -> Prop
  | .front => before = [] ∧ taken = []
  | .back => behind = [] ∧ taken = []
  | .once atom => Exists fun c => taken = [c] ∧ atom.takes ignoresCase c = true
  | .repeated atom => ∀ c ∈ taken, atom.takes ignoresCase c = true

namespace Expression

/-- The pieces, one behind the other, stand for what was taken. -/
def StandsFor (ignoresCase : Bool) :
    List ExpressionPiece -> List Char -> List Char -> List Char -> Prop
  | [], _, taken, _ => taken = []
  | piece :: pieces, before, taken, behind =>
      Exists fun first => Exists fun rest => taken = first ++ rest ∧
        piece.Takes ignoresCase before first (rest ++ behind) ∧
        StandsFor ignoresCase pieces (before ++ first) rest behind

/-- An expression matches a text if it stands for some part of it. -/
def Matches (expression : Expression) (text : String) : Prop :=
  Exists fun before => Exists fun taken => Exists fun behind =>
    text.toList = before ++ taken ++ behind ∧
      StandsFor expression.ignoresCase expression.pieces before taken behind

end Expression

/-! ## Patterns as expressions -/

namespace WildcardPart

/-- How a part of a pattern is written in an expression. -/
def written : WildcardPart -> List Char
  | .run => ['.', '*']
  | .single => ['.']
  | .literal c => Expression.escaped c

/-- The signs that a written part is read as. -/
def signs : WildcardPart -> List ExpressionSign
  | .run => [.mark '.', .mark '*']
  | .single => [.mark '.']
  | .literal c => [.plain c]

/-- The piece of an expression that a part is. -/
def piece : WildcardPart -> ExpressionPiece
  | .run => .repeated .any
  | .single => .once .any
  | .literal c => .once (.literal c)

end WildcardPart

namespace Wildcard

/-- The expression of a pattern, written out. -/
def expressionText (pattern : Wildcard) : String :=
  "(?i)^" ++ String.ofList (pattern.parts.flatMap WildcardPart.written) ++ "$"

/-- The expression of a pattern. -/
def expression (pattern : Wildcard) : Expression :=
  ⟨true, .front :: pattern.parts.map WildcardPart.piece ++ [.back]⟩

/-- What a character of a pattern stands for: a run on one line, one character of a line, or one
character that is the same up to case. -/
def StandsFor : Char -> List Char -> Prop
  | '*', taken => '\n' ∉ taken
  | '?', taken => Exists fun c => taken = [c] ∧ c ≠ '\n'
  | expected, taken => Exists fun c => taken = [c] ∧ Text.foldCase c = Text.foldCase expected

/-- A pattern splits a name into pieces that its characters stand for, in order. -/
def Splits (pattern name : List Char) : Prop :=
  Exists fun pieces => pieces.flatten = name ∧ List.Forall₂ StandsFor pattern pieces

end Wildcard

/-! ## Reading what was written -/

namespace Expression

theorem signs?_plain {c : Char} (known : c ∉ marks) (rest : List Char) :
    signs? (c :: rest) = (signs? rest).map (.plain c :: ·) := by
  rw [signs?, if_neg known]
  intro _ _ backslash
  exact absurd (backslash ▸ List.mem_cons_self) known

theorem signs?_mark {c : Char} (known : c ∈ marks) (noBackslash : c ≠ '\\') (rest : List Char) :
    signs? (c :: rest) = (signs? rest).map (.mark c :: ·) := by
  rw [signs?, if_pos known]
  intro _ _ backslash
  exact absurd backslash noBackslash

/-- An escaped character stands for itself. -/
theorem signs?_escaped (c : Char) (rest : List Char) :
    signs? (escaped c ++ rest) = (signs? rest).map (.plain c :: ·) := by
  by_cases known : c ∈ marks
  · rw [escaped, if_pos known]
    simp only [List.cons_append, List.nil_append, signs?, if_pos known]
  · rw [escaped, if_neg known]
    exact signs?_plain known rest

theorem signs?_written (part : WildcardPart) (rest : List Char) :
    signs? (part.written ++ rest) = (signs? rest).map (part.signs ++ ·) := by
  cases part with
  | run =>
      have star := signs?_mark (c := '*') (by decide) (by decide) rest
      have dot := signs?_mark (c := '.') (by decide) (by decide) ('*' :: rest)
      rw [star, Option.map_map] at dot
      exact dot
  | single => exact signs?_mark (by decide) (by decide) rest
  | literal c => exact signs?_escaped c rest

theorem signs?_writtenAll (parts : List WildcardPart) (rest : List Char) :
    signs? (parts.flatMap WildcardPart.written ++ rest) =
      (signs? rest).map (parts.flatMap WildcardPart.signs ++ ·) := by
  induction parts with
  | nil => exact Option.map_id'.symm
  | cons part parts inductionHypothesis =>
      rw [List.flatMap_cons, List.append_assoc, signs?_written, inductionHypothesis,
        Option.map_map]
      apply congrFun (congrArg Option.map (funext fun signs => ?_))
      rw [Function.comp_apply, List.flatMap_cons, List.append_assoc]

/-- The signs of a pattern do not begin with a star. -/
theorem signs_ne_star (parts : List WildcardPart) (rest : List ExpressionSign) :
    parts.flatMap WildcardPart.signs ++ [.mark '$'] ≠ .mark '*' :: rest := by
  cases parts with
  | nil => simp
  | cons part parts => cases part <;> simp [WildcardPart.signs]

/-- Nothing that is meant once is followed by a star. -/
theorem pieces?_signs (parts : List WildcardPart) :
    pieces? (parts.flatMap WildcardPart.signs ++ [.mark '$']) =
      some (parts.map WildcardPart.piece ++ [.back]) := by
  induction parts with
  | nil => rfl
  | cons part parts inductionHypothesis =>
      rw [List.flatMap_cons, List.append_assoc, List.map_cons, List.cons_append]
      cases part with
      | run =>
          rw [WildcardPart.signs, List.cons_append, List.cons_append, List.nil_append, pieces?,
            inductionHypothesis, Option.map_some, WildcardPart.piece]
      | single =>
          rw [WildcardPart.signs, List.cons_append, List.nil_append, pieces?,
            inductionHypothesis, Option.map_some, WildcardPart.piece]
          exact signs_ne_star parts
      | literal c =>
          rw [WildcardPart.signs, List.cons_append, List.nil_append, pieces?,
            inductionHypothesis, Option.map_some, WildcardPart.piece]
          exact signs_ne_star parts

/-- The text of a pattern's expression is read as this expression. -/
theorem ofText?_expressionText (pattern : Wildcard) :
    ofText? pattern.expressionText = some pattern.expression := by
  have characters : pattern.expressionText.toList =
      '(' :: '?' :: 'i' :: ')' :: '^' ::
        (pattern.parts.flatMap WildcardPart.written ++ ['$']) := by
    simp only [Wildcard.expressionText, String.toList_append, String.toList_ofList,
      List.append_assoc]
    rfl
  have signs : signs? ('^' :: (pattern.parts.flatMap WildcardPart.written ++ ['$'])) =
      some (.mark '^' :: (pattern.parts.flatMap WildcardPart.signs ++ [.mark '$'])) := by
    rw [signs?_mark (by decide) (by decide), signs?_writtenAll]
    rfl
  rw [ofText?, characters]
  simp only [signs, Option.bind_some, pieces?, pieces?_signs, Option.map_some]
  rfl

end Expression

/-! ## Splitting names -/

namespace Wildcard

theorem splits_nil (name : List Char) : Splits [] name ↔ name = [] := by
  constructor
  · rintro ⟨pieces, whole, each⟩
    cases each
    exact whole.symm
  · rintro rfl
    exact ⟨[], rfl, .nil⟩

/-- The first character of a pattern stands for the first piece, and the others split the rest. -/
theorem splits_cons (c : Char) (pattern name : List Char) :
    Splits (c :: pattern) name ↔
      Exists fun first => Exists fun rest => name = first ++ rest ∧ StandsFor c first ∧
        Splits pattern rest := by
  constructor
  · rintro ⟨pieces, whole, each⟩
    cases each with
    | @cons _ first _ others here later =>
        exact ⟨first, others.flatten, whole.symm, here, others, rfl, later⟩
  · rintro ⟨first, rest, rfl, here, others, whole, later⟩
    exact ⟨first :: others, by rw [List.flatten_cons, whole], .cons here later⟩

/-- What a character stands for is what its piece of the expression takes, wherever it is. -/
theorem takes_piece_iff (c : Char) (before taken behind : List Char) :
    (WildcardPart.ofChar c).piece.Takes true before taken behind ↔ StandsFor c taken := by
  unfold WildcardPart.ofChar StandsFor
  split
  · -- No character of the run is a line feed.
    simp only [WildcardPart.piece, ExpressionPiece.Takes, ExpressionAtom.takes, bne_iff_ne]
    constructor
    · intro others lineFeed
      exact others _ lineFeed rfl
    · intro missing d member same
      exact missing (same ▸ member)
  · simp only [WildcardPart.piece, ExpressionPiece.Takes, ExpressionAtom.takes, bne_iff_ne]
  · simp only [WildcardPart.piece, ExpressionPiece.Takes, ExpressionAtom.takes, if_true,
      Text.sameFolded, beq_iff_eq, @eq_comm _ (Text.foldCase c)]

theorem standsFor_pieces_iff (pattern before taken behind : List Char) :
    Expression.StandsFor true
        ((pattern.map WildcardPart.ofChar).map WildcardPart.piece ++ [.back]) before taken behind ↔
      behind = [] ∧ Splits pattern taken := by
  induction pattern generalizing before taken with
  | nil =>
      rw [splits_nil]
      constructor
      · rintro ⟨first, rest, rfl, ⟨none, rfl⟩, rfl⟩
        exact ⟨none, rfl⟩
      · rintro ⟨rfl, rfl⟩
        exact ⟨[], [], rfl, ⟨rfl, rfl⟩, rfl⟩
  | cons c pattern inductionHypothesis =>
      rw [splits_cons]
      constructor
      · rintro ⟨first, rest, whole, here, later⟩
        rcases (inductionHypothesis _ _).mp later with ⟨none, later⟩
        exact ⟨none, first, rest, whole, (takes_piece_iff c _ _ _).mp here, later⟩
      · rintro ⟨none, first, rest, whole, here, later⟩
        exact ⟨first, rest, whole, (takes_piece_iff c _ _ _).mpr here,
          (inductionHypothesis _ _).mpr ⟨none, later⟩⟩

/-- Held at both ends, the expression of a pattern stands for nothing but the whole name. -/
theorem matches_expression_iff (pattern name : String) :
    (ofText pattern).expression.Matches name ↔ Splits pattern.toList name.toList := by
  constructor
  · rintro ⟨before, taken, behind, whole, first, rest, same, ⟨none, empty⟩, stands⟩
    rcases (standsFor_pieces_iff pattern.toList _ rest behind).mp stands with ⟨nothing, splits⟩
    rw [whole, none, nothing, same, empty, List.append_nil]
    exact splits
  · intro splits
    exact ⟨[], name.toList, [], (List.append_nil _).symm, [], name.toList, rfl, ⟨rfl, rfl⟩,
      (standsFor_pieces_iff pattern.toList _ _ _).mpr ⟨rfl, splits⟩⟩

/-! ## The matching from the end -/

/-- A run takes any number of characters of one line before the rest is dealt out. -/
theorem fits_run_iff (parts : List WildcardPart) (name : List Char) :
    Fits (.run :: parts) name ↔
      Exists fun first => Exists fun rest => name = first ++ rest ∧ '\n' ∉ first ∧
        Fits parts rest := by
  constructor
  · intro fits
    induction name with
    | nil => exact ⟨[], [], rfl, List.not_mem_nil, fits_run_nil.mp fits⟩
    | cons c cs inductionHypothesis =>
        rcases fits_run_cons.mp fits with enough | ⟨sameLine, more⟩
        · exact ⟨[], c :: cs, rfl, List.not_mem_nil, enough⟩
        · rcases inductionHypothesis more with ⟨first, rest, whole, line, later⟩
          refine ⟨c :: first, rest, by rw [whole, List.cons_append], ?_, later⟩
          rw [List.mem_cons, not_or]
          exact ⟨Ne.symm sameLine, line⟩
  · rintro ⟨first, rest, rfl, line, later⟩
    induction first with
    | nil => exact .enough later
    | cons c first inductionHypothesis =>
        rw [List.mem_cons, not_or] at line
        exact .more (Ne.symm line.1) (inductionHypothesis line.2)

theorem fits_one_iff {part : WildcardPart} (single : part ≠ .run) (parts : List WildcardPart)
    (name : List Char) :
    Fits (part :: parts) name ↔
      Exists fun first => Exists fun rest => name = first ++ rest ∧
        (Exists fun c => first = [c] ∧ part.takes c = true) ∧ Fits parts rest := by
  constructor
  · intro fits
    cases name with
    | nil => exact absurd fits (not_fits_single_nil single)
    | cons c cs =>
        rcases (fits_single single).mp fits with ⟨taken, later⟩
        exact ⟨[c], cs, rfl, ⟨c, rfl, taken⟩, later⟩
  · rintro ⟨_, rest, rfl, ⟨c, rfl, taken⟩, later⟩
    exact .one single taken later

/-- What a character stands for comes before what the other characters are dealt out. -/
theorem fits_ofChar_iff (c : Char) (parts : List WildcardPart) (name : List Char) :
    Fits (WildcardPart.ofChar c :: parts) name ↔
      Exists fun first => Exists fun rest => name = first ++ rest ∧ StandsFor c first ∧
        Fits parts rest := by
  unfold WildcardPart.ofChar StandsFor
  split
  · exact fits_run_iff parts name
  · have single : WildcardPart.single ≠ .run := by simp
    simp only [fits_one_iff single, WildcardPart.takes, bne_iff_ne]
  · have single : WildcardPart.literal c ≠ .run := by simp
    rw [fits_one_iff single]
    simp only [WildcardPart.takes, Text.sameFolded, beq_iff_eq, @eq_comm _ (Text.foldCase c)]

/-- Dealing out a name character by character and splitting it into pieces come to the same. -/
theorem fits_iff_splits (pattern name : List Char) :
    Fits (pattern.map WildcardPart.ofChar) name ↔ Splits pattern name := by
  induction pattern generalizing name with
  | nil =>
      rw [splits_nil]
      constructor
      · intro fits
        cases fits
        rfl
      · rintro rfl
        exact .done
  | cons c pattern inductionHypothesis =>
      rw [splits_cons, List.map_cons, fits_ofChar_iff]
      simp only [inductionHypothesis]

example : (ofText "a*?.c").expressionText = "(?i)^a.*.\\.c$" := by
  decide

end Wildcard

end Landform
