import Landform.Archive
import Landform.Proofs.Expressions

namespace Landform

/-!
# Patterns run by an engine

A pattern is not matched by itself.  It is written as a regular expression, and an engine is asked
to compile the text and to run it on names.  What the engine does is not known here beyond its
answers; `Follows` is what is taken of it, that it runs an expression it could compile as the
expression is meant.  It may refuse any text, for instance for its length, and then there is a
fault with the engine's own words (`ofWildcard`).

For every engine that follows the meaning of expressions, a compiled pattern matches a name if and
only if the pattern splits it, and the entries of an archive that match are those the archive
finds.  That there are such engines is shown by one that tries all ways to take characters in turn
(`backtracking`).
-/

/-- An engine for regular expressions.  It may refuse a text, in its own words. -/
structure RegularExpressions where
  Regex : Type
  compile : String -> Except String Regex
  isMatch : Regex -> String -> Bool

namespace RegularExpressions

/-- What an engine compiles from the text of an expression matches what the expression matches. -/
structure Follows (engine : RegularExpressions) : Prop where
  isMatch : ∀ text regex expression, engine.compile text = .ok regex ->
    Expression.ofText? text = some expression ->
      ∀ name, engine.isMatch regex name = true ↔ expression.Matches name

/-- Compiles the expression of a pattern. -/
def ofWildcard (engine : RegularExpressions) (pattern : String) : Except Fault engine.Regex :=
  match engine.compile (Wildcard.ofText pattern).expressionText with
  | .ok regex => .ok regex
  | .error words =>
      .error
        { code := "ARCHIVE_PATTERN"
          message := "Invalid entry pattern '" ++ pattern ++ "': " ++ words }

theorem ofWildcard_eq_ok_iff {engine : RegularExpressions} {pattern : String}
    {regex : engine.Regex} :
    engine.ofWildcard pattern = .ok regex ↔
      engine.compile (Wildcard.ofText pattern).expressionText = .ok regex := by
  unfold ofWildcard
  cases engine.compile (Wildcard.ofText pattern).expressionText <;> simp

theorem Follows.isMatch_iff_splits {engine : RegularExpressions} (follows : engine.Follows)
    {pattern : String} {regex : engine.Regex} (compiled : engine.ofWildcard pattern = .ok regex)
    (name : String) :
    engine.isMatch regex name = true ↔ Wildcard.Splits pattern.toList name.toList :=
  (follows.isMatch _ regex _ (ofWildcard_eq_ok_iff.mp compiled)
    (Expression.ofText?_expressionText _) name).trans
      (Wildcard.matches_expression_iff pattern name)

/-- Whatever engine it is left to, the entries that match a pattern are those it covers. -/
theorem Follows.find_eq {engine : RegularExpressions} (follows : engine.Follows)
    {pattern : String} {regex : engine.Regex} (compiled : engine.ofWildcard pattern = .ok regex)
    (archive : Archive) :
    archive.find pattern =
      (archive.entries.map ArchiveEntry.name).filter (engine.isMatch regex) := by
  refine List.filter_congr fun name _ => Bool.eq_iff_iff.mpr ?_
  rw [Wildcard.covers_iff_fits, follows.isMatch_iff_splits compiled]
  exact Wildcard.fits_iff_splits pattern.toList name.toList

end RegularExpressions

/-! ## Taking characters in turn -/

namespace Expression

/-- Whether some number of characters can be taken so that the rest is accepted.  The rest is told
whether it still stands at the front of the text. -/
def takesRun (takes : Char -> Bool) (accepts : Bool -> List Char -> Bool) :
    Bool -> List Char -> Bool
  | atFront, [] => accepts atFront []
  | atFront, c :: rest =>
      accepts atFront (c :: rest) || (takes c && takesRun takes accepts false rest)

/-- Whether the pieces stand for some beginning of what is left of a text. -/
def begins (ignoresCase : Bool) : List ExpressionPiece -> Bool -> List Char -> Bool
  | [], _, _ => true
  | .front :: pieces, atFront, left => atFront && begins ignoresCase pieces atFront left
  | .back :: pieces, atFront, left => left.isEmpty && begins ignoresCase pieces atFront left
  | .once atom :: pieces, _, left =>
      left.head?.any (atom.takes ignoresCase) && begins ignoresCase pieces false left.tail
  | .repeated atom :: pieces, atFront, left =>
      takesRun (atom.takes ignoresCase) (begins ignoresCase pieces) atFront left

/-- Whether an expression stands for some part of a text. -/
def finds (expression : Expression) (text : String) : Bool :=
  takesRun (fun _ => true) (begins expression.ignoresCase expression.pieces) true text.toList

theorem isEmpty_append_singleton (before : List Char) (c : Char) :
    (before ++ [c]).isEmpty = false := by
  cases before <;> rfl

theorem takesRun_iff {takes : Char -> Bool} {accepts : Bool -> List Char -> Bool}
    {before left : List Char} :
    takesRun takes accepts before.isEmpty left = true ↔
      Exists fun first => Exists fun rest => left = first ++ rest ∧
        (∀ c ∈ first, takes c = true) ∧ accepts (before ++ first).isEmpty rest = true := by
  induction left generalizing before with
  | nil =>
      rw [takesRun]
      constructor
      · intro accepted
        exact ⟨[], [], rfl, List.forall_mem_nil _, by rwa [List.append_nil]⟩
      · rintro ⟨first, rest, whole, _, accepted⟩
        obtain ⟨rfl, rfl⟩ := List.append_eq_nil_iff.mp whole.symm
        rwa [List.append_nil] at accepted
  | cons c left inductionHypothesis =>
      have moved := isEmpty_append_singleton before c
      rw [takesRun, Bool.or_eq_true, Bool.and_eq_true, ← moved, inductionHypothesis]
      constructor
      · rintro (accepted | ⟨taken, first, rest, rfl, each, accepted⟩)
        · exact ⟨[], c :: left, rfl, List.forall_mem_nil _, by rwa [List.append_nil]⟩
        · refine ⟨c :: first, rest, rfl, List.forall_mem_cons.mpr ⟨taken, each⟩, ?_⟩
          rwa [List.append_assoc] at accepted
      · rintro ⟨first, rest, whole, each, accepted⟩
        cases first with
        | nil =>
            rw [List.nil_append] at whole
            rw [List.append_nil] at accepted
            exact .inl (whole ▸ accepted)
        | cons d first =>
            obtain ⟨rfl, rfl⟩ := List.cons.inj whole
            obtain ⟨taken, each⟩ := List.forall_mem_cons.mp each
            refine .inr ⟨taken, first, rest, rfl, each, ?_⟩
            rwa [List.append_assoc]

/-- What the first piece takes comes before what the others stand for. -/
theorem standsFor_cons_iff {ignoresCase : Bool} {piece : ExpressionPiece}
    {pieces : List ExpressionPiece} {before left : List Char} :
    (Exists fun taken => Exists fun behind => left = taken ++ behind ∧
        StandsFor ignoresCase (piece :: pieces) before taken behind) ↔
      Exists fun first => Exists fun rest => left = first ++ rest ∧
        piece.Takes ignoresCase before first rest ∧
        Exists fun taken => Exists fun behind => rest = taken ++ behind ∧
          StandsFor ignoresCase pieces (before ++ first) taken behind := by
  constructor
  · rintro ⟨_, behind, rfl, first, taken, rfl, here, later⟩
    exact ⟨first, taken ++ behind, by rw [List.append_assoc], here, taken, behind, rfl, later⟩
  · rintro ⟨first, _, rfl, here, taken, behind, rfl, later⟩
    exact ⟨first ++ taken, behind, by rw [List.append_assoc], first, taken, rfl, here, later⟩

theorem begins_iff {ignoresCase : Bool} {pieces : List ExpressionPiece}
    {before left : List Char} :
    begins ignoresCase pieces before.isEmpty left = true ↔
      Exists fun taken => Exists fun behind => left = taken ++ behind ∧
        StandsFor ignoresCase pieces before taken behind := by
  induction pieces generalizing before left with
  | nil => exact iff_of_true rfl ⟨[], left, rfl, rfl⟩
  | cons piece pieces inductionHypothesis =>
      rw [standsFor_cons_iff]
      cases piece with
      | front | back =>
          rw [begins, Bool.and_eq_true, inductionHypothesis, List.isEmpty_iff]
          constructor
          · rintro ⟨none, later⟩
            exact ⟨[], left, rfl, ⟨none, rfl⟩, by rwa [List.append_nil]⟩
          · rintro ⟨_, rest, rfl, ⟨none, rfl⟩, later⟩
            rw [List.append_nil] at later
            exact ⟨none, later⟩
      | once atom =>
          rw [begins, Bool.and_eq_true]
          cases left with
          | nil =>
              refine iff_of_false (fun impossible => nomatch impossible.1) ?_
              rintro ⟨_, rest, whole, ⟨c, rfl, _⟩, _⟩
              cases whole
          | cons c left =>
              have moved := isEmpty_append_singleton before c
              rw [List.tail_cons, ← moved, inductionHypothesis]
              constructor
              · rintro ⟨taken, later⟩
                exact ⟨[c], left, rfl, ⟨c, rfl, taken⟩, later⟩
              · rintro ⟨_, rest, whole, ⟨d, rfl, taken⟩, later⟩
                obtain ⟨rfl, rfl⟩ := List.cons.inj whole
                exact ⟨taken, later⟩
      | repeated atom =>
          rw [begins, takesRun_iff]
          simp only [inductionHypothesis]
          rfl

/-- Taking characters in turn finds out whether an expression matches. -/
theorem finds_iff_matches {expression : Expression} {text : String} :
    expression.finds text = true ↔ expression.Matches text := by
  refine (@takesRun_iff _ _ [] _).trans ?_
  simp only [List.nil_append, begins_iff]
  constructor
  · rintro ⟨before, _, whole, _, taken, behind, rfl, stands⟩
    exact ⟨before, taken, behind, by rw [whole, List.append_assoc], stands⟩
  · rintro ⟨before, taken, behind, whole, stands⟩
    exact ⟨before, taken ++ behind, by rw [whole, List.append_assoc], fun _ _ => trivial, taken,
      behind, rfl, stands⟩

end Expression

namespace RegularExpressions

/-- An engine that takes characters in turn, and refuses what is not read as an expression. -/
def backtracking : RegularExpressions where
  Regex := Expression
  compile text :=
    match Expression.ofText? text with
    | some expression => .ok expression
    | none => .error "regex parse error"
  isMatch := Expression.finds

theorem backtracking_follows : backtracking.Follows := by
  refine ⟨fun text regex expression compiled read name => ?_⟩
  simp only [backtracking, read] at compiled
  cases compiled
  exact Expression.finds_iff_matches

theorem backtracking_ofWildcard (pattern : String) :
    backtracking.ofWildcard pattern = .ok (Wildcard.ofText pattern).expression := by
  refine ofWildcard_eq_ok_iff.mpr ?_
  simp only [backtracking, Expression.ofText?_expressionText]

end RegularExpressions

/-! ## What patterns match -/

namespace Wildcard

/-- **Every pattern is read as an expression, which matches a name if and only if the whole name
splits along the pattern.**  A `*` stands for a run without line feeds, which may be empty, a `?`
for one character that is no line feed, and every other character, whatever it means in
expressions, for one that is the same under simple case folding.  What is found to cover a name
is the same, and so is what any engine matches that follows the meaning of expressions, if it
compiles the pattern at all. -/
theorem matches_iff_splits (pattern : String) :
    (Exists fun expression =>
      Expression.ofText? (ofText pattern).expressionText = some expression ∧
        ∀ name : String,
          (expression.Matches name ↔ Splits pattern.toList name.toList) ∧
            ((ofText pattern).covers name = true ↔ Splits pattern.toList name.toList)) ∧
      ∀ (engine : RegularExpressions) (regex : engine.Regex), engine.Follows ->
        engine.ofWildcard pattern = .ok regex ->
          ∀ name : String,
            engine.isMatch regex name = true ↔ Splits pattern.toList name.toList := by
  refine ⟨⟨(ofText pattern).expression, Expression.ofText?_expressionText _,
    fun name => ⟨?_, ?_⟩⟩, ?_⟩
  · exact matches_expression_iff pattern name
  · exact (covers_iff_fits _ name).trans (fits_iff_splits pattern.toList name.toList)
  · intro engine regex follows compiled
    exact follows.isMatch_iff_splits compiled

/-- A name that a pattern with both marks and a dot splits, and one whose dot is missing. -/
theorem matches_iff_splits_scripts :
    let engine := RegularExpressions.backtracking
    let regex := (ofText "s*?.c").expression
    engine.Follows ∧ engine.ofWildcard "s*?.c" = .ok regex ∧
      Splits "s*?.c".toList "Script.C".toList ∧ ¬Splits "s*?.c".toList "Scriptc".toList := by
  intro engine regex
  have compiled := RegularExpressions.backtracking_ofWildcard "s*?.c"
  have decided := (matches_iff_splits "s*?.c").2 engine regex
    RegularExpressions.backtracking_follows compiled
  refine ⟨RegularExpressions.backtracking_follows, compiled, (decided _).mp ?_, fun splits => ?_⟩
  · show regex.finds "Script.C" = true
    decide +kernel
  · have found : regex.finds "Scriptc" = true := (decided _).mpr splits
    have missed : regex.finds "Scriptc" = false := by decide +kernel
    rw [missed] at found
    cases found

end Wildcard

end Landform
