import Landform.Landscape.Token

namespace Landform
namespace Landscape

/-!
# Tokens laid out as text

A text lays tokens out if it shows them in their order, with gaps between them.  A gap is made
of blanks and of comments and may be empty, except that two words never touch.  How the tokens
of a text are found is left to the reader of tokens; here only the writer is described, and
`scan_laid` says that whatever a writer chooses for the gaps, the tokens are found again.
-/

/-! ## Characters of words -/

/-- A text that is a word: some characters, all of which may stand in words. -/
def IsWord (text : String) : Prop :=
  text.toList ≠ [] ∧ ∀ c ∈ text.toList, isWordChar c = true

/-- The codes of the blank characters. -/
def blankCodes : List Nat :=
  [0x09, 0x0A, 0x0B, 0x0C, 0x0D, 0x20, 0x85, 0xA0, 0x1680, 0x2000, 0x2001, 0x2002, 0x2003, 0x2004,
    0x2005, 0x2006, 0x2007, 0x2008, 0x2009, 0x200A, 0x2028, 0x2029, 0x202F, 0x205F, 0x3000]

theorem mem_blankCodes {c : Char} (blank : Text.isBlank c = true) : c.toNat ∈ blankCodes := by
  simp only [Text.isBlank, Bool.or_eq_true, Bool.and_eq_true, decide_eq_true_eq, beq_iff_eq]
    at blank
  simp only [blankCodes, List.mem_cons, List.not_mem_nil]
  omega

theorem blank_outside {code : Nat} (blank : code ∈ blankCodes) :
    Text.inRanges Text.alphanumericBasic code = false := by
  -- the ranges are gone through once, which is quicker than once for every code
  have table : (Text.alphanumericBasic.toList.all fun range => blankCodes.all fun code =>
      decide (code < range.1) || decide (range.2 < code)) = true := by
    decide +kernel
  rw [Text.inRanges, ← Array.any_toList, List.any_eq_false]
  intro range member inside
  have apart := List.all_eq_true.mp (List.all_eq_true.mp table range member) code blank
  rw [Bool.and_eq_true, decide_eq_true_eq, decide_eq_true_eq] at inside
  rw [Bool.or_eq_true, decide_eq_true_eq, decide_eq_true_eq] at apart
  omega

theorem not_wordChar_of_blank {c : Char} (blank : Text.isBlank c = true) :
    isWordChar c = false := by
  have code := mem_blankCodes blank
  have table : ∀ code ∈ blankCodes, code < 0x10000 ∧ (Char.ofNat code).isAlphanum = false ∧
      Char.ofNat code ∉ ['_', '-', '.', '%', '+'] := by
    decide
  rcases table c.toNat code with ⟨basic, noAscii, noMark⟩
  rw [Char.ofNat_toNat] at noAscii noMark
  have noAlphanumeric : Text.isAlphanumeric c = false := by
    rw [Text.isAlphanumeric, noAscii, blank_outside code, if_pos basic, ite_self]
  simp only [List.mem_cons, not_or] at noMark
  simp only [isWordChar, noAlphanumeric, Bool.or_eq_false_iff, beq_eq_false_iff_ne]
  exact ⟨⟨⟨⟨⟨trivial, noMark.1⟩, noMark.2.1⟩, noMark.2.2.1⟩, noMark.2.2.2.1⟩, noMark.2.2.2.2.1⟩

theorem not_wordChar_of_punctuation {c : Char} {kind : TokenKind}
    (punctuation : punctuation? c = some kind) : isWordChar c = false := by
  unfold punctuation? at punctuation
  split at punctuation
  case h_5 => cases punctuation
  all_goals decide +kernel

/-! ## Gaps -/

/-- A gap between tokens: blanks and comments. -/
inductive IsGap : List Char -> Prop where
  | nothing : IsGap []
  | blank {c : Char} {rest : List Char} (isBlank : Text.isBlank c = true) (gap : IsGap rest) :
      IsGap (c :: rest)
  | line {comment rest : List Char} (oneLine : '\n' ∉ comment) (gap : IsGap rest) :
      IsGap ('/' :: '/' :: comment ++ '\n' :: rest)
  | block {comment rest : List Char} (unclosed : ¬ ['*', '/'] <:+: comment)
      (gap : IsGap rest) : IsGap ('/' :: '*' :: comment ++ '*' :: '/' :: rest)

/-- What may stand behind the last token: a gap, of which the last line may be a comment. -/
inductive IsEnding : List Char -> Prop where
  | gap {chars : List Char} (isGap : IsGap chars) : IsEnding chars
  | line {front comment : List Char} (isGap : IsGap front) (oneLine : '\n' ∉ comment) :
      IsEnding (front ++ '/' :: '/' :: comment)

theorem gap_head {gap : List Char} (isGap : IsGap gap) :
    ∀ c ∈ gap.head?, isWordChar c = false := by
  have slash : isWordChar '/' = false := by decide +kernel
  intro c member
  cases isGap with
  | nothing => cases member
  | blank isBlank =>
      cases member
      exact not_wordChar_of_blank isBlank
  | line | block =>
      cases member
      exact slash

theorem ending_head {ending : List Char} (isEnding : IsEnding ending) :
    ∀ c ∈ ending.head?, isWordChar c = false := by
  have slash : isWordChar '/' = false := by decide +kernel
  cases isEnding with
  | gap isGap => exact gap_head isGap
  | @line front comment isGap oneLine =>
      intro c member
      rw [List.head?_append] at member
      cases empty : front.head? with
      | none =>
          rw [empty] at member
          cases member
          exact slash
      | some first =>
          rw [empty] at member
          cases member
          exact gap_head isGap _ empty

/-! ## Places -/

@[simp] theorem placeAfterAll_append (place : Place) (front back : List Char) :
    placeAfterAll place (front ++ back) = placeAfterAll (placeAfterAll place front) back :=
  List.foldl_append

/-- Within a line only the column moves. -/
theorem placeAfterAll_oneLine {chars : List Char} (oneLine : '\n' ∉ chars) (place : Place) :
    placeAfterAll place chars = ⟨place.line, place.column + chars.length⟩ := by
  induction chars generalizing place with
  | nil => rfl
  | cons c others inductionHypothesis =>
      rw [List.mem_cons, not_or] at oneLine
      have moved : placeAfter place c = ⟨place.line, place.column + 1⟩ :=
        if_neg fun same => oneLine.1 (beq_iff_eq.mp same).symm
      change placeAfterAll (placeAfter place c) others = _
      rw [inductionHypothesis oneLine.2, moved, List.length_cons]
      simp only [Nat.add_assoc, Nat.add_comm 1]

section

variable (found : List Token)

theorem scan_nil (place : Place) : scan place found [] = .ok ⟨found.reverse, place⟩ := by
  rw [scan.eq_def]

theorem scan_other {c : Char} (noSlash : c ≠ '/') (place : Place) (rest : List Char) :
    scan place found (c :: rest) =
      if Text.isBlank c then scan (placeAfter place c) found rest
      else
        match punctuation? c with
        | some kind => scan (placeAfter place c) (⟨kind, place⟩ :: found) rest
        | none =>
            if isWordChar c then
              scan (placeAfterAll place (c :: rest.takeWhile isWordChar))
                (⟨.word (String.ofList (c :: rest.takeWhile isWordChar)), place⟩ :: found)
                (rest.dropWhile isWordChar)
            else .error ⟨place, .strayCharacter c⟩ := by
  rw [scan.eq_def]
  split
  · rename_i impossible
    cases impossible
  · rename_i slash
    exact absurd (List.cons.inj slash).1 noSlash
  · rename_i slash
    exact absurd (List.cons.inj slash).1 noSlash
  · rename_i same
    cases same
    rfl

theorem scan_blank {c : Char} (blank : Text.isBlank c = true) (place : Place)
    (rest : List Char) :
    scan place found (c :: rest) = scan (placeAfter place c) found rest := by
  have noSlash : c ≠ '/' := by
    rintro rfl
    cases blank
  rw [scan_other found noSlash, if_pos blank]

theorem dropWhile_line {comment : List Char} (oneLine : '\n' ∉ comment) (rest : List Char) :
    ((comment ++ rest).dropWhile fun c => c != '\n') = rest.dropWhile fun c => c != '\n' := by
  apply List.dropWhile_append_of_pos
  intro c member
  exact bne_iff_ne.mpr fun same => oneLine (same ▸ member)

theorem scan_line {comment : List Char} (oneLine : '\n' ∉ comment) (place : Place)
    (rest : List Char) :
    scan place found ('/' :: '/' :: (comment ++ '\n' :: rest)) =
      scan (placeAfter place '\n') found rest := by
  rw [scan.eq_def]
  simp only [dropWhile_line oneLine]
  exact scan_blank found (by decide) place rest

theorem scan_lastLine {comment : List Char} (oneLine : '\n' ∉ comment) (place : Place) :
    scan place found ('/' :: '/' :: comment) = .ok ⟨found.reverse, place⟩ := by
  have dropped := dropWhile_line oneLine []
  rw [List.append_nil, List.dropWhile_nil] at dropped
  rw [scan.eq_def]
  simp only [dropped]
  exact scan_nil found place

/-- A comment ends where it is closed first. -/
theorem afterComment_append {comment : List Char} (unclosed : ¬ ['*', '/'] <:+: comment)
    (place : Place) (rest : List Char) :
    afterComment place (comment ++ '*' :: '/' :: rest) =
      some (placeAfterAll place (comment ++ ['*', '/']), rest) := by
  induction comment generalizing place with
  | nil => rfl
  | cons c others inductionHypothesis =>
      have later : ¬ ['*', '/'] <:+: others := fun closed => unclosed (closed.trans
        (List.infix_cons (List.infix_refl others)))
      rw [List.cons_append, afterComment.eq_3, inductionHypothesis later]
      · rfl
      rintro left rfl starts
      rcases others with _ | ⟨d, others⟩
      · cases starts
      · cases starts
        exact unclosed (List.IsPrefix.isInfix ⟨others, rfl⟩)

theorem scan_block {comment : List Char} (unclosed : ¬ ['*', '/'] <:+: comment) (place : Place)
    (rest : List Char) :
    scan place found ('/' :: '*' :: (comment ++ '*' :: '/' :: rest)) =
      scan (placeAfterAll place ('/' :: '*' :: comment ++ ['*', '/'])) found rest := by
  have closed := afterComment_append unclosed (placeAfterAll place ['/', '*']) rest
  rw [scan.eq_def]
  simp only
  split
  · rename_i same
    rw [closed] at same
    cases same
    rfl
  · rename_i same
    rw [closed] at same
    cases same

/-- Nothing is found in a gap, and the place behind it is known. -/
theorem scan_gap {gap : List Char} (isGap : IsGap gap) (place : Place) (rest : List Char) :
    scan place found (gap ++ rest) = scan (placeAfterAll place gap) found rest := by
  induction isGap generalizing place with
  | nothing => rfl
  | blank isBlank gap inductionHypothesis =>
      rw [List.cons_append, scan_blank found isBlank]
      exact inductionHypothesis _
  | @line comment others oneLine gap inductionHypothesis =>
      have skipped : placeAfterAll place ('/' :: '/' :: comment) =
          ⟨place.line, place.column + (comment.length + 2)⟩ :=
        placeAfterAll_oneLine (by simpa using oneLine) place
      -- the comment does not move the column, and behind the line it does not matter
      have moved : placeAfterAll place ('/' :: '/' :: comment ++ '\n' :: others) =
          placeAfterAll (placeAfter place '\n') others := by
        rw [placeAfterAll_append, skipped]
        rfl
      rw [moved, ← inductionHypothesis, ← scan_line found oneLine place (others ++ rest)]
      simp only [List.cons_append, List.append_assoc]
  | @block comment others unclosed gap inductionHypothesis =>
      have moved : placeAfterAll place ('/' :: '*' :: comment ++ '*' :: '/' :: others) =
          placeAfterAll (placeAfterAll place ('/' :: '*' :: comment ++ ['*', '/'])) others := by
        rw [← placeAfterAll_append, List.append_assoc]
        rfl
      rw [moved, ← inductionHypothesis, ← scan_block found unclosed place (others ++ rest)]
      simp only [List.cons_append, List.append_assoc]

theorem scan_lastGap {gap : List Char} (isGap : IsGap gap) (place : Place) :
    scan place found gap = .ok ⟨found.reverse, placeAfterAll place gap⟩ := by
  have skipped := scan_gap found isGap place []
  rwa [List.append_nil, scan_nil] at skipped

theorem scan_ending {ending : List Char} (isEnding : IsEnding ending) (place : Place) :
    Exists fun stop => scan place found ending = .ok ⟨found.reverse, stop⟩ := by
  cases isEnding with
  | gap isGap => exact ⟨_, scan_lastGap found isGap place⟩
  | @line front comment isGap oneLine =>
      rw [scan_gap found isGap, scan_lastLine found oneLine]
      exact ⟨_, rfl⟩

end

/-! ## Tokens between gaps -/

namespace TokenKind

/-- The characters of a token. -/
def chars : TokenKind -> List Char
  | .word text => text.toList
  | .openBrace => ['\x7b']
  | .closeBrace => ['\x7d']
  | .semicolon => [';']
  | .equals => ['=']

/-- Whether a token is a word. -/
def isWord : TokenKind -> Bool
  | .word _ => true
  | _ => false

/-- Whether a token is one that can be written: the text of a word is one. -/
def IsSound : TokenKind -> Prop
  | .word text => IsWord text
  | _ => True

end TokenKind

/-- Tokens laid out as text, behind a word or behind something else. -/
inductive Laid : Bool -> List TokenKind -> List Char -> Prop where
  | ending {afterWord : Bool} {chars : List Char} (isEnding : IsEnding chars) :
      Laid afterWord [] chars
  | token {afterWord : Bool} {kind : TokenKind} {kinds : List TokenKind} {gap rest : List Char}
      (isGap : IsGap gap) (apart : afterWord = true -> kind.isWord = true -> gap ≠ [])
      (laid : Laid kind.isWord kinds rest) :
      Laid afterWord (kind :: kinds) (gap ++ kind.chars ++ rest)

theorem laid_head {kinds : List TokenKind} {text : List Char} (laid : Laid true kinds text) :
    ∀ c ∈ text.head?, isWordChar c = false := by
  cases laid with
  | ending isEnding => exact ending_head isEnding
  | @token _ kind _ gap rest isGap apart _ =>
      intro c member
      rcases gap with _ | ⟨first, more⟩
      · cases kind with
        | word text => exact absurd rfl (apart rfl rfl)
        | _ =>
            cases member
            decide +kernel
      · cases member
        exact gap_head isGap _ rfl

section

variable (found : List Token)

theorem scan_punctuation {c : Char} {kind : TokenKind} (punctuation : punctuation? c = some kind)
    (notBlank : Text.isBlank c = false) (place : Place) (rest : List Char) :
    scan place found (c :: rest) = scan (placeAfter place c) (⟨kind, place⟩ :: found) rest := by
  have noSlash : c ≠ '/' := by
    rintro rfl
    cases punctuation
  rw [scan_other found noSlash, notBlank, punctuation]
  rfl

theorem word_ends {chars rest : List Char} (inWord : ∀ c ∈ chars, isWordChar c = true)
    (apart : ∀ c ∈ rest.head?, isWordChar c = false) :
    (chars ++ rest).takeWhile isWordChar = chars ∧
      (chars ++ rest).dropWhile isWordChar = rest := by
  rw [List.takeWhile_append_of_pos inWord, List.dropWhile_append_of_pos inWord]
  rcases rest with _ | ⟨c, others⟩
  · exact ⟨List.append_nil chars, rfl⟩
  · have stops := Bool.eq_false_iff.mp (apart c rfl)
    rw [List.takeWhile_cons_of_neg stops, List.dropWhile_cons_of_neg stops, List.append_nil]
    exact ⟨rfl, rfl⟩

theorem scan_word {text : String} (word : IsWord text) (place : Place) {rest : List Char}
    (apart : ∀ c ∈ rest.head?, isWordChar c = false) :
    scan place found (text.toList ++ rest) =
      scan (placeAfterAll place text.toList) (⟨.word text, place⟩ :: found) rest := by
  rcases word with ⟨nonempty, inWord⟩
  cases shown : text.toList with
  | nil => exact absurd shown nonempty
  | cons c others =>
      rw [shown, List.forall_mem_cons] at inWord
      have noSlash : c ≠ '/' := by
        rintro rfl
        have slash : isWordChar '/' = false := by decide +kernel
        rw [slash] at inWord
        cases inWord.1
      have notBlank : Text.isBlank c = false := by
        apply Bool.eq_false_iff.mpr
        intro blank
        rw [not_wordChar_of_blank blank] at inWord
        cases inWord.1
      have noPunctuation : punctuation? c = none := by
        cases punctuation : punctuation? c with
        | none => rfl
        | some kind =>
            rw [not_wordChar_of_punctuation punctuation] at inWord
            cases inWord.1
      have ends := word_ends inWord.2 apart
      rw [List.cons_append, scan_other found noSlash, notBlank, noPunctuation]
      simp only [Bool.false_eq_true, if_false, inWord.1, if_true, ends.1, ends.2]
      rw [← shown, String.ofList_toList]

/-- A token is found where it stands. -/
theorem scan_token {kind : TokenKind} (sound : kind.IsSound) (place : Place) {rest : List Char}
    (apart : kind.isWord = true -> ∀ c ∈ rest.head?, isWordChar c = false) :
    scan place found (kind.chars ++ rest) =
      scan (placeAfterAll place kind.chars) (⟨kind, place⟩ :: found) rest := by
  cases kind with
  | word text => exact scan_word found sound place (apart rfl)
  | _ => exact scan_punctuation found rfl (by decide) place rest

/-- What is laid out is found. -/
theorem scan_laid {afterWord : Bool} {kinds : List TokenKind} {text : List Char}
    (laid : Laid afterWord kinds text) (sound : ∀ kind ∈ kinds, kind.IsSound) (place : Place) :
    Exists fun tokens => Exists fun stop =>
      scan place found text = .ok ⟨found.reverse ++ tokens, stop⟩ ∧
        tokens.map Token.kind = kinds := by
  induction laid generalizing place found with
  | ending isEnding =>
      rcases scan_ending found isEnding place with ⟨stop, scanned⟩
      exact ⟨[], stop, by rw [List.append_nil, scanned], rfl⟩
  | @token _ kind kinds gap rest isGap _ laid inductionHypothesis =>
      have behind : kind.isWord = true -> ∀ c ∈ rest.head?, isWordChar c = false :=
        fun word => laid_head (word ▸ laid)
      let start := placeAfterAll place gap
      rcases inductionHypothesis (⟨kind, start⟩ :: found)
        (fun other member => sound other (List.mem_cons_of_mem _ member))
        (placeAfterAll start kind.chars) with ⟨tokens, stop, scanned, shown⟩
      refine ⟨⟨kind, start⟩ :: tokens, stop, ?_, congrArg (kind :: ·) shown⟩
      rw [List.append_assoc, scan_gap found isGap, scan_token found (sound kind List.mem_cons_self)
        start behind, scanned, List.reverse_cons, List.append_assoc, List.singleton_append]

end

end Landscape
end Landform
