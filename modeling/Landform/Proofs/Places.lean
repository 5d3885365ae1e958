import Landform.Proofs.Grammar
import Landform.Proofs.Layout
import Mathlib.Data.List.TakeWhile

namespace Landform
namespace Landscape

/-!
# Where tokens stand

Reading tokens keeps three counters up by hand: how far it has come, the line and the column.
Here a text is taken apart without any counter.  Its front splits into tokens, each with a gap in
front of it, and the place of a token is that behind everything in front of it.  Then either
an ending follows, or something that is neither a token nor a gap.  `tokenize_exact` says that
this is what reading tokens finds, whatever the text; both parts are needed, since a reader that
refuses every text, or accepts every one, would satisfy the other.

The place at which a text ends is not always the place behind it: a comment that is still open
at the end of the text, with no end of its line behind it, leaves the column where it was.
`tokenize_stop` says that nothing else does.
-/

/-- The place behind some text: lines and columns are counted from one. -/
def placeBehind (text : List Char) : Place :=
  ⟨text.count '\n' + 1, (text.reverse.takeWhile fun c => c != '\n').length + 1⟩

theorem chars_ne_nil {kind : TokenKind} (sound : kind.IsSound) : kind.chars ≠ [] := by
  cases kind with
  | word text => exact sound.1
  | _ => exact List.cons_ne_nil _ _

/-- The front of a text splits into tokens, each with a gap in front of it. -/
inductive Splits (text : List Char) : List Token -> List Char -> Prop where
  | nothing : Splits text [] []
  | token {tokens : List Token} {front gap rest : List Char} {kind : TokenKind}
      (splits : Splits text tokens front) (isGap : IsGap gap) (sound : kind.IsSound)
      (standing : front ++ gap ++ kind.chars ++ rest = text)
      (maximal : kind.isWord = true ->
        (∀ c ∈ (front ++ gap).getLast?, isWordChar c = false) ∧
          ∀ c ∈ rest.head?, isWordChar c = false) :
      Splits text (tokens ++ [⟨kind, placeBehind (front ++ gap)⟩]) (front ++ gap ++ kind.chars)

/-- A text consists of tokens, of gaps in front of them and of an ending. -/
def Consists (text : List Char) (tokens : List Token) : Prop :=
  Exists fun front => Exists fun ending =>
    front ++ ending = text ∧ Splits text tokens front ∧ IsEnding ending

/-- What neither begins with a token nor belongs to a gap. -/
inductive Offends : LexicalCause -> List Char -> Prop where
  | unclosedComment {comment : List Char} (unclosed : ¬ ['*', '/'] <:+: comment) :
      Offends .unclosedComment ('/' :: '*' :: comment)
  | strayCharacter {c : Char} {rest : List Char} (notBlank : Text.isBlank c = false)
      (noPunctuation : punctuation? c = none) (noWord : isWordChar c = false)
      (noComment : c = '/' -> ∀ d ∈ rest.head?, d ≠ '/' ∧ d ≠ '*') :
      Offends (.strayCharacter c) (c :: rest)

/-- Behind some tokens and a gap a text goes on with something that is none of them. -/
def Breaks (text : List Char) (fault : LexicalFault) : Prop :=
  Exists fun tokens => Exists fun front => Exists fun gap => Exists fun rest =>
    front ++ gap ++ rest = text ∧ Splits text tokens front ∧ IsGap gap ∧
      Offends fault.cause rest ∧ fault.place = placeBehind (front ++ gap)

/-! ## Places -/

theorem placeBehind_concat (text : List Char) (c : Char) :
    placeBehind (text ++ [c]) = placeAfter (placeBehind text) c := by
  by_cases lineEnd : c = '\n'
  · subst lineEnd
    simp [placeBehind, placeAfter]
  · have other : (c == '\n') = false := beq_eq_false_iff_ne.mpr lineEnd
    simp [placeBehind, placeAfter, other, lineEnd, bne]

theorem placeAfterAll_behind (front back : List Char) :
    placeAfterAll (placeBehind front) back = placeBehind (front ++ back) := by
  induction back generalizing front with
  | nil => rw [List.append_nil]; rfl
  | cons c others inductionHypothesis =>
      rw [← List.singleton_append, ← List.append_assoc, ← inductionHypothesis, placeBehind_concat]
      rfl

/-! ## What is split is found -/

theorem scan_of_splits {text front : List Char} {tokens : List Token}
    (splits : Splits text tokens front) {rest : List Char} (whole : front ++ rest = text) :
    scan textStart [] text = scan (placeBehind front) tokens.reverse rest := by
  induction splits generalizing rest with
  | nothing =>
      subst whole
      rfl
  | @token tokens front gap behind kind splits isGap sound standing maximal inductionHypothesis =>
      have same : rest = behind := List.append_cancel_left (whole.trans standing.symm)
      subst same
      have before : scan textStart [] text =
          scan (placeBehind front) tokens.reverse (gap ++ (kind.chars ++ rest)) :=
        inductionHypothesis (by simpa only [List.append_assoc] using whole)
      rw [before, scan_gap _ isGap, scan_token _ sound _ fun word => (maximal word).2,
        placeAfterAll_behind, placeAfterAll_behind, List.reverse_append]
      rfl

theorem tokenize_of_consists {source : String} {tokens : List Token}
    (consists : Consists source.toList tokens) :
    Exists fun stop => tokenize source = .ok ⟨tokens, stop⟩ := by
  rcases consists with ⟨front, ending, whole, splits, isEnding⟩
  rcases scan_ending tokens.reverse isEnding (placeBehind front) with ⟨stop, scanned⟩
  refine ⟨stop, ?_⟩
  rw [tokenize, scan_of_splits splits whole, scanned, List.reverse_reverse]

theorem afterComment_unclosed {comment : List Char} (unclosed : ¬ ['*', '/'] <:+: comment)
    (place : Place) : afterComment place comment = none := by
  induction comment generalizing place with
  | nil => rfl
  | cons c others inductionHypothesis =>
      rw [afterComment.eq_3]
      · exact inductionHypothesis (fun closed => unclosed (List.infix_cons closed)) _
      · rintro left rfl rfl
        exact unclosed (List.IsPrefix.isInfix ⟨left, rfl⟩)

theorem scan_offence {cause : LexicalCause} {rest : List Char} (offends : Offends cause rest)
    (place : Place) (found : List Token) : scan place found rest = .error ⟨place, cause⟩ := by
  cases offends with
  | unclosedComment unclosed =>
      rw [scan.eq_def]
      simp only
      split
      · rename_i same
        rw [afterComment_unclosed unclosed] at same
        cases same
      · rfl
  | @strayCharacter c rest notBlank noPunctuation noWord noComment =>
      rw [scan.eq_def]
      split
      · rename_i impossible
        cases impossible
      · rename_i same
        cases same
        exact absurd rfl (noComment rfl '/' rfl).1
      · rename_i same
        cases same
        exact absurd rfl (noComment rfl '*' rfl).2
      · rename_i same
        cases same
        rw [notBlank, noPunctuation, noWord]
        rfl

theorem tokenize_of_breaks {source : String} {fault : LexicalFault}
    (breaks : Breaks source.toList fault) : tokenize source = .error fault := by
  rcases breaks with ⟨tokens, front, gap, rest, whole, splits, isGap, offends, place⟩
  rw [tokenize, scan_of_splits splits (by rw [← List.append_assoc, whole]), scan_gap _ isGap,
    scan_offence offends, placeAfterAll_behind, ← place]

/-! ## Every text is split -/

theorem IsGap.append {front back : List Char} (first : IsGap front) (second : IsGap back) :
    IsGap (front ++ back) := by
  induction first with
  | nothing => exact second
  | blank isBlank _ inductionHypothesis => exact .blank isBlank inductionHypothesis
  | line oneLine _ inductionHypothesis =>
      simpa only [List.cons_append, List.append_assoc] using IsGap.line oneLine inductionHypothesis
  | block unclosed _ inductionHypothesis =>
      simpa only [List.cons_append, List.append_assoc] using
        IsGap.block unclosed inductionHypothesis

/-- A text that ends a comment somewhere ends it somewhere first. -/
theorem first_close {text : List Char} (closed : ['*', '/'] <:+: text) :
    Exists fun comment => Exists fun rest =>
      text = comment ++ '*' :: '/' :: rest ∧ ¬ ['*', '/'] <:+: comment := by
  induction text with
  | nil => exact absurd (List.infix_nil.mp closed) (by decide)
  | cons c others inductionHypothesis =>
      rcases List.infix_cons_iff.mp closed with ⟨rest, here⟩ | later
      · exact ⟨[], rest, here.symm, by decide⟩
      · rcases inductionHypothesis later with ⟨comment, rest, rfl, unclosed⟩
        by_cases again : ['*', '/'] <:+: c :: comment
        · rcases List.infix_cons_iff.mp again with ⟨behind, here⟩ | inside
          · exact ⟨[], behind ++ '*' :: '/' :: rest, by rw [← List.cons_append, ← here]; rfl,
              by decide⟩
          · exact absurd inside unclosed
        · exact ⟨c :: comment, rest, rfl, again⟩

/-- What a text may open with. -/
inductive Opens : List Char -> Prop where
  | nothing : Opens []
  | gap {gap rest : List Char} (isGap : IsGap gap) (nonempty : gap ≠ []) : Opens (gap ++ rest)
  | token {kind : TokenKind} {rest : List Char} (sound : kind.IsSound)
      (ends : kind.isWord = true -> ∀ c ∈ rest.head?, isWordChar c = false) :
      Opens (kind.chars ++ rest)
  | lastLine {comment : List Char} (oneLine : '\n' ∉ comment) : Opens ('/' :: '/' :: comment)
  | offence {cause : LexicalCause} {rest : List Char} (offends : Offends cause rest) : Opens rest

theorem opens_word {c : Char} (inWord : isWordChar c = true) (rest : List Char) :
    Opens (c :: rest) := by
  have split : c :: rest =
      (c :: rest.takeWhile isWordChar) ++ rest.dropWhile isWordChar := by
    rw [List.cons_append, List.takeWhile_append_dropWhile]
  have sound : (TokenKind.word (String.ofList (c :: rest.takeWhile isWordChar))).IsSound := by
    rw [TokenKind.IsSound, IsWord, String.toList_ofList]
    refine ⟨List.cons_ne_nil _ _, List.forall_mem_cons.mpr ⟨inWord, fun d member => ?_⟩⟩
    exact List.mem_takeWhile_imp member
  have ends : ∀ d ∈ (rest.dropWhile isWordChar).head?, isWordChar d = false := by
    intro d member
    have stops := List.head?_dropWhile_not isWordChar rest
    rw [Option.mem_def.mp member] at stops
    exact stops
  have opening := Opens.token sound fun _ => ends
  rwa [TokenKind.chars, String.toList_ofList, ← split] at opening

theorem punctuation_token {c : Char} {kind : TokenKind}
    (punctuation : punctuation? c = some kind) :
    kind.chars = [c] ∧ kind.isWord = false ∧ kind.IsSound := by
  unfold punctuation? at punctuation
  split at punctuation
  case h_5 => cases punctuation
  all_goals
    cases punctuation
    exact ⟨rfl, rfl, trivial⟩

theorem opens_punctuation {c : Char} {kind : TokenKind}
    (punctuation : punctuation? c = some kind) (rest : List Char) : Opens (c :: rest) := by
  rcases punctuation_token punctuation with ⟨shown, noWord, sound⟩
  have opening : Opens (kind.chars ++ rest) := .token sound fun word => by
    rw [noWord] at word
    cases word
  rwa [shown] at opening

theorem opens_slash (rest : List Char) : Opens ('/' :: rest) := by
  rcases rest with _ | ⟨d, others⟩
  · exact .offence (.strayCharacter (by decide) rfl (by decide +kernel) fun _ _ member => by
      cases member)
  by_cases line : d = '/'
  · subst line
    by_cases ends : '\n' ∈ others
    · rcases List.eq_append_cons_of_mem ends with ⟨comment, behind, rfl, oneLine⟩
      have isGap : IsGap ('/' :: '/' :: comment ++ ['\n']) := .line oneLine .nothing
      have opening : Opens ('/' :: '/' :: comment ++ ['\n'] ++ behind) :=
        .gap isGap (List.cons_ne_nil _ _)
      simpa only [List.cons_append, List.append_assoc, List.nil_append] using opening
    · exact .lastLine ends
  by_cases block : d = '*'
  · subst block
    by_cases closed : ['*', '/'] <:+: others
    · rcases first_close closed with ⟨comment, behind, rfl, unclosed⟩
      have isGap : IsGap ('/' :: '*' :: comment ++ ['*', '/']) := .block unclosed .nothing
      have opening : Opens ('/' :: '*' :: comment ++ ['*', '/'] ++ behind) :=
        .gap isGap (List.cons_ne_nil _ _)
      simpa only [List.cons_append, List.append_assoc, List.nil_append] using opening
    · exact .offence (.unclosedComment closed)
  · refine .offence (.strayCharacter (by decide) rfl (by decide +kernel) fun _ e member => ?_)
    cases member
    exact ⟨line, block⟩

/-- Whatever a text opens with is a token, belongs to a gap, or offends. -/
theorem opens (text : List Char) : Opens text := by
  rcases text with _ | ⟨c, rest⟩
  · exact .nothing
  by_cases slash : c = '/'
  · exact slash ▸ opens_slash rest
  by_cases blank : Text.isBlank c = true
  · have isGap : IsGap [c] := .blank blank .nothing
    exact .gap isGap (List.cons_ne_nil _ _)
  cases punctuation : punctuation? c with
  | some kind => exact opens_punctuation punctuation rest
  | none =>
      by_cases inWord : isWordChar c = true
      · exact opens_word inWord rest
      · exact .offence (.strayCharacter (Bool.eq_false_iff.mpr blank) punctuation
          (Bool.eq_false_iff.mpr inWord) fun same => absurd same slash)

theorem gap_last {gap : List Char} (isGap : IsGap gap) :
    ∀ c ∈ gap.getLast?, isWordChar c = false := by
  have closing : isWordChar '/' = false ∧ isWordChar '\n' = false := by decide +kernel
  induction isGap with
  | nothing =>
      intro c member
      cases member
  | @blank c rest isBlank gap inductionHypothesis =>
      intro last member
      rcases rest with _ | ⟨d, others⟩
      · cases member
        exact not_wordChar_of_blank isBlank
      · exact inductionHypothesis last (by rwa [List.getLast?_cons_cons] at member)
  | @line comment rest oneLine gap inductionHypothesis =>
      intro last member
      rw [List.getLast?_append, List.getLast?_cons] at member
      cases behind : rest.getLast? with
      | none =>
          rw [behind] at member
          cases member
          exact closing.2
      | some c =>
          rw [behind] at member
          cases member
          exact inductionHypothesis _ behind
  | @block comment rest unclosed gap inductionHypothesis =>
      intro last member
      rw [List.getLast?_append, List.getLast?_cons_cons, List.getLast?_cons] at member
      cases behind : rest.getLast? with
      | none =>
          rw [behind] at member
          cases member
          exact closing.1
      | some c =>
          rw [behind] at member
          cases member
          exact inductionHypothesis _ behind

/-- Behind the front of a text that splits, a gap has been passed; no word is cut here. -/
structure Reaches (text : List Char) (tokens : List Token) (front gap rest : List Char) :
    Prop where
  whole : front ++ gap ++ rest = text
  splits : Splits text tokens front
  isGap : IsGap gap
  apart : (∀ c ∈ (front ++ gap).getLast?, isWordChar c = false) ∨
    ∀ c ∈ rest.head?, isWordChar c = false

namespace Reaches

variable {text : List Char} {tokens : List Token} {front gap rest : List Char}

theorem start (text : List Char) : Reaches text [] [] [] text where
  whole := rfl
  splits := .nothing
  isGap := .nothing
  apart := Or.inl fun c member => by cases member

theorem widen {more : List Char} (reaches : Reaches text tokens front gap (more ++ rest))
    (isGap : IsGap more) : Reaches text tokens front (gap ++ more) rest where
  whole := by simpa only [List.append_assoc] using reaches.whole
  splits := reaches.splits
  isGap := reaches.isGap.append isGap
  apart := by
    cases last : more.getLast? with
    | none =>
        rw [List.getLast?_eq_none_iff] at last
        subst last
        rw [List.append_nil]
        exact reaches.apart
    | some c =>
        left
        rw [← List.append_assoc, List.getLast?_append, last]
        rintro _ ⟨⟩
        exact gap_last isGap c last

theorem take {kind : TokenKind} (reaches : Reaches text tokens front gap (kind.chars ++ rest))
    (sound : kind.IsSound)
    (ends : kind.isWord = true -> ∀ c ∈ rest.head?, isWordChar c = false) :
    Reaches text (tokens ++ [⟨kind, placeBehind (front ++ gap)⟩]) (front ++ gap ++ kind.chars) []
      rest where
  whole := by simpa only [List.append_assoc, List.append_nil, List.nil_append] using reaches.whole
  splits := by
    refine .token reaches.splits reaches.isGap sound
      (by simpa only [List.append_assoc] using reaches.whole) fun word => ⟨?_, ends word⟩
    rcases reaches.apart with free | blocked
    · exact free
    · cases kind with
      | word text =>
          rcases sound with ⟨nonempty, inWord⟩
          cases shown : text.toList with
          | nil => exact absurd shown nonempty
          | cons c others =>
              have stops := blocked c (by rw [TokenKind.chars, shown]; rfl)
              rw [inWord c (shown ▸ List.mem_cons_self)] at stops
              cases stops
      | _ => cases word
  isGap := .nothing
  apart := by
    cases kind with
    | word text => exact Or.inr (ends rfl)
    | _ =>
        left
        rw [List.append_nil, List.getLast?_append]
        rintro _ ⟨⟩
        decide +kernel

end Reaches

/-- From anywhere in a text either its end or an offence is reached. -/
theorem consists_or_breaks {text : List Char} {tokens : List Token}
    {front gap rest : List Char} (reaches : Reaches text tokens front gap rest) :
    (Exists fun all => Consists text all) ∨ Exists fun fault => Breaks text fault := by
  cases opens rest with
  | nothing =>
      have whole := reaches.whole
      rw [List.append_nil] at whole
      exact Or.inl ⟨tokens, front, gap, whole, reaches.splits, .gap reaches.isGap⟩
  | @lastLine comment oneLine =>
      have whole := reaches.whole
      rw [List.append_assoc] at whole
      exact Or.inl ⟨tokens, front, _, whole, reaches.splits, .line reaches.isGap oneLine⟩
  | offence offends =>
      exact Or.inr ⟨⟨placeBehind (front ++ gap), _⟩, tokens, front, gap, rest, reaches.whole,
        reaches.splits, reaches.isGap, offends, rfl⟩
  | @gap more behind isGap nonempty =>
      have shorter : behind.length < (more ++ behind).length := by
        rw [List.length_append]
        have := List.length_pos_iff.mpr nonempty
        omega
      exact consists_or_breaks (reaches.widen isGap)
  | @token kind behind sound ends =>
      have shorter : behind.length < (kind.chars ++ behind).length := by
        rw [List.length_append]
        have := List.length_pos_iff.mpr (chars_ne_nil sound)
        omega
      exact consists_or_breaks (reaches.take sound ends)
termination_by rest.length

theorem consists_of_tokenize {source : String} {list : TokenList}
    (read : tokenize source = .ok list) : Consists source.toList list.tokens := by
  rcases consists_or_breaks (Reaches.start source.toList) with ⟨all, consists⟩ | ⟨fault, breaks⟩
  · rcases tokenize_of_consists consists with ⟨stop, again⟩
    rw [read] at again
    cases again
    exact consists
  · rw [tokenize_of_breaks breaks] at read
    cases read

theorem breaks_of_tokenize {source : String} {fault : LexicalFault}
    (refused : tokenize source = .error fault) : Breaks source.toList fault := by
  rcases consists_or_breaks (Reaches.start source.toList) with ⟨all, consists⟩ | ⟨other, breaks⟩
  · rcases tokenize_of_consists consists with ⟨stop, read⟩
    rw [read] at refused
    cases refused
  · rw [tokenize_of_breaks breaks] at refused
    cases refused
    exact breaks

/--
Reading tokens takes a text apart as it can be taken apart.  It succeeds just if the text consists
of tokens, and finds these, each word as long as it can be and each token at its place; and it
fails just if the text breaks off before its end, with a comment that is never closed or a character
that begins nothing, and at the place of these.
-/
theorem tokenize_exact (source : String) :
    (∀ tokens, (Exists fun stop => tokenize source = .ok ⟨tokens, stop⟩) ↔
        Consists source.toList tokens) ∧
      ∀ fault, tokenize source = .error fault ↔ Breaks source.toList fault := by
  refine ⟨fun tokens => ⟨?_, tokenize_of_consists⟩, fun fault =>
    ⟨breaks_of_tokenize, tokenize_of_breaks⟩⟩
  rintro ⟨stop, read⟩
  exact consists_of_tokenize read

/-! ## The end of a text -/

/-- A comment that is still open where the text ends, without the end of its line. -/
def IsOpenLine (comment : List Char) : Prop :=
  Exists fun text => comment = '/' :: '/' :: text ∧ '\n' ∉ text

/-- Whether a cause is that the text ends. -/
def DescriptionCause.namesEnd : DescriptionCause -> Bool
  | .mapExpected none | .braceExpected none | .equalsExpected _ none | .valueExpected _ none
  | .unclosedBlock => true
  | _ => false

/-- A comment that is still open has a width. -/
theorem placeBehind_openLine {comment : List Char} (isOpen : IsOpenLine comment)
    (front : List Char) : placeBehind front ≠ placeBehind (front ++ comment) := by
  rcases isOpen with ⟨text, rfl, oneLine⟩
  intro same
  have noEnd : '\n' ∉ '/' :: '/' :: text := by simpa using oneLine
  rw [← placeAfterAll_behind, placeAfterAll_oneLine noEnd] at same
  have column := congrArg Place.column same
  simp only [List.length_cons] at column
  omega

/-- What a text ends with, behind its last token, and the place that is taken for its end. -/
theorem stop_of_consists {source : String} {list : TokenList}
    (read : tokenize source = .ok list) :
    Exists fun front => Exists fun gap => Exists fun comment =>
      front ++ gap ++ comment = source.toList ∧ Splits source.toList list.tokens front ∧
        IsGap gap ∧ (comment = [] ∨ IsOpenLine comment) ∧
        list.stop = placeBehind (front ++ gap) := by
  rcases consists_of_tokenize read with ⟨front, ending, whole, splits, isEnding⟩
  have scanned := scan_of_splits splits whole
  rw [← tokenize, read] at scanned
  cases isEnding with
  | gap isGap =>
      rw [scan_lastGap _ isGap, placeAfterAll_behind] at scanned
      refine ⟨front, ending, [], by rwa [List.append_nil], splits, isGap, Or.inl rfl, ?_⟩
      exact congrArg TokenList.stop (Except.ok.inj scanned)
  | @line gap comment isGap oneLine =>
      rw [scan_gap _ isGap, scan_lastLine _ oneLine, placeAfterAll_behind] at scanned
      refine ⟨front, gap, _, by rwa [List.append_assoc], splits, isGap,
        Or.inr ⟨comment, rfl, oneLine⟩, ?_⟩
      exact congrArg TokenList.stop (Except.ok.inj scanned)

section

variable {offence : DescriptionFault}

theorem apply_goesOn {attributes : Attributes} {key : SettingKey} {word : String} {place : Place}
    (refused : attributes.apply key word place = .error offence) :
    offence.cause.namesEnd = false := by
  simp only [Attributes.apply] at refused
  split at refused
  case h_2 | h_3 | h_4 => cases refused
  case h_16 =>
    cases refused
    rfl
  -- the other keys read a value, and refuse one that cannot be read
  all_goals
    split at refused <;> cases refused
    rfl

variable {reading : Reading} {token : Token}

theorem start_goesOn {kind : NodeKind} {place : Place}
    (refused : reading.start kind place = .error offence) : offence.cause.namesEnd = false := by
  unfold Reading.start at refused
  split at refused <;> cases refused
  rfl

theorem takeOutside_goesOn (refused : reading.takeOutside token = .error offence) :
    offence.cause.namesEnd = false := by
  unfold Reading.takeOutside at refused
  split at refused
  · cases refused
  · exact start_goesOn refused
  · cases refused
    rfl

theorem takeInside_goesOn {block : OpenBlock} {outer : List OpenBlock}
    (refused : reading.takeInside block outer token = .error offence) :
    offence.cause.namesEnd = false := by
  unfold Reading.takeInside at refused
  split at refused
  case h_3 | h_4 => exact start_goesOn refused
  case h_6 =>
    cases refused
    rfl
  all_goals cases refused

theorem applySetting_goesOn {key : SettingKey} {word : String} {place : Place}
    (refused : reading.applySetting key word place = .error offence) :
    offence.cause.namesEnd = false := by
  unfold Reading.applySetting at refused
  split at refused
  · cases refused
  · rename_i block outer _
    cases applied : block.attributes.apply key word place with
    | ok attributes =>
        rw [applied] at refused
        cases refused
    | error cause =>
        rw [applied] at refused
        cases refused
        exact apply_goesOn applied

/-- A token that does not fit is not taken for the end of the text. -/
theorem take_goesOn (refused : reading.take token = .error offence) :
    offence.cause.namesEnd = false := by
  rcases reading with ⟨maps, stack, begun⟩
  cases begun with
  | nothing =>
      cases stack with
      | nil => exact takeOutside_goesOn refused
      | cons block outer => exact takeInside_goesOn refused
  | value key =>
      rcases token with ⟨word | _ | _ | _ | _, place⟩
      case word => exact applySetting_goesOn refused
      all_goals
        cases refused
        rfl
  | _ => rcases token with ⟨_ | _ | _ | _ | _, place⟩ <;> cases refused <;> rfl

theorem takeAll_goesOn {tokens : List Token}
    (refused : reading.takeAll tokens = .error offence) : offence.cause.namesEnd = false := by
  induction tokens generalizing reading with
  | nil => cases refused
  | cons token rest inductionHypothesis =>
      unfold Reading.takeAll at refused
      cases first : reading.take token with
      | error cause =>
          rw [first] at refused
          cases refused
          exact take_goesOn first
      | ok middle =>
          rw [first] at refused
          exact inductionHypothesis refused

end

/-- A fault that names the end of the text stands where reading tokens has stopped. -/
theorem ofText_end {source : String} {list : TokenList} (read : tokenize source = .ok list)
    {offence : DescriptionFault} (refused : Document.ofText source = .error offence)
    (names : offence.cause.namesEnd = true) : offence.place = list.stop := by
  unfold Document.ofText Document.ofTokens at refused
  rw [read] at refused
  simp only at refused
  cases taken : Reading.takeAll {} list.tokens with
  | error cause =>
      rw [taken] at refused
      cases refused
      rw [takeAll_goesOn taken] at names
      cases names
  | ok reading =>
      rw [taken] at refused
      exact Reading.finish_place refused

/--
The place taken for the end of a text is that behind its last token and the gap that follows.
This is the place behind the whole text, unless the text ends in a comment whose line does not end:
then it is the place where this comment starts.  Faults that name the end of the text stand there.
-/
theorem tokenize_stop {source : String} {list : TokenList} (read : tokenize source = .ok list) :
    (Exists fun front => Exists fun gap => Exists fun comment =>
      front ++ gap ++ comment = source.toList ∧ Splits source.toList list.tokens front ∧
        IsGap gap ∧ (comment = [] ∨ IsOpenLine comment) ∧
        list.stop = placeBehind (front ++ gap) ∧
        (list.stop = placeBehind source.toList ↔ comment = [])) ∧
    ∀ offence, Document.ofText source = .error offence -> offence.cause.namesEnd = true ->
      offence.place = list.stop := by
  refine ⟨?_, fun offence => ofText_end read⟩
  rcases stop_of_consists read with ⟨front, gap, comment, whole, splits, isGap, ending, stop⟩
  refine ⟨front, gap, comment, whole, splits, isGap, ending, stop, ?_⟩
  rw [stop, ← whole]
  constructor
  · intro same
    rcases ending with empty | isOpen
    · exact empty
    · exact absurd same (placeBehind_openLine isOpen _)
  · rintro rfl
    rw [List.append_nil]

/-- A block that is still open where the text ends, inside a comment. -/
def openBlockAtComment : String :=
  "map \x7b\n  mat = Earth // no brace"

/-- Its tokens, the last of which is the value of the setting. -/
def openBlockTokens : TokenList where
  tokens :=
    [⟨.word "map", ⟨1, 1⟩⟩, ⟨.openBrace, ⟨1, 5⟩⟩, ⟨.word "mat", ⟨2, 3⟩⟩, ⟨.equals, ⟨2, 7⟩⟩,
      ⟨.word "Earth", ⟨2, 9⟩⟩]
  stop := ⟨2, 15⟩

theorem tokenize_openBlock : tokenize openBlockAtComment = .ok openBlockTokens := by
  have found : (tokenize openBlockAtComment).toOption = some openBlockTokens := by
    decide +kernel
  cases read : tokenize openBlockAtComment with
  | ok list =>
      rw [read] at found
      exact congrArg Except.ok (Option.some.inj found)
  | error fault =>
      rw [read] at found
      cases found

/-- The fault of the missing brace stands in front of the comment. -/
theorem tokenize_stop_openBlock :
    tokenize openBlockAtComment = .ok openBlockTokens ∧
      (Exists fun front => Exists fun gap => Exists fun comment =>
        front ++ gap ++ comment = openBlockAtComment.toList ∧
          Splits openBlockAtComment.toList openBlockTokens.tokens front ∧
          IsGap gap ∧ (comment = [] ∨ IsOpenLine comment) ∧
          openBlockTokens.stop = placeBehind (front ++ gap) ∧
          (openBlockTokens.stop = placeBehind openBlockAtComment.toList ↔ comment = [])) ∧
      ∀ offence, Document.ofText openBlockAtComment = .error offence ->
        offence.cause.namesEnd = true -> offence.place = ⟨2, 15⟩ :=
  ⟨tokenize_openBlock, tokenize_stop tokenize_openBlock⟩

/-- The place taken for the end of a text is not always that behind its last character, and the
fault of a missing brace is found there. -/
theorem stop_not_always_behind :
    (¬ ∀ source list, tokenize source = .ok list -> list.stop = placeBehind source.toList) ∧
      ¬ ∀ source offence, Document.ofText source = .error offence ->
        offence.cause.namesEnd = true -> offence.place = placeBehind source.toList := by
  have elsewhere : openBlockTokens.stop ≠ placeBehind openBlockAtComment.toList := by
    decide +kernel
  have refused : Document.ofText openBlockAtComment =
      .error ⟨openBlockTokens.stop, .unclosedBlock⟩ := by
    rw [Document.ofText, tokenize_openBlock]
    rfl
  exact ⟨fun always => elsewhere (always _ _ tokenize_openBlock),
    fun always => elsewhere (always _ _ refused rfl)⟩

end Landscape
end Landform
