import Landform.Proofs.JsonTexts
import Landform.Proofs.Settings

namespace Landform
namespace Json

/-!
# Reading words, texts and numbers

What reading the text of a value comes to does not depend on where the text stands.  `EndsIn` leaves
the place in the text out of what is said: a reading that succeeds has passed the text and nothing
else, and of one that fails nothing more is said.  So a reading can be compared with an
outcome that knows nothing of texts.
-/

/-- A reading has given a value and has this rest ahead of it, or it has failed. -/
def EndsIn {ε α : Type} (result : EStateM.Result ReadFault Cursor α) (rest : List Char) :
    Except ε α -> Prop
  | .ok a => Exists fun spot => result = .ok a ⟨rest, spot⟩
  | .error _ => Exists fun fault => Exists fun after => result = .error fault after

/-- What may stand behind a value: nothing, a blank, a comma or a closing bracket. -/
def Ends (rest : List Char) : Prop :=
  ∀ c, rest.head? = some c -> isBlankHere c = true ∨ c = ',' ∨ c = ']' ∨ c = '\x7d'

section Steps

variable {α β ε : Type} {c : Char} {rest middle : List Char} {spot : Spot} {cursor : Cursor}

@[simp]
theorem bind_reading (reading : Reading α) (next : α -> Reading β) (cursor : Cursor) :
    (reading >>= next) cursor =
      match reading cursor with
      | .ok a after => next a after
      | .error fault after => .error fault after := by
  change EStateM.bind reading next cursor = _
  unfold EStateM.bind
  cases reading cursor <;> rfl

@[simp]
theorem pure_reading (a : α) (cursor : Cursor) : (pure a : Reading α) cursor = .ok a cursor :=
  rfl

@[simp]
theorem map_reading (f : α -> β) (reading : Reading α) (cursor : Cursor) :
    (f <$> reading) cursor =
      match reading cursor with
      | .ok a after => .ok (f a) after
      | .error fault after => .error fault after := by
  change EStateM.map f reading cursor = _
  unfold EStateM.map
  cases reading cursor <;> rfl

@[simp]
theorem peek_reading (cursor : Cursor) : peek cursor = .ok cursor.rest.head? cursor :=
  rfl

@[simp]
theorem next_cons : next ⟨c :: rest, spot⟩ = .ok (some c) ⟨rest, spot.after c⟩ :=
  rfl

@[simp]
theorem advance_cons : advance ⟨c :: rest, spot⟩ = .ok () ⟨rest, spot.after c⟩ :=
  rfl

/-- What is done with a value that is read is what is done with the outcome. -/
theorem EndsIn.bind {reading : Reading α} {next : α -> Reading β} {outcome : Except ε α}
    {more : α -> Except ε β} (first : EndsIn (reading cursor) middle outcome)
    (second : ∀ a spot, EndsIn (next a ⟨middle, spot⟩) rest (more a)) :
    EndsIn ((reading >>= next) cursor) rest (outcome.bind more) := by
  cases outcome with
  | ok a =>
      rcases first with ⟨spot, read⟩
      rw [bind_reading, read]
      exact second a spot
  | error cause =>
      rcases first with ⟨fault, after, failed⟩
      rw [bind_reading, failed]
      exact ⟨fault, after, rfl⟩

theorem EndsIn.map {reading : Reading α} {f : α -> β} {outcome : Except ε α}
    (read : EndsIn (reading cursor) rest outcome) :
    EndsIn ((do return f (← reading)) cursor) rest (outcome.map f) := by
  cases outcome with
  | ok a =>
      rcases read with ⟨spot, read⟩
      exact ⟨spot, by rw [bind_reading, read]; rfl⟩
  | error cause =>
      rcases read with ⟨fault, after, failed⟩
      exact ⟨fault, after, by rw [bind_reading, failed]⟩

theorem EndsIn.located {reading : Reading α} {outcome : Except ε α}
    (read : EndsIn (reading cursor) rest outcome) :
    EndsIn (Json.located reading cursor) rest outcome := by
  cases outcome with
  | ok a =>
      rcases read with ⟨spot, read⟩
      exact ⟨spot, by rw [Json.located, read]⟩
  | error cause =>
      rcases read with ⟨fault, after, failed⟩
      rw [Json.located, failed]
      exact ⟨_, after, rfl⟩

end Steps

/-! ## Blanks -/

theorem pastBlanks_of_blank {blanks : List Char} (blank : AllBlank blanks) (rest : List Char)
    (spot : Spot) : Exists fun after =>
      Cursor.pastBlanks spot (blanks ++ rest) = Cursor.pastBlanks after rest := by
  induction blanks generalizing spot with
  | nil => exact ⟨spot, rfl⟩
  | cons c blanks inductionHypothesis =>
      rcases inductionHypothesis (fun c member => blank c (List.mem_cons_of_mem _ member))
        (spot.after c) with ⟨after, past⟩
      refine ⟨after, ?_⟩
      rw [List.cons_append, Cursor.pastBlanks, if_pos (blank c List.mem_cons_self), past]

theorem peekPastBlanks_of_blank {blanks : List Char} (blank : AllBlank blanks) {c : Char}
    (visible : isBlankHere c = false) (rest : List Char) (spot : Spot) : Exists fun after =>
      peekPastBlanks ⟨blanks ++ c :: rest, spot⟩ = .ok (some c) ⟨c :: rest, after⟩ := by
  rcases pastBlanks_of_blank blank (c :: rest) spot with ⟨after, past⟩
  refine ⟨after, ?_⟩
  simp [peekPastBlanks, past, Cursor.pastBlanks, visible]

theorem peekPastBlanks_end {blanks : List Char} (blank : AllBlank blanks) (spot : Spot) :
    Exists fun after => peekPastBlanks ⟨blanks, spot⟩ = .ok none ⟨[], after⟩ := by
  rcases pastBlanks_of_blank blank [] spot with ⟨after, past⟩
  rw [List.append_nil] at past
  exact ⟨after, by simp [peekPastBlanks, past, Cursor.pastBlanks]⟩

/-! ## Texts -/

theorem passWord_self (word rest : List Char) (spot : Spot) : Exists fun after =>
    passWord word ⟨word ++ rest, spot⟩ = .ok () ⟨rest, after⟩ := by
  induction word generalizing spot with
  | nil => exact ⟨spot, rfl⟩
  | cons c word inductionHypothesis =>
      rcases inductionHypothesis (spot.after c) with ⟨after, passed⟩
      exact ⟨after, by simp [passWord, passed]⟩

theorem readHex4_of_value {a b c d : Char} {unit : Nat} (value : hexValue4? a b c d = some unit)
    (rest : List Char) (spot : Spot) : Exists fun after =>
      readHex4 ⟨a :: b :: c :: d :: rest, spot⟩ = .ok unit ⟨rest, after⟩ := by
  simp [readHex4, value]

theorem opensPair_of_closesPair {unit : Nat} (opens : opensPair unit = true) :
    closesPair unit = false := by
  simp only [opensPair, closesPair, Bool.and_eq_true, decide_eq_true_eq,
    Bool.and_eq_false_iff, decide_eq_false_iff_not] at *
  omega

theorem not_numbered_of_letter {letter c : Char} (meant : letterEscape? letter = some c) :
    letter ≠ 'u' := by
  rintro rfl
  cases meant

/-- An escape is read to the character that it stands for. -/
theorem readEscape_of_isEscape {c : Char} {escape : List Char} (isEscape : IsEscape c escape)
    (rest : List Char) (spot : Spot) : Exists fun after =>
      readEscape ⟨escape ++ rest, spot⟩ = .ok c ⟨rest, after⟩ := by
  cases isEscape with
  | @letter letter _ meant =>
      -- The matching on the letter is decided by this fact, too.
      have other := not_numbered_of_letter meant
      exact ⟨spot.after letter, by simp [readEscape, map_reading, advance_cons, meant]⟩
  | numbered value lone complete =>
      rcases readHex4_of_value value rest (spot.after 'u') with ⟨after, read⟩
      exact ⟨after, by
        simp [readEscape, readNumberedEscape, advance_cons, read, lone, complete]⟩
  | @paired _ _ _ _ a b c d _ _ value opens value' closes =>
      rcases readHex4_of_value value ('\\' :: 'u' :: a :: b :: c :: d :: rest) (spot.after 'u') with
        ⟨middle, read⟩
      rcases readHex4_of_value value' rest ((middle.after '\\').after 'u') with ⟨after, read'⟩
      refine ⟨after, ?_⟩
      simp [readEscape, readNumberedEscape, passInPair, advance_cons, read, read', opens, closes,
        opensPair_of_closesPair opens, pairedChar]

/-- A text is read up to its closing quote. -/
theorem readTextFrom_body {meant body : List Char} (isBody : IsBody meant body) (rest : List Char)
    {fuel : Nat} (enough : body.length ≤ fuel) (before : List Char) (spot : Spot) :
    Exists fun after => readTextFrom fuel before ⟨body ++ rest, spot⟩ =
      .ok (String.ofList (before.reverse ++ meant)) ⟨rest, after⟩ := by
  induction isBody generalizing fuel before spot with
  | close =>
      cases fuel with
      | zero => cases enough
      | succ fuel => exact ⟨spot.after '"', by simp [readTextFrom]⟩
  | @plain c meant body noQuote noBackslash shown isBody inductionHypothesis =>
      cases fuel with
      | zero => cases enough
      | succ fuel =>
          rcases inductionHypothesis (Nat.le_of_succ_le_succ enough) (c :: before) (spot.after c)
            with ⟨after, read⟩
          rw [List.reverse_cons, List.append_assoc] at read
          refine ⟨after, ?_⟩
          simp only [readTextFrom, bind_reading, List.cons_append, next_cons]
          rw [if_neg shown]
          exact read
  | @escaped c escape meant body isEscape isBody inductionHypothesis =>
      cases fuel with
      | zero => cases enough
      | succ fuel =>
          have enough : body.length ≤ fuel := by
            simp only [List.length_cons, List.length_append] at enough
            omega
          rcases readEscape_of_isEscape isEscape (body ++ rest) (spot.after '\\') with
            ⟨behind, escaped⟩
          rcases inductionHypothesis enough (c :: before) behind with ⟨after, read⟩
          rw [List.reverse_cons, List.append_assoc] at read
          refine ⟨after, ?_⟩
          simp only [readTextFrom, bind_reading, List.cons_append, List.append_assoc, next_cons,
            escaped]
          exact read

theorem readTextBody_body {s : String} {body : List Char} (isBody : IsBody s.toList body)
    (rest : List Char) (spot : Spot) : Exists fun after =>
      readTextBody ⟨body ++ rest, spot⟩ = .ok s ⟨rest, after⟩ := by
  have enough : body.length ≤ (body ++ rest).length + 1 := by
    rw [List.length_append]
    omega
  rcases readTextFrom_body isBody rest enough [] spot with ⟨after, read⟩
  refine ⟨after, ?_⟩
  rw [List.reverse_nil, List.nil_append, String.ofList_toList] at read
  exact read

/-- An escape that is passed over counts as one step, or as two if it is a pair. -/
theorem passTextFrom_escape {c : Char} {escape : List Char} (isEscape : IsEscape c escape)
    (rest : List Char) {fuel : Nat} (enough : escape.length ≤ fuel) (spot : Spot) :
    Exists fun less => Exists fun after =>
      fuel ≤ less + escape.length ∧
        passTextFrom (fuel + 1) ⟨'\\' :: (escape ++ rest), spot⟩ =
          passTextFrom less ⟨rest, after⟩ := by
  cases isEscape with
  | @letter letter _ meant =>
      have other := not_numbered_of_letter meant
      refine ⟨fuel, (spot.after '\\').after letter, Nat.le_add_right _ _, ?_⟩
      simp [passTextFrom, advance_cons, meant]
  | @numbered a b c d _ value =>
      rcases readHex4_of_value value rest ((spot.after '\\').after 'u') with ⟨after, read⟩
      exact ⟨fuel, after, Nat.le_add_right _ _, by simp [passTextFrom, advance_cons, read]⟩
  | @paired _ _ _ _ a b c d _ _ value opens value' closes =>
      rcases readHex4_of_value value ('\\' :: 'u' :: a :: b :: c :: d :: rest)
        ((spot.after '\\').after 'u') with ⟨middle, read⟩
      rcases readHex4_of_value value' rest ((middle.after '\\').after 'u') with ⟨after, read'⟩
      cases fuel with
      | zero => cases enough
      | succ fuel =>
          refine ⟨fuel, after, ?_, by simp [passTextFrom, advance_cons, read, read']⟩
          simp only [List.length_cons, List.length_nil]
          omega

theorem passTextFrom_body {meant body : List Char} (isBody : IsBody meant body) (rest : List Char)
    {fuel : Nat} (enough : body.length ≤ fuel) (spot : Spot) :
    Exists fun after => passTextFrom fuel ⟨body ++ rest, spot⟩ = .ok () ⟨rest, after⟩ := by
  induction isBody generalizing fuel spot with
  | close =>
      cases fuel with
      | zero => cases enough
      | succ fuel => exact ⟨spot.after '"', by simp [passTextFrom, advance_cons]⟩
  | @plain c meant body noQuote noBackslash shown isBody inductionHypothesis =>
      cases fuel with
      | zero => cases enough
      | succ fuel =>
          rcases inductionHypothesis (Nat.le_of_succ_le_succ enough) (spot.after c)
            with ⟨after, passed⟩
          refine ⟨after, ?_⟩
          simp only [passTextFrom, bind_reading, List.cons_append, peek_reading, List.head?_cons]
          rw [if_neg shown]
          exact passed
  | @escaped c escape meant body isEscape isBody inductionHypothesis =>
      cases fuel with
      | zero => cases enough
      | succ fuel =>
          simp only [List.length_cons, List.length_append] at enough
          have escapable : escape.length ≤ fuel := by omega
          rw [List.cons_append, List.append_assoc]
          rcases passTextFrom_escape isEscape (body ++ rest) escapable spot with
            ⟨less, behind, left, step⟩
          have enough : body.length ≤ less := by omega
          rcases inductionHypothesis enough behind with ⟨after, passed⟩
          exact ⟨after, step.trans passed⟩

theorem passTextBody_body {meant body : List Char} (isBody : IsBody meant body)
    (rest : List Char) (spot : Spot) : Exists fun after =>
      passTextBody ⟨body ++ rest, spot⟩ = .ok () ⟨rest, after⟩ := by
  have enough : body.length ≤ (body ++ rest).length + 1 := by
    rw [List.length_append]
    omega
  exact passTextFrom_body isBody rest enough spot

/-! ## Numbers -/

/-- A digit of a number cannot follow. -/
def EndsDigits (rest : List Char) : Prop :=
  ∀ c, rest.head? = some c -> isDigitHere c = false

theorem takeDigits_append {digits rest : List Char} (all : ∀ c ∈ digits, isDigitHere c = true)
    (ends : EndsDigits rest) (spot : Spot) : Exists fun after =>
      takeDigits ⟨digits ++ rest, spot⟩ = .ok digits ⟨rest, after⟩ := by
  have none : rest.takeWhile isDigitHere = [] ∧ rest.dropWhile isDigitHere = rest := by
    cases rest with
    | nil => exact ⟨rfl, rfl⟩
    | cons c rest =>
        have noDigit : isDigitHere c = false := ends c rfl
        exact ⟨List.takeWhile_cons_of_neg (by simp [noDigit]),
          List.dropWhile_cons_of_neg (by simp [noDigit])⟩
  have taken : (digits ++ rest).takeWhile isDigitHere = digits := by
    rw [List.takeWhile_append_of_pos all, none.1, List.append_nil]
  have left : (digits ++ rest).dropWhile isDigitHere = rest := by
    rw [List.dropWhile_append_of_pos all, none.2]
  simp only [takeDigits, taken, left]
  exact ⟨_, rfl⟩

theorem digitValue_lt {c : Char} (digit : isDigitHere c = true) : digitValue c < 10 := by
  simp only [isDigitHere, Bool.and_eq_true, decide_eq_true_eq] at digit
  have bound : c.toNat ≤ 57 := digit.2
  have zero : '0'.toNat = 48 := rfl
  unfold digitValue
  omega

/-- All digits count as long as the number has 64 bits; otherwise some do not. -/
theorem extendDigits_eq (digits : List Char) (n : Nat) :
    if (Nat.ofDigitChars 10 digits n : Int) ≤ Number.nat64.high then
      extendDigits n digits = (Nat.ofDigitChars 10 digits n, 0)
    else (n : Int) ≤ Number.nat64.high -> (extendDigits n digits).2 ≠ 0 := by
  induction digits generalizing n with
  | nil =>
      split
      · rfl
      · rename_i large
        exact fun small => absurd small large
  | cons c rest inductionHypothesis =>
      have grown : Nat.ofDigitChars 10 (c :: rest) n =
          Nat.ofDigitChars 10 rest (n * 10 + digitValue c) := by
        rw [Nat.mul_comm]
        rfl
      rw [grown, extendDigits]
      split
      · rename_i small
        have next := Landscape.le_ofDigitChars rest (n * 10 + digitValue c)
        have fits : ((n * 10 + digitValue c : Nat) : Int) ≤ Number.nat64.high := by omega
        rw [if_pos fits]
        have later := inductionHypothesis (n * 10 + digitValue c)
        rwa [if_pos small] at later
      · rename_i large
        intro _
        split
        · rename_i fits
          have later := inductionHypothesis (n * 10 + digitValue c)
          rw [if_neg large] at later
          exact later fits
        · exact Nat.succ_ne_zero _

/-- What is read behind the digits of a number. -/
def behindDigits (negative : Bool) (digits : Nat × Nat) : Reading Json := do
  match ← peek with
  | some '.' => return .float (← readFraction negative digits.1 digits.2)
  | some 'e' | some 'E' => return .float (← readExponent negative digits.1 digits.2)
  | _ =>
      if digits.2 = 0 then return wholeNumber negative digits.1
      else return .float (← scaledFloat negative digits.1 digits.2)

theorem readNumber_digits (negative : Bool) {digits rest : List Char} (natural : IsNatural digits)
    (ends : EndsDigits rest) (spot : Spot) : Exists fun after =>
      readNumber negative ⟨digits ++ rest, spot⟩ =
        behindDigits negative (extendDigits 0 digits) ⟨rest, after⟩ := by
  rcases natural with ⟨nonempty, all, short⟩
  cases digits with
  | nil => exact absurd rfl nonempty
  | cons c more =>
      have digit : isDigitHere c = true := all c List.mem_cons_self
      have started : extendDigits 0 (c :: more) = extendDigits (digitValue c) more := by
        have small := digitValue_lt digit
        have fits : ((digitValue c : Nat) : Int) ≤ Number.nat64.high := by
          simp only [Number.nat64]
          omega
        rw [extendDigits, Nat.zero_mul, Nat.zero_add, if_pos fits]
      rw [started]
      by_cases zero : c = '0'
      · subst zero
        have none : more = [] := by simpa using short rfl
        subst none
        have noDigit : (rest.head?.map isDigitHere).getD false = false := by
          cases ahead : rest.head? with
          | none => rfl
          | some c => exact ends c ahead
        refine ⟨spot.after '0', ?_⟩
        simp [readNumber, digit, noDigit]
        rfl
      · rcases takeDigits_append (fun c member => all c (List.mem_cons_of_mem _ member)) ends
          (spot.after c) with ⟨after, taken⟩
        refine ⟨after, ?_⟩
        simp [readNumber, digit, zero, taken]
        rfl

/-- Whatever number is given, it is a floating-point number. -/
def GivesFloat (reading : Reading Json) : Prop :=
  ∀ cursor value after, reading cursor = .ok value after -> Exists fun x => value = .float x

theorem givesFloat_float (reading : Reading Float) :
    GivesFloat (do return .float (← reading)) := by
  intro cursor value after given
  rw [bind_reading] at given
  cases read : reading cursor with
  | ok x middle =>
      rw [read] at given
      cases given
      exact ⟨x, rfl⟩
  | error fault middle =>
      rw [read] at given
      cases given

/-- No part of a number may stand behind it. -/
theorem Ends.not_number {rest : List Char} (ends : Ends rest) {c : Char}
    (ahead : rest.head? = some c) :
    isDigitHere c = false ∧ c ≠ '.' ∧ c ≠ 'e' ∧ c ≠ 'E' := by
  rcases ends c ahead with blank | rfl | rfl | rfl
  · simp only [isBlankHere, Bool.or_eq_true, beq_iff_eq] at blank
    rcases blank with ((rfl | rfl) | rfl) | rfl <;> decide
  · decide
  · decide
  · decide

theorem Ends.endsDigits {rest : List Char} (ends : Ends rest) : EndsDigits rest :=
  fun _ ahead => (ends.not_number ahead).1

theorem behindDigits_ends (negative : Bool) (digits : Nat × Nat) {rest : List Char}
    (ends : Ends rest) (spot : Spot) :
    behindDigits negative digits ⟨rest, spot⟩ =
      (if digits.2 = 0 then return wholeNumber negative digits.1
        else return .float (← scaledFloat negative digits.1 digits.2) : Reading Json)
        ⟨rest, spot⟩ := by
  cases rest with
  | nil => rfl
  | cons c rest =>
      rcases ends.not_number rfl with ⟨_, noPoint, noMark, noMark'⟩
      simp [behindDigits, noPoint, noMark, noMark']

/-- A whole number is read exactly if it fits into 64 bits, and not as a whole number otherwise. -/
theorem behindDigits_whole {negative : Bool} {digits rest : List Char}
    (unsigned : negative = true -> Nat.ofDigitChars 10 digits 0 ≠ 0) (ends : Ends rest)
    (spot : Spot) :
    behindDigits negative (extendDigits 0 digits) ⟨rest, spot⟩ =
        .ok (.whole (signed negative (Nat.ofDigitChars 10 digits 0))) ⟨rest, spot⟩ ∨
      ¬ (Number.int64.low ≤ signed negative (Nat.ofDigitChars 10 digits 0) ∧
        signed negative (Nat.ofDigitChars 10 digits 0) ≤ Number.nat64.high) ∧
        ∀ value after, behindDigits negative (extendDigits 0 digits) ⟨rest, spot⟩ =
          .ok value after -> Exists fun x => value = .float x := by
  rw [behindDigits_ends negative _ ends spot]
  generalize value : Nat.ofDigitChars 10 digits 0 = n at *
  have extended := extendDigits_eq digits 0
  rw [value] at extended
  split at extended
  · rename_i fits
    rw [extended]
    simp only [if_true, pure_reading]
    cases negative with
    | false => exact Or.inl rfl
    | true =>
        have nonzero := unsigned rfl
        by_cases low : -(n : Int) < Number.int64.low
        · refine Or.inr ⟨fun inside => ?_, fun value after given => ?_⟩
          · exact absurd inside.1 (Int.not_le.mpr low)
          · simp only [wholeNumber, if_true, low, decide_true, Bool.or_true] at given
            cases given
            exact ⟨_, rfl⟩
        · left
          simp [wholeNumber, low, nonzero, signed]
  · rename_i large
    have unused := extended (by decide)
    rw [if_neg unused]
    refine Or.inr ⟨fun inside => ?_, givesFloat_float _ _⟩
    simp only [signed, Number.int64, Number.nat64] at inside large
    split at inside <;> omega

/-- A number with fraction or exponent is not read as a whole number. -/
theorem behindDigits_scaled (negative : Bool) (digits : Nat × Nat) {scale : List Char}
    (isScale : IsScale scale) (rest : List Char) (spot : Spot) (value : Json) (after : Cursor)
    (given : behindDigits negative digits ⟨scale ++ rest, spot⟩ = .ok value after) :
    Exists fun x => value = .float x := by
  have mark : Exists fun c => Exists fun more =>
      scale = c :: more ∧ (c = '.' ∨ c = 'e' ∨ c = 'E') := by
    rcases isScale with ⟨⟨⟩⟩ | ⟨⟨mark⟩⟩ | ⟨⟨⟩, _⟩
    · exact ⟨_, _, rfl, Or.inl rfl⟩
    · exact ⟨_, _, rfl, Or.inr mark⟩
    · exact ⟨_, _, rfl, Or.inl rfl⟩
  rcases mark with ⟨c, more, rfl, rfl | rfl | rfl⟩
  · exact givesFloat_float _ _ _ _ given
  · exact givesFloat_float _ _ _ _ given
  · exact givesFloat_float _ _ _ _ given

/-- Whole numbers that are read exactly. -/
def IsWide (n : Int) : Prop :=
  Number.int64.low ≤ n ∧ n ≤ Number.nat64.high

theorem isNatural_zero : IsNatural ['0'] where
  nonempty := List.cons_ne_nil _ _
  all := List.forall_mem_singleton.mpr rfl
  short := fun _ => rfl

theorem IsNatural.head {digits : List Char} (natural : IsNatural digits) :
    Exists fun c => Exists fun more => digits = c :: more ∧ isDigitHere c = true := by
  cases digits with
  | nil => exact absurd rfl natural.nonempty
  | cons c more => exact ⟨c, more, rfl, natural.all c List.mem_cons_self⟩

theorem IsScale.endsDigits {scale : List Char} (isScale : IsScale scale) (rest : List Char) :
    EndsDigits (scale ++ rest) := by
  rcases isScale with ⟨⟨⟩⟩ | ⟨⟨mark⟩⟩ | ⟨⟨⟩, _⟩ <;> rintro c ⟨⟩
  · decide
  · rcases mark with rfl | rfl <;> decide
  · decide

/--
A number is read behind its sign.  What is read is the number, unless this is a floating-point
number or too large; then it is no whole number.
-/
theorem readNumber_of_isNumber {value : Json} {text : List Char} (isNumber : IsNumber value text) :
    Exists fun negative => Exists fun c => Exists fun more =>
      text = signChars negative ++ c :: more ∧ isDigitHere c = true ∧
      ∀ rest spot, Ends rest ->
        (Exists fun after => (Exists fun n => value = .whole n) ∧
          readNumber negative ⟨c :: more ++ rest, spot⟩ = .ok value ⟨rest, after⟩) ∨
        (∀ n, value = .whole n -> ¬ IsWide n) ∧
          ∀ result after, readNumber negative ⟨c :: more ++ rest, spot⟩ = .ok result after ->
            Exists fun x => result = .float x := by
  cases isNumber with
  | @whole negative digits natural unsigned =>
      rcases natural.head with ⟨c, more, rfl, digit⟩
      refine ⟨negative, c, more, rfl, digit, fun rest spot ends => ?_⟩
      rcases readNumber_digits negative natural ends.endsDigits spot with ⟨after, read⟩
      rw [read]
      rcases behindDigits_whole unsigned ends after with exact | ⟨large, gives⟩
      · exact Or.inl ⟨after, ⟨_, rfl⟩, exact⟩
      · refine Or.inr ⟨?_, gives⟩
        rintro n ⟨⟩
        exact large
  | negativeZero =>
      refine ⟨true, '0', [], rfl, by decide, fun rest spot ends => Or.inr ⟨nofun, ?_⟩⟩
      rcases readNumber_digits true isNatural_zero ends.endsDigits spot with ⟨after, read⟩
      intro result last given
      rw [read, behindDigits_ends true _ ends] at given
      cases given
      exact ⟨_, rfl⟩
  | @scaled _ negative digits scale natural isScale =>
      rcases natural.head with ⟨c, more, rfl, digit⟩
      refine ⟨negative, c, more ++ scale, rfl, digit, fun rest spot ends => Or.inr ⟨nofun, ?_⟩⟩
      rcases readNumber_digits negative natural (isScale.endsDigits rest) spot with ⟨after, read⟩
      intro result last given
      rw [List.cons_append, List.append_assoc, ← List.cons_append, read] at given
      exact behindDigits_scaled negative _ isScale rest after result last given

theorem passExponent_of_isExponent {exponent : List Char} (isExponent : IsExponent exponent)
    {rest : List Char} (ends : EndsDigits rest) (spot : Spot) : Exists fun after =>
      passNumber.passExponent ⟨exponent ++ rest, spot⟩ = .ok () ⟨rest, after⟩ := by
  rcases isExponent with @⟨mark, sign, digits, _, hasSign, nonempty, all⟩
  cases digits with
  | nil => exact absurd rfl nonempty
  | cons c more =>
      have digit : isDigitHere c = true := all c List.mem_cons_self
      have behind : ∀ spot, Exists fun after =>
          takeDigits ⟨more ++ rest, spot⟩ = .ok more ⟨rest, after⟩ :=
        takeDigits_append (fun c member => all c (List.mem_cons_of_mem _ member)) ends
      rcases hasSign with rfl | rfl | rfl
      · have noPlus : c ≠ '+' := by rintro rfl; cases digit
        have noMinus : c ≠ '-' := by rintro rfl; cases digit
        rcases behind ((spot.after mark).after c) with ⟨after, taken⟩
        exact ⟨after, by
          simp [passNumber.passExponent, map_reading, advance_cons, noPlus, noMinus, digit, taken]⟩
      · rcases behind (((spot.after mark).after '+').after c) with ⟨after, taken⟩
        exact ⟨after, by simp [passNumber.passExponent, map_reading, advance_cons, digit, taken]⟩
      · rcases behind (((spot.after mark).after '-').after c) with ⟨after, taken⟩
        exact ⟨after, by simp [passNumber.passExponent, map_reading, advance_cons, digit, taken]⟩

/-- An exponent, or none, as it is passed over. -/
def passPower : Reading Unit := do
  match ← peek with
  | some 'e' | some 'E' => passNumber.passExponent
  | _ => return ()

/-- Fraction and exponent, or none of them, as they are passed over behind the digits. -/
def passScale : Reading Unit := do
  match ← peek with
  | some '.' => do
      advance
      let fraction ← takeDigits
      if fraction.isEmpty then failAhead .invalidNumber else passPower
  | some 'e' | some 'E' => passNumber.passExponent
  | _ => return ()

theorem passNumber_digits {digits rest : List Char} (natural : IsNatural digits)
    (ends : EndsDigits rest) (spot : Spot) : Exists fun after =>
      passNumber ⟨digits ++ rest, spot⟩ = passScale ⟨rest, after⟩ := by
  rcases natural with ⟨nonempty, all, short⟩
  cases digits with
  | nil => exact absurd rfl nonempty
  | cons c more =>
      have digit : isDigitHere c = true := all c List.mem_cons_self
      by_cases zero : c = '0'
      · subst zero
        have none : more = [] := by simpa using short rfl
        subst none
        have noDigit : (rest.head?.map isDigitHere).getD false = false := by
          cases ahead : rest.head? with
          | none => rfl
          | some c => exact ends c ahead
        refine ⟨spot.after '0', ?_⟩
        simp [passNumber, digit, noDigit, -List.isEmpty_iff]
        rfl
      · rcases takeDigits_append (fun c member => all c (List.mem_cons_of_mem _ member)) ends
          (spot.after c) with ⟨after, taken⟩
        refine ⟨after, ?_⟩
        simp [passNumber, digit, zero, taken, -List.isEmpty_iff]
        rfl

theorem passPower_ends {rest : List Char} (ends : Ends rest) (spot : Spot) :
    passPower ⟨rest, spot⟩ = .ok () ⟨rest, spot⟩ := by
  cases rest with
  | nil => rfl
  | cons c rest =>
      rcases ends.not_number rfl with ⟨_, _, noMark, noMark'⟩
      simp [passPower, noMark, noMark']

theorem passPower_of_isExponent {exponent : List Char} (isExponent : IsExponent exponent)
    {rest : List Char} (ends : EndsDigits rest) (spot : Spot) : Exists fun after =>
      passPower ⟨exponent ++ rest, spot⟩ = .ok () ⟨rest, after⟩ := by
  rcases passExponent_of_isExponent isExponent ends spot with ⟨after, passed⟩
  refine ⟨after, ?_⟩
  rcases isExponent with @⟨mark, sign, digits, rfl | rfl, _, _, _⟩ <;> exact passed

theorem passScale_ends {rest : List Char} (ends : Ends rest) (spot : Spot) :
    passScale ⟨rest, spot⟩ = .ok () ⟨rest, spot⟩ := by
  cases rest with
  | nil => rfl
  | cons c rest =>
      rcases ends.not_number rfl with ⟨_, noPoint, noMark, noMark'⟩
      simp [passScale, noPoint, noMark, noMark']

theorem passScale_fraction {fraction : List Char} (isFraction : IsFraction fraction)
    {rest : List Char} (ends : EndsDigits rest) (spot : Spot) : Exists fun after =>
      passScale ⟨fraction ++ rest, spot⟩ = passPower ⟨rest, after⟩ := by
  rcases isFraction with @⟨digits, nonempty, all⟩
  rcases takeDigits_append all ends (spot.after '.') with ⟨after, taken⟩
  exact ⟨after, by simp [passScale, advance_cons, taken, nonempty]⟩

theorem IsExponent.endsDigits {exponent : List Char} (isExponent : IsExponent exponent)
    (rest : List Char) : EndsDigits (exponent ++ rest) := by
  rcases isExponent with @⟨mark, _, _, rfl | rfl, _, _, _⟩ <;> rintro c ⟨⟩ <;> decide

theorem passScale_of_isScale {scale : List Char} (isScale : IsScale scale)
    {rest : List Char} (ends : Ends rest) (spot : Spot) : Exists fun after =>
      passScale ⟨scale ++ rest, spot⟩ = .ok () ⟨rest, after⟩ := by
  cases isScale with
  | fraction isFraction =>
      rcases passScale_fraction isFraction ends.endsDigits spot with ⟨after, passed⟩
      exact ⟨after, passed.trans (passPower_ends ends after)⟩
  | exponent isExponent =>
      rcases passExponent_of_isExponent isExponent ends.endsDigits spot with ⟨after, passed⟩
      refine ⟨after, ?_⟩
      rcases isExponent with @⟨mark, sign, digits, rfl | rfl, _, _, _⟩ <;> exact passed
  | @both fraction exponent isFraction isExponent =>
      rw [List.append_assoc]
      rcases passScale_fraction isFraction (isExponent.endsDigits rest) spot with ⟨middle, passed⟩
      rcases passPower_of_isExponent isExponent ends.endsDigits middle with ⟨after, passed'⟩
      exact ⟨after, passed.trans passed'⟩

/-- A number is passed over behind its sign. -/
theorem passNumber_of_isNumber {value : Json} {text : List Char} (isNumber : IsNumber value text) :
    Exists fun negative => Exists fun c => Exists fun more =>
      text = signChars negative ++ c :: more ∧ isDigitHere c = true ∧
      ∀ rest spot, Ends rest -> Exists fun after =>
        passNumber ⟨c :: more ++ rest, spot⟩ = .ok () ⟨rest, after⟩ := by
  cases isNumber with
  | @whole negative digits natural unsigned =>
      rcases natural.head with ⟨c, more, rfl, digit⟩
      refine ⟨negative, c, more, rfl, digit, fun rest spot ends => ?_⟩
      rcases passNumber_digits natural ends.endsDigits spot with ⟨after, passed⟩
      exact ⟨after, passed.trans (passScale_ends ends after)⟩
  | negativeZero =>
      refine ⟨true, '0', [], rfl, by decide, fun rest spot ends => ?_⟩
      rcases passNumber_digits isNatural_zero ends.endsDigits spot with ⟨after, passed⟩
      exact ⟨after, passed.trans (passScale_ends ends after)⟩
  | @scaled _ negative digits scale natural isScale =>
      rcases natural.head with ⟨c, more, rfl, digit⟩
      refine ⟨negative, c, more ++ scale, rfl, digit, fun rest spot ends => ?_⟩
      rcases passNumber_digits natural (isScale.endsDigits rest) spot with ⟨middle, passed⟩
      rcases passScale_of_isScale isScale ends middle with ⟨after, passed'⟩
      rw [← List.cons_append, List.append_assoc]
      exact ⟨after, passed.trans passed'⟩

end Json
end Landform
