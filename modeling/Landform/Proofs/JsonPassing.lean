import Landform.Proofs.JsonScalars

namespace Landform
namespace Json

/-!
# Passing over values

Members that no field asks for are passed over.  This is not done by a recursion over the value:
what surrounds the place that is reached is kept on a stack, and every step costs fuel.  Four
steps for each character are always enough, which is what `passValue_of_isText` says in a form
that can be carried through the stack.
-/

/-! ## Starts and ends of values -/

theorem ne_of_digit {c d : Char} (digit : isDigitHere c = true) (other : isDigitHere d = false) :
    c ≠ d := by
  rintro rfl
  rw [digit] at other
  cases other

theorem visible_of_digit {c : Char} (digit : isDigitHere c = true) : isBlankHere c = false := by
  cases blank : isBlankHere c with
  | false => rfl
  | true =>
      simp only [isBlankHere, Bool.or_eq_true, beq_iff_eq] at blank
      rcases blank with ((rfl | rfl) | rfl) | rfl <;> cases digit

/-- The characters with which the texts of a value may start. -/
def Starts : Json -> Char -> Prop
  | .null, c => c = 'n'
  | .truth true, c => c = 't'
  | .truth false, c => c = 'f'
  | .whole _, c | .float _, c => c = '-' ∨ isDigitHere c = true
  | .text _, c => c = '"'
  | .list _, c => c = '['
  | .object _, c => c = '\x7b'

theorem IsNumber.starts {value : Json} {text : List Char} (isNumber : IsNumber value text)
    {c : Char} (first : c = '-' ∨ isDigitHere c = true) : Starts value c := by
  cases isNumber <;> exact first

theorem IsText.starts {value : Json} {text : List Char} (isText : IsText value text) :
    Exists fun c => Exists fun more => text = c :: more ∧ Starts value c := by
  cases isText with
  | number isNumber =>
      rcases passNumber_of_isNumber isNumber with ⟨negative, c, more, rfl, digit, _⟩
      cases negative with
      | true => exact ⟨'-', c :: more, rfl, isNumber.starts (Or.inl rfl)⟩
      | false => exact ⟨c, more, rfl, isNumber.starts (Or.inr digit)⟩
  | _ => exact ⟨_, _, rfl, rfl⟩

/-- What starts a value is neither a blank nor something that follows values. -/
theorem Starts.visible {value : Json} {c : Char} (starts : Starts value c) :
    isBlankHere c = false ∧ c ≠ ']' ∧ c ≠ '\x7d' ∧ c ≠ ',' := by
  cases value with
  | truth answer =>
      cases answer <;> cases starts <;> decide
  | whole n | float x =>
      rcases starts with rfl | digit
      · decide
      · exact ⟨visible_of_digit digit, ne_of_digit digit rfl, ne_of_digit digit rfl,
          ne_of_digit digit rfl⟩
  | _ =>
      cases starts
      decide

theorem comma_visible : isBlankHere ',' = false :=
  rfl

theorem ends_of_blank {blanks rest : List Char} (blank : AllBlank blanks) {c : Char}
    (end' : c = ',' ∨ c = ']' ∨ c = '\x7d') : Ends (blanks ++ c :: rest) := by
  cases blanks with
  | nil =>
      rintro d ⟨⟩
      exact Or.inr end'
  | cons first blanks =>
      rintro d ⟨⟩
      exact Or.inl (blank _ List.mem_cons_self)

namespace Surrounding

/-- The bracket that ends a list or an object. -/
def close : Surrounding -> Char
  | .list => ']'
  | .object => '\x7d'

theorem close_visible (inner : Surrounding) : isBlankHere inner.close = false := by
  cases inner <;> rfl

theorem close_ends (inner : Surrounding) :
    inner.close = ',' ∨ inner.close = ']' ∨ inner.close = '\x7d' := by
  cases inner
  · exact Or.inr (Or.inl rfl)
  · exact Or.inr (Or.inr rfl)

end Surrounding

theorem IsFollowing.ends {inner : Surrounding} {texts : List (List Char)} {body : List Char}
    (following : IsFollowing inner.close texts body) (rest : List Char) : Ends (body ++ rest) := by
  cases following with
  | close blank =>
      rw [List.append_assoc]
      exact ends_of_blank blank inner.close_ends
  | next blank between following =>
      rw [List.append_assoc]
      exact ends_of_blank blank (Or.inl rfl)

/-! ## Passing -/

/-- What stands for one value inside of a list or object is passed over. -/
def PassesKey (inner : Surrounding) (text : List Char) : Prop :=
  (Exists fun c => Exists fun more => text = c :: more ∧ isBlankHere c = false ∧ c ≠ inner.close) ∧
  ∀ fuel around blanks rest spot, 4 * text.length + 1 ≤ fuel -> AllBlank blanks -> Ends rest ->
    Exists fun less => Exists fun after => fuel ≤ less + (4 * text.length + 1) ∧
      passKey fuel inner around ⟨blanks ++ (text ++ rest), spot⟩ =
        passRest less (inner :: around) ⟨rest, after⟩

section Separators

variable {inner : Surrounding} {texts : List (List Char)} {body rest : List Char} {spot : Spot}
variable {around : List Surrounding} {cursor : Cursor}

theorem passSeparator_close (fuel : Nat) (separated : Bool)
    (peeked : peekPastBlanks cursor = .ok (some inner.close) ⟨inner.close :: rest, spot⟩) :
    passSeparator (fuel + 1) separated inner around cursor =
      passRest fuel around ⟨rest, spot.after inner.close⟩ := by
  cases inner <;> simp_all [passSeparator, Surrounding.close]

theorem passSeparator_first (fuel : Nat) {c : Char} (open' : c ≠ inner.close)
    (peeked : peekPastBlanks cursor = .ok (some c) ⟨c :: rest, spot⟩) :
    passSeparator (fuel + 1) false inner around cursor =
      passKey fuel inner around ⟨c :: rest, spot⟩ := by
  cases inner <;> simp_all [passSeparator, Surrounding.close]

theorem passSeparator_comma (fuel : Nat)
    (peeked : peekPastBlanks cursor = .ok (some ',') ⟨',' :: rest, spot⟩) :
    passSeparator (fuel + 1) true inner around cursor =
      passKey fuel inner around ⟨rest, spot.after ','⟩ := by
  cases inner <;> simp [passSeparator, peeked]

theorem passSeparator_following (following : IsFollowing inner.close texts body)
    (passes : ∀ text ∈ texts, PassesKey inner text) {fuel : Nat} (enough : 4 * body.length ≤ fuel)
    (around : List Surrounding) (rest : List Char) (spot : Spot) :
    Exists fun less => Exists fun after => fuel ≤ less + 4 * body.length ∧
      passSeparator fuel true inner around ⟨body ++ rest, spot⟩ =
        passRest less around ⟨rest, after⟩ := by
  induction following generalizing fuel spot with
  | @close blanks blank =>
      simp only [List.length_append, List.length_cons, List.length_nil] at enough ⊢
      cases fuel with
      | zero => omega
      | succ fuel =>
          rcases peekPastBlanks_of_blank blank inner.close_visible rest spot with ⟨after, peeked⟩
          refine ⟨fuel, after.after inner.close, by omega, ?_⟩
          rw [List.append_assoc]
          exact passSeparator_close fuel true peeked
  | @next blanks between text body texts blank blank' following inductionHypothesis =>
      simp only [List.length_append, List.length_cons] at enough ⊢
      obtain ⟨fuel, rfl⟩ : Exists fun less => fuel = less + 1 := ⟨fuel - 1, by omega⟩
      rcases peekPastBlanks_of_blank blank comma_visible (between ++ (text ++ (body ++ rest))) spot
        with ⟨middle, peeked⟩
      rcases (passes text List.mem_cons_self).2 fuel around between (body ++ rest)
        (middle.after ',') (by omega) blank' (following.ends rest) with
        ⟨left, behind, spent, passed⟩
      obtain ⟨left, rfl⟩ : Exists fun less => left = less + 1 := ⟨left - 1, by omega⟩
      rcases inductionHypothesis (fun text member => passes text (List.mem_cons_of_mem _ member))
        (show 4 * body.length ≤ left by omega) behind with ⟨less, after, spent', passed'⟩
      refine ⟨less, after, by omega, ?_⟩
      have same : blanks ++ ',' :: (between ++ (text ++ body)) ++ rest =
          blanks ++ ',' :: (between ++ (text ++ (body ++ rest))) := by
        simp
      rw [same, passSeparator_comma fuel peeked, passed, passRest, passed']

theorem passSeparator_inside (inside : IsInside inner.close texts body)
    (passes : ∀ text ∈ texts, PassesKey inner text) {fuel : Nat}
    (enough : 4 * body.length + 3 ≤ fuel) (around : List Surrounding) (rest : List Char)
    (spot : Spot) :
    Exists fun less => Exists fun after => fuel ≤ less + (4 * body.length + 3) ∧
      passSeparator fuel false inner around ⟨body ++ rest, spot⟩ =
        passRest less around ⟨rest, after⟩ := by
  cases inside with
  | @empty blanks blank =>
      obtain ⟨fuel, rfl⟩ : Exists fun less => fuel = less + 1 := ⟨fuel - 1, by omega⟩
      rcases peekPastBlanks_of_blank blank inner.close_visible rest spot with ⟨after, peeked⟩
      refine ⟨fuel, after.after inner.close, by omega, ?_⟩
      rw [List.append_assoc]
      exact passSeparator_close fuel false peeked
  | @first blanks text body texts blank following =>
      simp only [List.length_append] at enough ⊢
      obtain ⟨fuel, rfl⟩ : Exists fun less => fuel = less + 1 := ⟨fuel - 1, by omega⟩
      rcases passes text List.mem_cons_self with ⟨⟨c, more, rfl, visible, open'⟩, key⟩
      rcases peekPastBlanks_of_blank blank visible (more ++ (body ++ rest)) spot with
        ⟨middle, peeked⟩
      rcases key fuel around [] (body ++ rest) middle (by omega) allBlank_nil (following.ends rest)
        with ⟨left, behind, spent, passed⟩
      obtain ⟨left, rfl⟩ : Exists fun less => left = less + 1 := ⟨left - 1, by omega⟩
      rcases passSeparator_following following
        (fun text member => passes text (List.mem_cons_of_mem _ member))
        (show 4 * body.length ≤ left by omega) around rest behind with
        ⟨less, after, spent', passed'⟩
      refine ⟨less, after, by omega, ?_⟩
      have same : blanks ++ (c :: more ++ body) ++ rest =
          blanks ++ c :: (more ++ (body ++ rest)) := by
        simp
      rw [same, passSeparator_first fuel open' peeked]
      rw [List.nil_append, List.cons_append] at passed
      rw [passed, passRest, passed']

end Separators

/-- A value is passed over, up to what surrounds it. -/
def PassesValue (text : List Char) : Prop :=
  ∀ fuel around blanks rest spot, 4 * text.length ≤ fuel -> AllBlank blanks -> Ends rest ->
    Exists fun less => Exists fun after => fuel ≤ less + 4 * text.length ∧
      passValue fuel around ⟨blanks ++ (text ++ rest), spot⟩ = passRest less around ⟨rest, after⟩

theorem passesKey_list {value : Json} {text : List Char} (isText : IsText value text)
    (passes : PassesValue text) : PassesKey .list text := by
  rcases isText.starts with ⟨c, more, first, starts⟩
  refine ⟨⟨c, more, first, starts.visible.1, starts.visible.2.1⟩, ?_⟩
  intro fuel around blanks rest spot enough blank ends
  obtain ⟨fuel, rfl⟩ : Exists fun less => fuel = less + 1 := ⟨fuel - 1, by omega⟩
  rcases passes fuel (.list :: around) blanks rest spot (by omega) blank ends with
    ⟨less, after, spent, passed⟩
  exact ⟨less, after, by omega, by rw [passKey, passed]⟩

theorem passColon_of_blank {blanks : List Char} (blank : AllBlank blanks) (rest : List Char)
    (spot : Spot) : Exists fun after =>
      passColon ⟨blanks ++ ':' :: rest, spot⟩ = .ok () ⟨rest, after⟩ := by
  have visible : isBlankHere ':' = false := rfl
  rcases peekPastBlanks_of_blank blank visible rest spot with ⟨after, peeked⟩
  exact ⟨after.after ':', by simp [passColon, peeked]⟩

theorem passesKey_object (member : MemberText) (passes : PassesValue member.text) :
    PassesKey .object member.whole := by
  rcases member with ⟨key, value, front, text, body, before, behind, rfl, isBody, blank, blank'⟩
  refine ⟨⟨'"', _, rfl, by decide, by decide⟩, ?_⟩
  intro fuel around blanks rest spot enough blanked ends
  simp only [MemberText.whole, List.length_append, List.length_cons] at enough passes ⊢
  obtain ⟨fuel, rfl⟩ : Exists fun less => fuel = less + 1 := ⟨fuel - 1, by omega⟩
  have visible : isBlankHere '"' = false := rfl
  rcases peekPastBlanks_of_blank blanked visible
    (body ++ (before ++ ':' :: (behind ++ (text ++ rest)))) spot with ⟨first, peeked⟩
  rcases passTextBody_body isBody (before ++ ':' :: (behind ++ (text ++ rest)))
    (first.after '"') with
    ⟨second, named⟩
  rcases passColon_of_blank blank (behind ++ (text ++ rest)) second with ⟨third, separated⟩
  rcases passes fuel (.object :: around) behind rest third (by omega) blank' ends with
    ⟨less, after, spent, passed⟩
  refine ⟨less, after, by omega, ?_⟩
  have same : blanks ++ ('"' :: (body ++ (before ++ ':' :: behind)) ++ text ++ rest) =
      blanks ++ '"' :: (body ++ (before ++ ':' :: (behind ++ (text ++ rest)))) := by
    simp
  rw [same]
  simp [passKey, peeked, named, separated, passed]

/-- One step is left to be counted for a value that is passed over at once. -/
theorem exists_succ {length fuel : Nat} (some : 0 < length) (enough : 4 * length ≤ fuel) :
    Exists fun less => fuel = less + 1 ∧ less + 1 ≤ less + 4 * length :=
  ⟨fuel - 1, by omega, by omega⟩

theorem passesValue_word {first : Char} {word : List Char} {value : Json}
    (starts : [isBlankHere first, isDigitHere first, first == '[', first == '\x7b', first == '"',
      first == '-'].all (· == false) = true)
    (reads : ∀ rest spot, Exists fun after =>
      readScalar? ⟨first :: word ++ rest, spot⟩ = .ok (some value) ⟨rest, after⟩) :
    PassesValue (first :: word) := by
  intro fuel around blanks rest spot enough blank ends
  rcases exists_succ (Nat.succ_pos word.length) enough with ⟨fuel, rfl, spent⟩
  simp only [List.all_cons, List.all_nil, Bool.and_true, Bool.and_eq_true, beq_iff_eq,
    beq_eq_false_iff_ne, ne_eq] at starts
  rcases starts with ⟨visible, digit, noList, noObject, noQuote, noSign⟩
  rcases peekPastBlanks_of_blank blank visible (word ++ rest) spot with ⟨middle, peeked⟩
  rcases reads rest middle with ⟨after, read⟩
  rw [List.cons_append] at read
  exact ⟨fuel, after, spent, by simp [passValue, peeked, digit, read]⟩

theorem passesValue_number {value : Json} {text : List Char} (isNumber : IsNumber value text) :
    PassesValue text := by
  rcases passNumber_of_isNumber isNumber with ⟨negative, c, more, rfl, digit, passes⟩
  intro fuel around blanks rest spot enough blank ends
  have some : 0 < (signChars negative ++ c :: more).length := by
    rw [List.length_append]
    exact Nat.lt_of_lt_of_le (Nat.succ_pos more.length) (Nat.le_add_left _ _)
  rcases exists_succ some enough with ⟨fuel, rfl, spent⟩
  cases negative with
  | true =>
      have visible : isBlankHere '-' = false := rfl
      rcases peekPastBlanks_of_blank blank visible (c :: more ++ rest) spot with ⟨middle, peeked⟩
      rcases passes rest (middle.after '-') ends with ⟨after, passed⟩
      rw [List.cons_append] at peeked passed
      exact ⟨fuel, after, spent, by simp [passValue, signChars, peeked, passed]⟩
  | false =>
      rcases peekPastBlanks_of_blank blank (visible_of_digit digit) (more ++ rest) spot with
        ⟨middle, peeked⟩
      rcases passes rest middle ends with ⟨after, passed⟩
      rw [List.cons_append] at passed
      have noList := ne_of_digit digit (show isDigitHere '[' = false from rfl)
      have noObject := ne_of_digit digit (show isDigitHere '\x7b' = false from rfl)
      have noQuote := ne_of_digit digit (show isDigitHere '"' = false from rfl)
      have noSign := ne_of_digit digit (show isDigitHere '-' = false from rfl)
      exact ⟨fuel, after, spent, by simp [passValue, signChars, peeked, digit, passed]⟩

theorem passValue_of_isText {value : Json} {text : List Char} (isText : IsText value text) :
    PassesValue text := by
  induction isText with
  | null =>
      refine passesValue_word (by decide) fun rest spot => (?_ : Exists fun after =>
        readScalar? _ = .ok (some .null) ⟨rest, after⟩)
      rcases passWord_self ['u', 'l', 'l'] rest (spot.after 'n') with ⟨after, passed⟩
      exact ⟨after, by simp_all [readScalar?]⟩
  | yes =>
      refine passesValue_word (by decide) fun rest spot => (?_ : Exists fun after =>
        readScalar? _ = .ok (some (.truth true)) ⟨rest, after⟩)
      rcases passWord_self ['r', 'u', 'e'] rest (spot.after 't') with ⟨after, passed⟩
      exact ⟨after, by simp_all [readScalar?]⟩
  | no =>
      refine passesValue_word (by decide) fun rest spot => (?_ : Exists fun after =>
        readScalar? _ = .ok (some (.truth false)) ⟨rest, after⟩)
      rcases passWord_self ['a', 'l', 's', 'e'] rest (spot.after 'f') with ⟨after, passed⟩
      exact ⟨after, by simp_all [readScalar?]⟩
  | number isNumber => exact passesValue_number isNumber
  | @text s body isBody =>
      intro fuel around blanks rest spot enough blank ends
      rcases exists_succ (Nat.succ_pos body.length) enough with ⟨fuel, rfl, spent⟩
      have visible : isBlankHere '"' = false := rfl
      rcases peekPastBlanks_of_blank blank visible (body ++ rest) spot with ⟨middle, peeked⟩
      rcases passTextBody_body isBody rest (middle.after '"') with ⟨after, passed⟩
      exact ⟨fuel, after, spent, by simp [passValue, peeked, passed]⟩
  | @list items body texts inside inductionHypothesis =>
      intro fuel around blanks rest spot enough blank ends
      rcases exists_succ (Nat.succ_pos body.length) enough with ⟨fuel, rfl, _⟩
      simp only [List.length_cons] at enough ⊢
      have visible : isBlankHere '[' = false := rfl
      rcases peekPastBlanks_of_blank blank visible (body ++ rest) spot with ⟨middle, peeked⟩
      have passes : ∀ text ∈ items.map Prod.snd, PassesKey .list text := by
        intro text member
        rcases List.mem_map.mp member with ⟨item, inItems, rfl⟩
        exact passesKey_list (texts item inItems) (inductionHypothesis item inItems)
      have inside : IsInside Surrounding.list.close (items.map Prod.snd) body := inside
      have enough : 4 * body.length + 3 ≤ fuel := by omega
      rcases passSeparator_inside inside passes enough around rest (middle.after '[') with
        ⟨less, after, spent, passed⟩
      exact ⟨less, after, by omega, by simp [passValue, peeked, passed]⟩
  | @object members body texts inside inductionHypothesis =>
      intro fuel around blanks rest spot enough blank ends
      rcases exists_succ (Nat.succ_pos body.length) enough with ⟨fuel, rfl, _⟩
      simp only [List.length_cons] at enough ⊢
      have visible : isBlankHere '\x7b' = false := rfl
      rcases peekPastBlanks_of_blank blank visible (body ++ rest) spot with ⟨middle, peeked⟩
      have passes : ∀ text ∈ members.map MemberText.whole, PassesKey .object text := by
        intro text member
        rcases List.mem_map.mp member with ⟨item, inMembers, rfl⟩
        exact passesKey_object item (inductionHypothesis item inMembers)
      have inside : IsInside Surrounding.object.close (members.map MemberText.whole) body := inside
      have enough : 4 * body.length + 3 ≤ fuel := by omega
      rcases passSeparator_inside inside passes enough around rest (middle.after '\x7b') with
        ⟨less, after, spent, passed⟩
      exact ⟨less, after, by omega, by simp [passValue, peeked, passed]⟩

theorem passAny_of_isText {value : Json} {text : List Char} (isText : IsText value text)
    {blanks rest : List Char} (blank : AllBlank blanks) (ends : Ends rest) (spot : Spot) :
    Exists fun after => passAny ⟨blanks ++ (text ++ rest), spot⟩ = .ok () ⟨rest, after⟩ := by
  have enough : 4 * text.length ≤ 4 * (blanks ++ (text ++ rest)).length + 4 := by
    simp only [List.length_append]
    omega
  rcases passValue_of_isText isText _ [] blanks rest spot enough blank ends with
    ⟨less, after, _, passed⟩
  rw [passRest] at passed
  exact ⟨after, passed⟩

end Json
end Landform
