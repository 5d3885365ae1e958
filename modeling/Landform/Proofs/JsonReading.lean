import Landform.Proofs.JsonFitting
import Landform.Proofs.JsonPassing

namespace Landform
namespace Json

/-!
# Reading is fitting

A value can be brought to its full form in two ways: its text is read by a shape, or the value
itself is fitted to the shape.  The two share no code.  Reading passes the text once and stops at
the first offence; fitting never sees a text.  `Shape.agrees` says that they agree on every text
of every value, in the full form if there is one, and in that there is none otherwise.

Each kind of shape has its lemma, which assumes nothing of the shapes inside but that they agree.
-/

/-- A reading does with every text of a value what fitting does with the value. -/
def Agrees (read : Reading Json) (fit : Json -> Except ShapeCause Json) : Prop :=
  ∀ value text, IsText value text -> ∀ blanks rest spot, AllBlank blanks -> Ends rest ->
    EndsIn (read ⟨blanks ++ (text ++ rest), spot⟩) rest (fit value)

section Steps

variable {α β ε : Type} {rest middle : List Char} {spot : Spot} {cursor : Cursor}

/-- A reading that fails does so for any cause. -/
def Fails (result : EStateM.Result ReadFault Cursor α) : Prop :=
  Exists fun fault => Exists fun after => result = .error fault after

theorem orMisfit_ends (outcome : Except ShapeCause α) :
    EndsIn (orMisfit outcome ⟨rest, spot⟩) rest outcome := by
  cases outcome with
  | ok a => exact ⟨spot, rfl⟩
  | error cause => exact ⟨_, _, rfl⟩

/-- What is ahead is read to tell what it is, and then does not fit. -/
theorem mismatch_fails (expected : String) (cursor : Cursor) :
    Fails ((mismatch expected : Reading α) cursor) := by
  rcases cursor with ⟨_ | ⟨c, rest⟩, spot⟩
  · exact ⟨_, _, rfl⟩
  · by_cases list : c = '['
    · subst list
      exact ⟨_, _, rfl⟩
    · by_cases object : c = '\x7b'
      · subst object
        exact ⟨_, _, rfl⟩
      · simp only [mismatch, bind_reading, peek_reading, List.head?_cons, Option.some.injEq, list,
          object, imp_self]
        cases readScalar? ⟨c :: rest, spot⟩ with
        | error fault after => exact ⟨fault, after, rfl⟩
        | ok found after => cases found <;> exact ⟨_, _, rfl⟩

/-- A list or object is read if its inside is, and its bracket follows. -/
theorem EndsIn.enclosed {inside : Reading α} {close : Reading Unit} {outcome : Except ε α}
    (read : EndsIn (inside cursor) middle outcome)
    (closes : ∀ spot, Exists fun after => close ⟨middle, spot⟩ = .ok () ⟨rest, after⟩) :
    EndsIn (Json.enclosed inside close cursor) rest outcome := by
  cases outcome with
  | ok a =>
      rcases read with ⟨spot, read⟩
      rcases closes spot with ⟨after, closed⟩
      exact ⟨after, by rw [Json.enclosed, read]; simp only [closed]⟩
  | error cause =>
      rcases read with ⟨fault, after, failed⟩
      rw [Json.enclosed, failed]
      dsimp only
      cases close after <;> exact ⟨_, _, rfl⟩

end Steps

/-! ## Single values -/

section Single

variable {reading : Char -> Option (Reading Json)} {expected : String} {value : Json}
variable {text blanks rest : List Char} {spot : Spot}

/-- The first character of a value decides how it is read. -/
theorem readOne_ends {c : Char} {more middle : List Char} {outcome : Except ShapeCause Json}
    (blank : AllBlank blanks) (visible : isBlankHere c = false)
    (read : ∀ spot,
      EndsIn ((reading c).getD (mismatch expected) ⟨c :: more, spot⟩) middle outcome) :
    EndsIn (readOne reading expected ⟨blanks ++ c :: more, spot⟩) middle outcome := by
  refine EndsIn.located ?_
  rcases peekPastBlanks_of_blank blank visible more spot with ⟨after, peeked⟩
  rw [bind_reading, peeked]
  exact read after

theorem starts_quote (starts : Starts value '"') : Exists fun s => value = .text s := by
  cases value with
  | text s => exact ⟨s, rfl⟩
  | truth answer => cases answer <;> cases starts
  | whole n | float x => rcases starts with impossible | impossible <;> cases impossible
  | _ => cases starts

theorem starts_bracket (starts : Starts value '[') : Exists fun items => value = .list items := by
  cases value with
  | list items => exact ⟨items, rfl⟩
  | truth answer => cases answer <;> cases starts
  | whole n | float x => rcases starts with impossible | impossible <;> cases impossible
  | _ => cases starts

theorem starts_brace (starts : Starts value '\x7b') :
    Exists fun members => value = .object members := by
  cases value with
  | object members => exact ⟨members, rfl⟩
  | truth answer => cases answer <;> cases starts
  | whole n | float x => rcases starts with impossible | impossible <;> cases impossible
  | _ => cases starts

/-- A value that starts otherwise is not read. -/
theorem readOne_fails (isText : IsText value text)
    (other : ∀ c, Starts value c -> reading c = none) (blank : AllBlank blanks)
    (cause : ShapeCause) :
    EndsIn (readOne reading expected ⟨blanks ++ (text ++ rest), spot⟩) rest
      (.error cause : Except ShapeCause Json) := by
  rcases isText.starts with ⟨c, more, rfl, starts⟩
  refine readOne_ends blank starts.visible.1 fun spot => ?_
  rw [other c starts]
  exact mismatch_fails expected _

end Single

theorem agrees_text (rule : SurplusRule) : Agrees readText (Shape.text.fit rule) := by
  intro value text isText blanks rest spot blank ends
  by_cases isOne : Exists fun s => value = .text s
  · rcases isOne with ⟨s, rfl⟩
    cases isText with
    | number isNumber => cases isNumber
    | text isBody =>
        refine readOne_ends blank (show isBlankHere '"' = false from rfl) fun spot => ?_
        rcases readTextBody_body isBody rest (spot.after '"') with ⟨after, read⟩
        rw [Shape.fit]
        exact ⟨after, by simp [read]⟩
  · have misfits : Shape.text.fit rule value =
        .error (.wrongType (Found.ofValue value) "a string") := by
      rw [Shape.fit]
      exact fun s same => isOne ⟨s, same⟩
    rw [misfits]
    refine readOne_fails isText (fun c starts => if_neg ?_) blank _
    rw [beq_iff_eq]
    rintro rfl
    exact isOne (starts_quote starts)

/-- All numbers of a range are read exactly. -/
def IsExactSpan (span : Number.Span) : Prop :=
  Number.int64.low ≤ span.low ∧ span.high ≤ Number.nat64.high

/-- A number is read and fitted to a range behind its sign. -/
theorem integer_ends {span : Number.Span} (exact : IsExactSpan span) (title : String)
    {value : Json} {text : List Char} (isNumber : IsNumber value text) :
    Exists fun negative => Exists fun c => Exists fun more =>
      text = signChars negative ++ c :: more ∧ isDigitHere c = true ∧
      ∀ rest spot, Ends rest ->
        EndsIn ((do orMisfit (fitInteger span title (← readNumber negative)))
          ⟨c :: more ++ rest, spot⟩) rest (fitInteger span title value) := by
  rcases readNumber_of_isNumber isNumber with ⟨negative, c, more, whole, digit, reads⟩
  refine ⟨negative, c, more, whole, digit, fun rest spot ends => ?_⟩
  rw [bind_reading]
  rcases reads rest spot ends with ⟨after, ⟨n, rfl⟩, read⟩ | ⟨large, gives⟩
  · rw [read]
    exact orMisfit_ends _
  · have misfits : Exists fun cause => fitInteger span title value = .error cause := by
      cases isNumber with
      | whole natural unsigned =>
          have outside := large _ rfl
          have apart : span.contains _ = false := Bool.eq_false_iff.mpr fun inside =>
            outside ⟨Int.le_trans exact.1 ((Number.Span.contains_iff _ _).mp inside).1,
              Int.le_trans ((Number.Span.contains_iff _ _).mp inside).2 exact.2⟩
          exact ⟨_, by rw [fitInteger, apart]; rfl⟩
      | negativeZero => exact ⟨_, rfl⟩
      | scaled => exact ⟨_, rfl⟩
    rcases misfits with ⟨cause, misfits⟩
    rw [misfits]
    cases read : readNumber negative ⟨c :: more ++ rest, spot⟩ with
    | error fault after => exact ⟨fault, after, rfl⟩
    | ok result after =>
        rcases gives result after read with ⟨x, rfl⟩
        exact ⟨_, _, rfl⟩

theorem agrees_integer {span : Number.Span} (exact : IsExactSpan span) (title : String)
    (rule : SurplusRule) :
    Agrees (readInteger span title) ((Shape.integer span title).fit rule) := by
  intro value text isText blanks rest spot blank ends
  rw [Shape.fit]
  cases isText with
  | number isNumber =>
      rcases integer_ends exact title isNumber with ⟨negative, c, more, rfl, digit, reads⟩
      cases negative with
      | true =>
          refine readOne_ends blank (show isBlankHere '-' = false from rfl) fun spot => ?_
          exact reads rest (spot.after '-') ends
      | false =>
          refine readOne_ends blank (visible_of_digit digit) fun spot => ?_
          have noSign : (c == '-') = false :=
            beq_false_of_ne (ne_of_digit digit (show isDigitHere '-' = false from rfl))
          rw [noSign, digit]
          exact reads rest spot ends
  | null => exact readOne_fails .null (by rintro c rfl; rfl) blank _
  | yes => exact readOne_fails .yes (by rintro c rfl; rfl) blank _
  | no => exact readOne_fails .no (by rintro c rfl; rfl) blank _
  | text isBody => exact readOne_fails (.text isBody) (by rintro c rfl; rfl) blank _
  | list texts inside => exact readOne_fails (.list texts inside) (by rintro c rfl; rfl) blank _
  | object texts inside => exact readOne_fails (.object texts inside) (by rintro c rfl; rfl) blank _

/-- Only null starts like null. -/
theorem Starts.not_null {value : Json} {c : Char} (starts : Starts value c)
    (some : value ≠ .null) : c ≠ 'n' := by
  cases value with
  | null => exact absurd rfl some
  | truth answer => cases answer <;> cases starts <;> decide
  | whole n | float x =>
      rcases starts with rfl | digit
      · decide
      · exact ne_of_digit digit rfl
  | _ =>
      cases starts
      decide

theorem agrees_optional {inner : Shape} {rule : SurplusRule}
    (agrees : Agrees inner.read (inner.fit rule)) :
    Agrees (readOptional inner.read) (inner.optional.fit rule) := by
  intro value text isText blanks rest spot blank ends
  by_cases null : value = .null
  · subst null
    cases isText with
    | number isNumber => cases isNumber
    | null =>
        have visible : isBlankHere 'n' = false := rfl
        rcases peekPastBlanks_of_blank blank visible ('u' :: 'l' :: 'l' :: rest) spot with
          ⟨middle, peeked⟩
        rcases passWord_self ['u', 'l', 'l'] rest (middle.after 'n') with ⟨after, passed⟩
        exact ⟨after, by simp_all [readOptional]⟩
  · have fits : inner.optional.fit rule value = inner.fit rule value := by
      rw [Shape.fit]
      exact null
    rcases isText.starts with ⟨c, more, rfl, starts⟩
    rcases peekPastBlanks_of_blank blank starts.visible.1 (more ++ rest) spot with ⟨middle, peeked⟩
    have other := starts.not_null null
    have read : readOptional inner.read ⟨blanks ++ (c :: more ++ rest), spot⟩ =
        inner.read ⟨c :: more ++ rest, middle⟩ := by
      simp [readOptional, peeked, other]
    rw [fits, read]
    exact agrees value (c :: more) isText [] rest middle allBlank_nil ends

/-! ## Lists -/

theorem ahead_length {close : Char} {first : Bool} {texts : List (List Char)} {body : List Char}
    (ahead : IsAhead close first texts body) (some : ∀ text ∈ texts, text ≠ []) :
    texts.length < body.length := by
  have following : ∀ {texts body}, IsFollowing close texts body -> texts.length < body.length := by
    intro texts body following
    induction following with
    | close blank =>
        simp only [List.length_append, List.length_cons, List.length_nil]
        omega
    | next blank blank' following inductionHypothesis =>
        simp only [List.length_append, List.length_cons]
        omega
  cases first with
  | false => exact following ahead
  | true =>
      cases ahead with
      | empty blank =>
          simp only [List.length_append, List.length_cons, List.length_nil]
          omega
      | @first blanks text body texts blank behind =>
          have shorter := following behind
          have visible := List.length_pos_iff.mpr (some text List.mem_cons_self)
          simp only [List.length_append, List.length_cons]
          omega

section Lists

variable {first : Bool} {body rest : List Char}

theorem texts_nonempty {items : List (Json × List Char)}
    (texts : ∀ item ∈ items, IsText item.1 item.2) : ∀ text ∈ items.map Prod.snd, text ≠ [] := by
  rintro _ member rfl
  rcases List.mem_map.mp member with ⟨item, inItems, empty⟩
  rcases (texts item inItems).starts with ⟨c, more, starting, _⟩
  rw [empty] at starting
  cases starting

theorem nextItem_nil (ahead : IsAhead ']' first [] body) (rest : List Char) (spot : Spot) :
    Exists fun after =>
      nextItem first ⟨body ++ rest, spot⟩ = .ok false ⟨']' :: rest, after⟩ := by
  have last : Exists fun blanks => AllBlank blanks ∧ body = blanks ++ [']'] := by
    cases first with
    | true => cases ahead with | empty blank => exact ⟨_, blank, rfl⟩
    | false => cases ahead with | close blank => exact ⟨_, blank, rfl⟩
  rcases last with ⟨blanks, blank, rfl⟩
  rcases peekPastBlanks_of_blank blank (show isBlankHere ']' = false from rfl) rest spot with
    ⟨after, peeked⟩
  exact ⟨after, by simp [nextItem, peeked]⟩

/-- An item that is ahead is what is read next, and others follow it. -/
theorem nextItem_cons {value : Json} {text : List Char} (isText : IsText value text)
    {texts : List (List Char)} (ahead : IsAhead ']' first (text :: texts) body)
    (rest : List Char) (spot : Spot) :
    Exists fun more => Exists fun after => IsAhead ']' false texts more ∧
      nextItem first ⟨body ++ rest, spot⟩ = .ok true ⟨text ++ (more ++ rest), after⟩ := by
  rcases isText.starts with ⟨c, behind, rfl, starts⟩
  have visible := starts.visible.1
  have opened := starts.visible.2.1
  cases first with
  | true =>
      cases ahead with
      | @first blanks _ more _ blank following =>
          rcases peekPastBlanks_of_blank blank visible (behind ++ (more ++ rest)) spot with
            ⟨after, peeked⟩
          exact ⟨more, after, following, by simp [nextItem, peeked]⟩
  | false =>
      cases ahead with
      | @next blanks between _ more _ blank blank' following =>
          rcases peekPastBlanks_of_blank blank comma_visible
            (between ++ c :: (behind ++ (more ++ rest))) spot with ⟨middle, peeked⟩
          rcases peekPastBlanks_of_blank blank' visible (behind ++ (more ++ rest))
            (middle.after ',') with ⟨after, peeked'⟩
          exact ⟨more, after, following, by simp [nextItem, peeked, peeked']⟩

theorem closeList_close (rest : List Char) (spot : Spot) :
    Exists fun after => closeList ⟨']' :: rest, spot⟩ = .ok () ⟨rest, after⟩ := by
  rcases peekPastBlanks_of_blank allBlank_nil (show isBlankHere ']' = false from rfl) rest spot with
    ⟨after, peeked⟩
  rw [List.nil_append] at peeked
  exact ⟨after.after ']', by simp [closeList, peeked]⟩

end Lists

/-- What may stand behind a value stands behind an item or a member. -/
theorem ahead_ends {inner : Surrounding} {close : Char} (same : inner.close = close)
    {texts : List (List Char)} {body : List Char} (ahead : IsAhead close false texts body)
    (rest : List Char) : Ends (body ++ rest) := by
  subst same
  exact IsFollowing.ends ahead rest

/-- The items that are ahead are read one after another, behind those that have been read. -/
theorem readItemsFrom_ahead {read : Reading Json} {fit : Json -> Except ShapeCause Json}
    (agrees : Agrees read fit) {items : List (Json × List Char)} {first : Bool} {body : List Char}
    (texts : ∀ item ∈ items, IsText item.1 item.2)
    (ahead : IsAhead ']' first (items.map Prod.snd) body) {fuel : Nat}
    (enough : items.length < fuel) (before : List Json) (rest : List Char) (spot : Spot) :
    EndsIn (readItemsFrom read fuel first before ⟨body ++ rest, spot⟩) (']' :: rest)
      ((fitAll fit (items.map Prod.fst)).map fun full => before.reverse ++ full) := by
  induction items generalizing first body fuel before spot with
  | nil =>
      obtain ⟨fuel, rfl⟩ : Exists fun less => fuel = less + 1 := ⟨fuel - 1, by omega⟩
      rcases nextItem_nil ahead rest spot with ⟨after, asked⟩
      refine ⟨after, ?_⟩
      simp [readItemsFrom, asked]
  | cons item items inductionHypothesis =>
      obtain ⟨fuel, rfl⟩ : Exists fun less => fuel = less + 1 := ⟨fuel - 1, by omega⟩
      have isText := texts item List.mem_cons_self
      rcases nextItem_cons isText ahead rest spot with ⟨more, middle, behind, asked⟩
      have asks : readItemsFrom read (fuel + 1) first before ⟨body ++ rest, spot⟩ =
          (read >>= fun value => readItemsFrom read fuel false (value :: before))
            ⟨item.2 ++ (more ++ rest), middle⟩ := by
        rw [readItemsFrom, bind_reading, asked]
        rfl
      have ends := ahead_ends (show Surrounding.list.close = ']' from rfl) behind rest
      have one := agrees item.1 item.2 isText [] (more ++ rest) middle allBlank_nil ends
      have later := one.bind fun full spot => inductionHypothesis
        (fun item member => texts item (List.mem_cons_of_mem _ member)) behind
        (Nat.lt_of_succ_lt_succ enough) (full :: before) spot
      rw [List.map_cons, fitAll_cons, asks]
      simp only [bind_map_outcome, map_map_outcome]
      simp only [List.reverse_cons, List.append_assoc, List.singleton_append] at later
      exact later

theorem readItems_inside {read : Reading Json} {fit : Json -> Except ShapeCause Json}
    (agrees : Agrees read fit) {items : List (Json × List Char)} {body : List Char}
    (texts : ∀ item ∈ items, IsText item.1 item.2)
    (inside : IsInside ']' (items.map Prod.snd) body) (rest : List Char) (spot : Spot) :
    EndsIn (readItems read ⟨body ++ rest, spot⟩) (']' :: rest)
      (fitAll fit (items.map Prod.fst)) := by
  have ahead : IsAhead ']' true (items.map Prod.snd) body := inside
  have enough : items.length < (body ++ rest).length + 1 := by
    have shorter := ahead_length ahead (texts_nonempty texts)
    simp only [List.length_map, List.length_append] at shorter ⊢
    omega
  have read := readItemsFrom_ahead agrees texts ahead enough [] rest spot
  simp only [List.reverse_nil, List.nil_append] at read
  rw [map_id_outcome] at read
  exact read

theorem agrees_list {inner : Shape} {rule : SurplusRule}
    (agrees : Agrees inner.read (inner.fit rule)) :
    Agrees (readList inner.read) (inner.list.fit rule) := by
  intro value text isText blanks rest spot blank ends
  by_cases isList : Exists fun items => value = .list items
  · rcases isList with ⟨values, rfl⟩
    cases isText with
    | number isNumber => cases isNumber
    | list texts inside =>
        refine readOne_ends blank (show isBlankHere '[' = false from rfl) fun spot => ?_
        have read := readItems_inside agrees texts inside rest (spot.after '[')
        rw [Shape.fit]
        exact read.map.enclosed fun spot => closeList_close rest spot
  · have misfits : inner.list.fit rule value =
        .error (.wrongType (Found.ofValue value) "a sequence") := by
      rw [Shape.fit]
      exact fun items same => isList ⟨items, same⟩
    rw [misfits]
    refine readOne_fails isText (fun c starts => if_neg ?_) blank _
    rw [beq_iff_eq]
    rintro rfl
    exact isList (starts_bracket starts)

end Json
end Landform
