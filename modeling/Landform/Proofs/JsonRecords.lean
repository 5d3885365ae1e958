import Landform.Proofs.JsonReading

namespace Landform
namespace Json

/-!
# Reading objects and records

A record is read member by member, in the order of the text, while its full form has the order of
its fields.  A record that is given as a list is read field by field instead.  Both ways are
compared with fitting here, and with them all shapes without choices.
-/

/-! ## Members -/

section Keys

variable {first : Bool} {body : List Char}

theorem nextKey_nil (ahead : IsAhead '\x7d' first [] body) (rest : List Char) (spot : Spot) :
    Exists fun after =>
      nextKey first ⟨body ++ rest, spot⟩ = .ok none ⟨'\x7d' :: rest, after⟩ := by
  have last : Exists fun blanks => AllBlank blanks ∧ body = blanks ++ ['\x7d'] := by
    cases first with
    | true => cases ahead with | empty blank => exact ⟨_, blank, rfl⟩
    | false => cases ahead with | close blank => exact ⟨_, blank, rfl⟩
  rcases last with ⟨blanks, blank, rfl⟩
  rcases peekPastBlanks_of_blank blank (show isBlankHere '\x7d' = false from rfl) rest spot with
    ⟨after, peeked⟩
  exact ⟨after, by simp [nextKey, peeked]⟩

/-- What is left of a member behind its key: a colon, and then the text of its value. -/
def IsColon (colon : List Char) : Prop :=
  Exists fun before => Exists fun behind =>
    colon = before ++ ':' :: behind ∧ AllBlank before ∧ AllBlank behind

/-- A key that is ahead is what is read next. -/
theorem nextKey_cons (member : MemberText) {texts : List (List Char)}
    (ahead : IsAhead '\x7d' first (member.whole :: texts) body) (rest : List Char) (spot : Spot) :
    Exists fun colon => Exists fun more => Exists fun after =>
      IsColon colon ∧ IsAhead '\x7d' false texts more ∧
        nextKey first ⟨body ++ rest, spot⟩ =
          .ok (some member.key) ⟨colon ++ (member.text ++ (more ++ rest)), after⟩ := by
  rcases member with ⟨key, value, _, text, quoted, before, behind, rfl, isBody, blank, blank'⟩
  have visible : isBlankHere '"' = false := rfl
  cases first with
  | true =>
      cases ahead with
      | @first blanks _ more _ blanked following =>
          rcases peekPastBlanks_of_blank blanked visible
            (quoted ++ (before ++ ':' :: (behind ++ (text ++ (more ++ rest))))) spot with
            ⟨middle, peeked⟩
          rcases readTextBody_body isBody (before ++ ':' :: (behind ++ (text ++ (more ++ rest))))
            (middle.after '"') with ⟨after, read⟩
          exact ⟨_, more, after, ⟨before, behind, rfl, blank, blank'⟩, following,
            by simp [nextKey, nextKey.readKey, MemberText.whole, peeked, read]⟩
  | false =>
      cases ahead with
      | @next blanks between _ more _ blanked blanked' following =>
          rcases peekPastBlanks_of_blank blanked comma_visible
            (between ++ '"' :: (quoted ++ (before ++ ':' :: (behind ++ (text ++ (more ++ rest))))))
            spot with ⟨comma, peeked⟩
          rcases peekPastBlanks_of_blank blanked' visible
            (quoted ++ (before ++ ':' :: (behind ++ (text ++ (more ++ rest)))))
            (comma.after ',') with
            ⟨middle, peeked'⟩
          rcases readTextBody_body isBody (before ++ ':' :: (behind ++ (text ++ (more ++ rest))))
            (middle.after '"') with ⟨after, read⟩
          exact ⟨_, more, after, ⟨before, behind, rfl, blank, blank'⟩, following,
            by simp [nextKey, nextKey.readKey, MemberText.whole, peeked, peeked', read]⟩

theorem passColon_of_isColon {colon : List Char} (isColon : IsColon colon) (rest : List Char)
    (spot : Spot) : Exists fun behind => Exists fun after => AllBlank behind ∧
      passColon ⟨colon ++ rest, spot⟩ = .ok () ⟨behind ++ rest, after⟩ := by
  rcases isColon with ⟨before, behind, rfl, blank, blank'⟩
  rcases passColon_of_blank blank (behind ++ rest) spot with ⟨after, passed⟩
  exact ⟨behind, after, blank', by simp [passed]⟩

theorem closeObject_close (rest : List Char) (spot : Spot) :
    Exists fun after => closeObject ⟨'\x7d' :: rest, spot⟩ = .ok () ⟨rest, after⟩ := by
  rcases peekPastBlanks_of_blank allBlank_nil (show isBlankHere '\x7d' = false from rfl) rest spot
    with ⟨after, peeked⟩
  rw [List.nil_append] at peeked
  exact ⟨after.after '\x7d', by simp [closeObject, peeked]⟩

end Keys

theorem wholes_nonempty (members : List MemberText) :
    ∀ text ∈ members.map MemberText.whole, text ≠ [] := by
  rintro _ inWholes rfl
  rcases List.mem_map.mp inWholes with ⟨⟨_, _, _, _, _, _, _, rfl, _⟩, _, empty⟩
  cases empty

/-! ## Objects with free keys -/

theorem readMembersFrom_ahead {read : Reading Json} {fit : Json -> Except ShapeCause Json}
    (agrees : Agrees read fit) {members : List MemberText} {first : Bool} {body : List Char}
    (texts : ∀ member ∈ members, IsText member.value member.text)
    (ahead : IsAhead '\x7d' first (members.map MemberText.whole) body) {fuel : Nat}
    (enough : members.length < fuel) (before : List (String × Json)) (rest : List Char)
    (spot : Spot) :
    EndsIn (readMembersFrom read fuel first before ⟨body ++ rest, spot⟩) ('\x7d' :: rest)
      ((fitDictionary fit (members.map MemberText.member)).map fun full =>
        before.reverse ++ full) := by
  induction members generalizing first body fuel before spot with
  | nil =>
      obtain ⟨fuel, rfl⟩ : Exists fun less => fuel = less + 1 := ⟨fuel - 1, by omega⟩
      rcases nextKey_nil ahead rest spot with ⟨after, asked⟩
      exact ⟨after, by simp [readMembersFrom, asked]⟩
  | cons member members inductionHypothesis =>
      obtain ⟨fuel, rfl⟩ : Exists fun less => fuel = less + 1 := ⟨fuel - 1, by omega⟩
      have isText := texts member List.mem_cons_self
      rcases nextKey_cons member ahead rest spot with ⟨colon, more, named, isColon, behind, asked⟩
      rcases passColon_of_isColon isColon (member.text ++ (more ++ rest)) named with
        ⟨blanks, middle, blank, passed⟩
      have asks : readMembersFrom read (fuel + 1) first before ⟨body ++ rest, spot⟩ =
          (read >>= fun value => readMembersFrom read fuel false ((member.key, value) :: before))
            ⟨blanks ++ (member.text ++ (more ++ rest)), middle⟩ := by
        rw [readMembersFrom, bind_reading, asked]
        dsimp only
        rw [bind_reading, passed]
      have ends := ahead_ends (show Surrounding.object.close = '\x7d' from rfl) behind rest
      have one := agrees member.value member.text isText blanks (more ++ rest) middle blank ends
      have later := one.bind fun full spot => inductionHypothesis
        (fun member inMembers => texts member (List.mem_cons_of_mem _ inMembers)) behind
        (Nat.lt_of_succ_lt_succ enough) ((member.key, full) :: before) spot
      rw [List.map_cons, MemberText.member, fitDictionary_cons, asks]
      simp only [bind_map_outcome, map_map_outcome]
      simp only [List.reverse_cons, List.append_assoc, List.singleton_append] at later
      exact later

theorem agrees_dictionary {inner : Shape} {rule : SurplusRule}
    (agrees : Agrees inner.read (inner.fit rule)) :
    Agrees (readDictionary inner.read) (inner.dictionary.fit rule) := by
  intro value text isText blanks rest spot blank ends
  by_cases isObject : Exists fun members => value = .object members
  · rcases isObject with ⟨values, rfl⟩
    cases isText with
    | number isNumber => cases isNumber
    | @object members body texts inside =>
        refine readOne_ends blank (show isBlankHere '\x7b' = false from rfl) fun spot => ?_
        have ahead : IsAhead '\x7d' true (members.map MemberText.whole) body := inside
        have enough : members.length < (body ++ rest).length + 1 := by
          have shorter := ahead_length ahead (wholes_nonempty members)
          simp only [List.length_map, List.length_append] at shorter ⊢
          omega
        have read := readMembersFrom_ahead agrees texts ahead enough [] rest (spot.after '\x7b')
        simp only [List.reverse_nil, List.nil_append, map_id_outcome] at read
        rw [Shape.fit]
        have whole : EndsIn (readMembers inner.read ⟨body ++ rest, spot.after '\x7b'⟩)
            ('\x7d' :: rest)
            (fitDictionary (inner.fit rule) (members.map MemberText.member)) := read
        exact whole.map.enclosed fun spot => closeObject_close rest spot
  · have misfits : inner.dictionary.fit rule value =
        .error (.wrongType (Found.ofValue value) "a map") := by
      rw [Shape.fit]
      exact fun members same => isObject ⟨members, same⟩
    rw [misfits]
    refine readOne_fails isText (fun c starts => if_neg ?_) blank _
    rw [beq_iff_eq]
    rintro rfl
    exact isObject (starts_brace starts)

/-! ## Records -/

/-- A field that is read is the field that is fitted. -/
structure FieldAgrees (reading : FieldReading) (fitting : FieldFit) : Prop where
  name : reading.name = fitting.name
  default : reading.default = fitting.default
  agrees : Agrees reading.read fitting.fit

section Records

variable {readings : List FieldReading} {fittings : List FieldFit}

theorem find_agrees (fields : List.Forall₂ FieldAgrees readings fittings) (key : String) :
    (readings.find? (fun field => field.name == key) = none ∧
      fittings.find? (fun field => field.name == key) = none) ∨
    Exists fun reading => Exists fun fitting =>
      readings.find? (fun field => field.name == key) = some reading ∧
      fittings.find? (fun field => field.name == key) = some fitting ∧
      FieldAgrees reading fitting := by
  induction fields with
  | nil => exact Or.inl ⟨rfl, rfl⟩
  | @cons reading fitting readings fittings field fields inductionHypothesis =>
      rw [List.find?_cons, List.find?_cons, field.name]
      cases fitting.name == key with
      | true => exact Or.inr ⟨reading, fitting, rfl, rfl, field⟩
      | false => exact inductionHypothesis

theorem defaults_agree (fields : List.Forall₂ FieldAgrees readings fittings) :
    readings.map (fun field => (field.name, field.default)) =
      fittings.map fun field => (field.name, field.default) := by
  induction fields with
  | nil => rfl
  | cons field fields inductionHypothesis =>
      rw [List.map_cons, List.map_cons, field.name, field.default, inductionHypothesis]

/-- The members that are ahead are read one after another; what no field asks for is passed over. -/
theorem readFieldsFrom_ahead (fields : List.Forall₂ FieldAgrees readings fittings)
    {members : List MemberText} {first : Bool} {body : List Char}
    (texts : ∀ member ∈ members, IsText member.value member.text)
    (ahead : IsAhead '\x7d' first (members.map MemberText.whole) body) {fuel : Nat}
    (enough : members.length < fuel) (found : List (String × Json)) (rest : List Char)
    (spot : Spot) :
    EndsIn (readFieldsFrom readings fuel first found ⟨body ++ rest, spot⟩) ('\x7d' :: rest)
      (fitMembers fittings found (members.map MemberText.member)) := by
  induction members generalizing first body fuel found spot with
  | nil =>
      obtain ⟨fuel, rfl⟩ : Exists fun less => fuel = less + 1 := ⟨fuel - 1, by omega⟩
      rcases nextKey_nil ahead rest spot with ⟨after, asked⟩
      rw [List.map_nil, fitMembers, readFieldsFrom, bind_reading, asked, defaults_agree fields]
      exact orMisfit_ends _
  | cons member members inductionHypothesis =>
      obtain ⟨fuel, rfl⟩ : Exists fun less => fuel = less + 1 := ⟨fuel - 1, by omega⟩
      have isText := texts member List.mem_cons_self
      have texts := fun member inMembers => texts member (List.mem_cons_of_mem _ inMembers)
      have enough := Nat.lt_of_succ_lt_succ enough
      rcases nextKey_cons member ahead rest spot with ⟨colon, more, named, isColon, behind, asked⟩
      rcases passColon_of_isColon isColon (member.text ++ (more ++ rest)) named with
        ⟨blanks, middle, blank, passed⟩
      have ends := ahead_ends (show Surrounding.object.close = '\x7d' from rfl) behind rest
      rw [List.map_cons, MemberText.member, fitMembers_cons, readFieldsFrom, bind_reading, asked]
      dsimp only
      rcases find_agrees fields member.key with
        ⟨unread, unfitted⟩ | ⟨reading, fitting, isRead, isFit, field⟩
      · rcases passAny_of_isText isText blank ends middle with ⟨after, skipped⟩
        rw [unread, unfitted]
        dsimp only
        rw [bind_reading, passed]
        dsimp only
        rw [bind_reading, skipped]
        exact inductionHypothesis texts behind enough found after
      · rw [isRead, isFit]
        dsimp only
        split
        · exact ⟨_, _, rfl⟩
        · rw [bind_reading, passed]
          have one := field.agrees member.value member.text isText blanks (more ++ rest) middle
            blank ends
          exact one.bind fun full spot =>
            inductionHypothesis texts behind enough (found ++ [(member.key, full)]) spot

/-! ## Records given as lists -/

/-- A reading, and then the end of the list. -/
def closing {α : Type} (reading : Reading α) : Reading α := do
  let a ← reading
  closeList
  return a

theorem endsIn_closing_map {α β ε : Type} {reading : Reading α} {cursor : Cursor} {rest : List Char}
    {outcome : Except ε α} (f : α -> β) (read : EndsIn (closing reading cursor) rest outcome) :
    EndsIn (closing (do return f (← reading)) cursor) rest (outcome.map f) := by
  have same : closing (do return f (← reading)) cursor =
      (do return f (← closing reading)) cursor := by
    simp only [closing, bind_reading]
    cases reading cursor with
    | error fault after => rfl
    | ok a after =>
        simp only [pure_reading]
        cases closeList after <;> rfl
  rw [same]
  exact read.map

theorem endsIn_enclosed_closing {α ε : Type} {reading : Reading α} {cursor : Cursor}
    {rest : List Char} {outcome : Except ε α}
    (read : EndsIn (closing reading cursor) rest outcome) :
    EndsIn (enclosed reading closeList cursor) rest outcome := by
  cases begun : reading cursor with
  | ok a after =>
      have same : enclosed reading closeList cursor = closing reading cursor := by
        rw [enclosed, closing, bind_reading, begun]
        simp only [bind_reading]
        cases closeList after <;> rfl
      rw [same]
      exact read
  | error fault after =>
      rw [closing, bind_reading, begun] at read
      cases outcome with
      | ok a =>
          rcases read with ⟨spot, impossible⟩
          cases impossible
      | error cause =>
          rw [enclosed, begun]
          dsimp only
          cases closeList after <;> exact ⟨_, _, rfl⟩

theorem closeList_nil {first : Bool} {body : List Char} (ahead : IsAhead ']' first [] body)
    (rest : List Char) (spot : Spot) : Exists fun after =>
      closeList ⟨body ++ rest, spot⟩ = .ok () ⟨rest, after⟩ := by
  have last : Exists fun blanks => AllBlank blanks ∧ body = blanks ++ [']'] := by
    cases first with
    | true => cases ahead with | empty blank => exact ⟨_, blank, rfl⟩
    | false => cases ahead with | close blank => exact ⟨_, blank, rfl⟩
  rcases last with ⟨blanks, blank, rfl⟩
  rcases peekPastBlanks_of_blank blank (show isBlankHere ']' = false from rfl) rest spot with
    ⟨after, peeked⟩
  exact ⟨after.after ']', by simp [closeList, peeked]⟩

/-- A list is not at its end while there are items ahead. -/
theorem closeList_cons {value : Json} {text : List Char} (isText : IsText value text)
    {texts : List (List Char)} {first : Bool} {body : List Char}
    (ahead : IsAhead ']' first (text :: texts) body) (rest : List Char) (spot : Spot) :
    Fails (closeList ⟨body ++ rest, spot⟩) := by
  rcases isText.starts with ⟨c, behind, rfl, starts⟩
  have visible := starts.visible.1
  have opened := starts.visible.2.1
  cases first with
  | true =>
      cases ahead with
      | @first blanks _ more _ blank following =>
          rcases peekPastBlanks_of_blank blank visible (behind ++ (more ++ rest)) spot with
            ⟨after, peeked⟩
          have noComma := starts.visible.2.2.2
          have failed : closeList ⟨blanks ++ c :: (behind ++ (more ++ rest)), spot⟩ =
              failAhead .trailingCharacters ⟨c :: (behind ++ (more ++ rest)), after⟩ := by
            simp [closeList, peeked]
          exact ⟨_, _, by simp only [List.append_assoc, List.cons_append]; exact failed⟩
  | false =>
      cases ahead with
      | @next blanks between _ more _ blank blank' following =>
          rcases peekPastBlanks_of_blank blank comma_visible
            (between ++ c :: (behind ++ (more ++ rest))) spot with ⟨middle, peeked⟩
          rcases peekPastBlanks_of_blank blank' visible (behind ++ (more ++ rest))
            (middle.after ',') with ⟨after, peeked'⟩
          have other : some c ≠ some ']' := fun same => opened (Option.some.inj same)
          have failed : closeList
              ⟨blanks ++ ',' :: (between ++ c :: (behind ++ (more ++ rest))), spot⟩ =
                failAhead .trailingCharacters ⟨c :: (behind ++ (more ++ rest)), after⟩ := by
            simp [closeList, peeked, peeked']
          exact ⟨_, _, by simp only [List.append_assoc, List.cons_append]; exact failed⟩

/-- The members of a record that is given as a list, if no item is left over. -/
def noneLeft (cause : ShapeCause) (found : List (String × Json) × List Json) :
    Except ShapeCause (List (String × Json)) :=
  match found.2 with
  | [] => .ok found.1
  | _ :: _ => .error cause

theorem noneLeft_map (cause : ShapeCause) (member : String × Json)
    (outcome : Except ShapeCause (List (String × Json) × List Json)) :
    (outcome.bind (noneLeft cause)).map (fun more => member :: more) =
      (outcome.map fun found => (member :: found.1, found.2)).bind (noneLeft cause) := by
  rcases outcome with cause' | ⟨members, _ | ⟨item, left⟩⟩ <;> rfl

section FieldItems

variable {title : String} {count position : Nat} {reading : FieldReading} {cursor after : Cursor}

/-- There is no item for a field without default. -/
theorem closing_missing (asked : nextItem (position == 0) cursor = .ok false after)
    (default : reading.default = none) :
    Fails (closing (readFieldItems title count position (reading :: readings)) cursor) := by
  have failed : closing (readFieldItems title count position (reading :: readings)) cursor =
      .error ⟨.shape (.wrongLength position (recordLength title count)), none⟩ after := by
    simp [closing, readFieldItems, asked, default, misfit]
  exact ⟨_, _, failed⟩

/-- There is no item for a field, which has its default. -/
theorem closing_default (asked : nextItem (position == 0) cursor = .ok false after) {value : Json}
    (default : reading.default = some value) :
    closing (readFieldItems title count position (reading :: readings)) cursor =
      closing (do return (reading.name, value) ::
        (← readFieldItems title count (position + 1) readings)) after := by
  rw [closing, closing, bind_reading, bind_reading, readFieldItems, bind_reading, asked]
  simp only [default]
  rfl

/-- An item is read for a field. -/
theorem closing_item (asked : nextItem (position == 0) cursor = .ok true after) :
    closing (readFieldItems title count position (reading :: readings)) cursor =
      (reading.read >>= fun full => closing (do return (reading.name, full) ::
        (← readFieldItems title count (position + 1) readings))) after := by
  rw [closing, bind_reading, bind_reading, readFieldItems, bind_reading, asked]
  simp only [if_true, bind_reading]
  cases reading.read after <;> simp only [closing, bind_reading]

end FieldItems

theorem readFieldItems_ahead (fields : List.Forall₂ FieldAgrees readings fittings)
    (title : String) (count : Nat) {position : Nat} {items : List (Json × List Char)}
    {body : List Char} (texts : ∀ item ∈ items, IsText item.1 item.2)
    (ahead : IsAhead ']' (position == 0) (items.map Prod.snd) body) (cause : ShapeCause)
    (rest : List Char) (spot : Spot) :
    EndsIn (closing (readFieldItems title count position readings) ⟨body ++ rest, spot⟩) rest
      ((fitItems title count position fittings (items.map Prod.fst)).bind (noneLeft cause)) := by
  induction fields generalizing position items body spot with
  | nil =>
      rw [readFieldItems, fitItems, closing]
      cases items with
      | nil =>
          rcases closeList_nil ahead rest spot with ⟨after, closed⟩
          exact ⟨after, by simp [closed]⟩
      | cons item items =>
          rcases closeList_cons (texts item List.mem_cons_self) ahead rest spot with
            ⟨fault, after, failed⟩
          exact ⟨fault, after, by simp [failed]⟩
  | @cons reading fitting readings fittings field fields inductionHypothesis =>
      cases items with
      | nil =>
          rcases nextItem_nil ahead rest spot with ⟨after, asked⟩
          rw [List.map_nil, fitItems, ← field.default, ← field.name]
          cases default : reading.default with
          | none =>
              exact closing_missing asked default
          | some value =>
              have left : IsAhead ']' (position + 1 == 0)
                  (([] : List (Json × List Char)).map Prod.snd) [']'] :=
                IsFollowing.close allBlank_nil
              have none : ∀ item ∈ ([] : List (Json × List Char)), IsText item.1 item.2 :=
                fun item member => absurd member List.not_mem_nil
              have later := inductionHypothesis none left after
              rw [closing_default asked default]
              have mapped := endsIn_closing_map (fun more => (reading.name, value) :: more) later
              rw [noneLeft_map] at mapped
              exact mapped
      | cons item items =>
          have isText := texts item List.mem_cons_self
          rcases nextItem_cons isText ahead rest spot with ⟨more, middle, behind, asked⟩
          have ends := ahead_ends (show Surrounding.list.close = ']' from rfl) behind rest
          have one := field.agrees item.1 item.2 isText [] (more ++ rest) middle allBlank_nil ends
          have left : IsAhead ']' (position + 1 == 0) (items.map Prod.snd) more := behind
          rw [List.map_cons, fitItems_cons, closing_item asked]
          have later := one.bind fun full spot => endsIn_closing_map
            (fun more => (reading.name, full) :: more) (inductionHypothesis
              (fun item member => texts item (List.mem_cons_of_mem _ member)) left spot)
          simp only [noneLeft_map] at later
          rw [bind_bind_outcome, ← field.name]
          exact later

theorem fitRecord_list (rule : SurplusRule) (title : String) (fields : List FieldFit)
    (items : List Json) :
    fitRecord rule title fields (.list items) =
      ((fitItems title fields.length 0 fields items).bind
        (noneLeft (rule.cause items.length fields.length))).map Json.object := by
  rw [fitRecord]
  rcases fitItems title fields.length 0 fields items with cause | ⟨members, _ | ⟨item, left⟩⟩ <;>
    rfl

theorem agrees_record (fields : List.Forall₂ FieldAgrees readings fittings) (title : String)
    (rule : SurplusRule) : Agrees (readRecord title readings) (fitRecord rule title fittings) := by
  intro value text isText blanks rest spot blank ends
  by_cases isObject : Exists fun members => value = .object members
  · rcases isObject with ⟨values, rfl⟩
    cases isText with
    | number isNumber => cases isNumber
    | @object members body texts inside =>
        refine readOne_ends blank (show isBlankHere '\x7b' = false from rfl) fun spot => ?_
        have ahead : IsAhead '\x7d' true (members.map MemberText.whole) body := inside
        have enough : members.length < (body ++ rest).length + 1 := by
          have shorter := ahead_length ahead (wholes_nonempty members)
          simp only [List.length_map, List.length_append] at shorter ⊢
          omega
        have read := readFieldsFrom_ahead fields texts ahead enough [] rest (spot.after '\x7b')
        exact read.map.enclosed fun spot => closeObject_close rest spot
  · by_cases isList : Exists fun items => value = .list items
    · rcases isList with ⟨values, rfl⟩
      cases isText with
      | number isNumber => cases isNumber
      | @list items body texts inside =>
          refine readOne_ends blank (show isBlankHere '[' = false from rfl) fun spot => ?_
          have ahead : IsAhead ']' (0 == 0) (items.map Prod.snd) body := inside
          have read := readFieldItems_ahead fields title fittings.length texts ahead
            (rule.cause (items.map Prod.fst).length fittings.length) rest (spot.after '[')
          rw [fitRecord_list, ← fields.length_eq] at *
          exact endsIn_enclosed_closing (endsIn_closing_map Json.object read)
    · have misfits : fitRecord rule title fittings value =
          .error (.wrongType (Found.ofValue value) title) := by
        rw [fitRecord]
        · exact fun members same => isObject ⟨members, same⟩
        · exact fun items same => isList ⟨items, same⟩
      rw [misfits]
      refine readOne_fails isText (fun c starts => ?_) blank _
      have noList : (c == '[') = false := beq_false_of_ne fun same =>
        isList (starts_bracket (same ▸ starts))
      have noObject : (c == '\x7b') = false := beq_false_of_ne fun same =>
        isObject (starts_brace (same ▸ starts))
      simp [noList, noObject]

end Records

/-! ## Shapes -/

mutual

/-- Whether there is no choice in a shape, and its numbers are read exactly. -/
def Shape.isPlain : Shape -> Bool
  | .text => true
  | .integer span _ =>
      decide (Number.int64.low ≤ span.low) && decide (span.high ≤ Number.nat64.high)
  | .optional inner | .list inner | .dictionary inner => inner.isPlain
  | .record _ fields => fields.isPlain
  | .choice .. => false

/-- Whether there is no choice in some fields. -/
def Fields.isPlain : Fields -> Bool
  | .nil => true
  | .cons _ _ shape rest => shape.isPlain && rest.isPlain

end

mutual

/-- A plain shape reads from every text of a value what the value is fitted to. -/
theorem Shape.agrees (rule : SurplusRule) : (shape : Shape) -> shape.isPlain = true ->
    Agrees shape.read (shape.fit rule)
  | .text, _ => agrees_text rule
  | .integer span title, plain => by
      simp only [Shape.isPlain, Bool.and_eq_true, decide_eq_true_eq] at plain
      exact agrees_integer plain title rule
  | .optional inner, plain => agrees_optional (inner.agrees rule plain)
  | .list inner, plain => agrees_list (inner.agrees rule plain)
  | .dictionary inner, plain => agrees_dictionary (inner.agrees rule plain)
  | .record title fields, plain => by
      intro value
      rw [Shape.fit]
      exact agrees_record (fields.agrees rule plain) title rule value

theorem Fields.agrees (rule : SurplusRule) : (fields : Fields) -> fields.isPlain = true ->
    List.Forall₂ FieldAgrees fields.readings (fields.fits rule)
  | .nil, _ => .nil
  | .cons name default shape rest, plain => by
      simp only [Fields.isPlain, Bool.and_eq_true] at plain
      exact .cons ⟨rfl, rfl, shape.agrees rule plain.1⟩ (rest.agrees rule plain.2)

end

/-- A text that holds a value is read as the value is fitted, whatever the text is. -/
theorem ofText_holds {shape : Shape} (plain : shape.isPlain = true) {s : String} {value : Json}
    (holds : Holds s value) :
    (shape.ofText s).toOption = (shape.fit .exactElements value).toOption := by
  rcases holds with ⟨before, text, behind, whole, isText, blank, blank'⟩
  have ends : Ends behind := by
    cases behind with
    | nil => rintro c ⟨⟩
    | cons c behind =>
        rintro _ ⟨⟩
        exact Or.inl (blank' c List.mem_cons_self)
  have read := shape.agrees .exactElements plain value text isText before behind Spot.start blank
    ends
  rw [Shape.ofText, Cursor.ofText, whole]
  cases fits : shape.fit .exactElements value with
  | error cause =>
      rw [fits] at read
      rcases read with ⟨fault, after, failed⟩
      rw [bind_reading, failed]
      rfl
  | ok full =>
      rw [fits] at read
      rcases read with ⟨spot, read⟩
      rcases peekPastBlanks_end blank' spot with ⟨after, peeked⟩
      have passed : passEnd ⟨behind, spot⟩ = .ok () ⟨[], after⟩ := by
        rw [passEnd, bind_reading, peeked]
        rfl
      rw [bind_reading, read]
      dsimp only
      rw [bind_reading, passed]
      rfl

end Json
end Landform
