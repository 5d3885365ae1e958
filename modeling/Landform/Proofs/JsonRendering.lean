import Landform.Proofs.JsonTexts

namespace Landform
namespace Json

/-!
# The rendering of a value is one of its texts

A value is rendered without blanks, and a character is escaped only if it has to be.  What holds of
all texts of a value therefore holds of its rendering.  Values with floating-point numbers are left
out: how their digits come about is a matter of floating-point arithmetic.
-/

/-- A value without floating-point numbers. -/
inductive IsExact : Json -> Prop
  | null : IsExact .null
  | truth (answer : Bool) : IsExact (.truth answer)
  | whole (n : Int) : IsExact (.whole n)
  | text (s : String) : IsExact (.text s)
  | list {items : List Json} : (∀ item ∈ items, IsExact item) -> IsExact (.list items)
  | object {members : List (String × Json)} :
      (∀ member ∈ members, IsExact member.2) -> IsExact (.object members)

/-! ## Texts -/

theorem hexValue_control : ∀ n, n < 0x20 ->
    hexValue4? '0' '0' (hexDigit (n / 16)) (hexDigit (n % 16)) = some n ∧
      closesPair n = false ∧ opensPair n = false := by
  decide

/-- A character stands for itself where this is possible, and is escaped otherwise. -/
theorem escapedChar_cases (c : Char) :
    (escapedChar c = [c] ∧ c ≠ '"' ∧ c ≠ '\\' ∧ ¬ c.toNat < 0x20) ∨
      Exists fun escape => escapedChar c = '\\' :: escape ∧ IsEscape c escape := by
  by_cases letter : c ∈ ['"', '\\', '\x08', '\x0c', '\n', '\r', '\t']
  · right
    simp only [List.mem_cons, List.not_mem_nil, or_false] at letter
    rcases letter with rfl | rfl | rfl | rfl | rfl | rfl | rfl <;>
      exact ⟨[_], rfl, .letter rfl⟩
  · simp only [List.mem_cons, List.not_mem_nil, or_false, not_or] at letter
    rcases letter with ⟨noQuote, noBackslash, noBack, noFeed, noLine, noReturn, noTab⟩
    by_cases control : c.toNat < 0x20
    · right
      rcases hexValue_control c.toNat control with ⟨value, lone, complete⟩
      have escape := IsEscape.numbered value lone complete
      rw [Char.ofNat_toNat] at escape
      exact ⟨_, by simp [escapedChar, *], escape⟩
    · left
      exact ⟨by simp [escapedChar, *], noQuote, noBackslash, control⟩

/-- What is rendered between quotes stands for the text. -/
theorem isBody_escaped (meant : List Char) :
    IsBody meant (meant.flatMap escapedChar ++ ['"']) := by
  induction meant with
  | nil => exact .close
  | cons c meant inductionHypothesis =>
      rw [List.flatMap_cons, List.append_assoc]
      rcases escapedChar_cases c with
        ⟨plain, noQuote, noBackslash, shown⟩ | ⟨escape, escaped, isEscape⟩
      · rw [plain]
        exact .plain noQuote noBackslash shown inductionHypothesis
      · rw [escaped]
        exact .escaped isEscape inductionHypothesis

theorem isText_quoted (s : String) : IsText (.text s) (quotedChars s) :=
  .text (isBody_escaped s.toList)

theorem isKey_quoted (key : String) : IsKey key (quotedChars key ++ [':']) := by
  refine ⟨key.toList.flatMap escapedChar ++ ['"'], [], [], ?_, isBody_escaped key.toList,
    allBlank_nil, allBlank_nil⟩
  simp [quotedChars]

/-! ## Numbers -/

theorem toDigits_short (n : Nat) (zero : (Nat.toDigits 10 n).head? = some '0') :
    Nat.toDigits 10 n = ['0'] := by
  induction n using Nat.strongRecOn with
  | _ n inductionHypothesis =>
      rw [Nat.toDigits_eq_if (by decide)] at zero ⊢
      split at zero
      · rename_i small
        rw [if_pos small]
        exact congrArg (fun c => [c]) (Option.some.inj zero)
      · rename_i large
        cases digits : Nat.toDigits 10 (n / 10) with
        | nil => exact absurd digits Nat.toDigits_ne_nil
        | cons c more =>
            rw [digits] at zero
            have front := inductionHypothesis (n / 10) (by omega) (by rw [digits]; exact zero)
            -- Only zero has these digits, and the number has ten or more.
            have none : Nat.ofDigitChars 10 (Nat.toDigits 10 (n / 10)) 0 = n / 10 :=
              Nat.ofDigitChars_toDigits (by decide) (by decide)
            rw [front] at none
            have impossible : 0 = n / 10 := none
            omega

theorem isNatural_toDigits (n : Nat) : IsNatural (Nat.toDigits 10 n) where
  nonempty := Nat.toDigits_ne_nil
  all := fun c member => Nat.isDigit_of_mem_toDigits (by decide) (by decide) member
  short := toDigits_short n

theorem isText_whole (n : Int) : IsText (.whole n) (toString n).toList := by
  have value : ∀ m, Nat.ofDigitChars 10 (Nat.toDigits 10 m) 0 = m := fun m =>
    Nat.ofDigitChars_toDigits (by decide) (by decide)
  refine .number ?_
  cases n with
  | ofNat m =>
      have isNumber : IsNumber _ (signChars false ++ Nat.toDigits 10 m) :=
        .whole (isNatural_toDigits m) (fun impossible => nomatch impossible)
      rw [value] at isNumber
      have shown : (toString (Int.ofNat m)).toList = Nat.toDigits 10 m := String.toList_ofList
      rw [shown]
      exact isNumber
  | negSucc m =>
      have isNumber : IsNumber _ (signChars true ++ Nat.toDigits 10 (m + 1)) :=
        .whole (isNatural_toDigits (m + 1)) (fun _ => by rw [value]; exact Nat.succ_ne_zero m)
      rw [value] at isNumber
      have shown : (toString (Int.negSucc m)).toList = '-' :: Nat.toDigits 10 (m + 1) := by
        change (Int.repr (Int.negSucc m)).toList = _
        rw [Int.repr, String.toList_append]
        exact congrArg ('-' :: ·) String.toList_ofList
      rw [shown]
      exact isNumber

/-! ## Lists and objects -/

theorem renderItems_cons (item second : Json) (rest : List Json) :
    renderItems (item :: second :: rest) =
      renderChars item ++ ',' :: renderItems (second :: rest) := by
  rw [renderItems]
  exact nofun

/-- What is inside of a list follows a comma as well. -/
theorem IsInside.following {close : Char} {text : List Char} {texts : List (List Char)}
    {body : List Char} (inside : IsInside close (text :: texts) body) :
    IsFollowing close (text :: texts) (',' :: body) := by
  cases inside with
  | first blank following => exact .next allBlank_nil blank following

theorem isInside_renderItems (items : List Json) :
    IsInside ']' (items.map renderChars) (renderItems items) := by
  induction items with
  | nil => exact .empty allBlank_nil
  | cons item rest inductionHypothesis =>
      cases rest with
      | nil => exact .first allBlank_nil (.close allBlank_nil)
      | cons second rest =>
          rw [renderItems_cons]
          exact .first allBlank_nil inductionHypothesis.following

/-- A member as it is rendered. -/
def renderedMember (member : String × Json) : MemberText where
  key := member.1
  value := member.2
  front := quotedChars member.1 ++ [':']
  text := renderChars member.2
  isKey := isKey_quoted member.1

theorem renderMembers_cons (member second : String × Json) (rest : List (String × Json)) :
    renderMembers (member :: second :: rest) =
      (renderedMember member).whole ++ ',' :: renderMembers (second :: rest) := by
  rw [renderMembers]
  · simp [renderedMember, MemberText.whole]
  · exact nofun

theorem isInside_renderMembers (members : List (String × Json)) :
    IsInside '\x7d' (members.map fun member => (renderedMember member).whole)
      (renderMembers members) := by
  induction members with
  | nil => exact .empty allBlank_nil
  | cons member rest inductionHypothesis =>
      cases rest with
      | nil =>
          have single : renderMembers [member] =
              [] ++ ((renderedMember member).whole ++ ['\x7d']) := by
            simp [renderMembers, renderedMember, MemberText.whole]
          rw [single]
          exact .first allBlank_nil (.close allBlank_nil)
      | cons second rest =>
          rw [renderMembers_cons]
          exact .first allBlank_nil inductionHypothesis.following

/-- The rendering of a value is one of its texts. -/
theorem isText_render {value : Json} (exact' : IsExact value) : IsText value value.renderChars := by
  induction exact' with
  | null => exact .null
  | truth answer =>
      cases answer
      · exact .no
      · exact .yes
  | whole n => exact isText_whole n
  | text s => exact isText_quoted s
  | @list items _ inductionHypothesis =>
      have texts : ∀ item ∈ items.map fun item => (item, renderChars item),
          IsText item.1 item.2 := by
        intro item member
        rcases List.mem_map.mp member with ⟨source, inItems, rfl⟩
        exact inductionHypothesis source inItems
      have inside : IsInside ']' ((items.map fun item => (item, renderChars item)).map Prod.snd)
          (renderItems items) := by
        rw [List.map_map]
        exact isInside_renderItems items
      have isText := IsText.list texts inside
      rw [List.map_map, List.map_id''] at isText
      · exact isText
      · exact fun _ => rfl
  | @object members _ inductionHypothesis =>
      have texts : ∀ member ∈ members.map renderedMember, IsText member.value member.text := by
        intro member inMembers
        rcases List.mem_map.mp inMembers with ⟨source, inSources, rfl⟩
        exact inductionHypothesis source inSources
      have inside : IsInside '\x7d' ((members.map renderedMember).map MemberText.whole)
          (renderMembers members) := by
        rw [List.map_map]
        exact isInside_renderMembers members
      have isText := IsText.object texts inside
      rw [List.map_map, List.map_id''] at isText
      · exact isText
      · exact fun _ => rfl

theorem holds_render {value : Json} (exact' : IsExact value) : Holds value.render value :=
  ⟨[], value.renderChars, [], by simp [render], isText_render exact', allBlank_nil, allBlank_nil⟩

end Json
end Landform
