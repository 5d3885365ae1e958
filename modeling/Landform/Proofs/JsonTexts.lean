import Landform.Json.Reader

namespace Landform
namespace Json

/-!
# The texts of a value

A value has many texts.  Blanks may stand around every value and separator, a character of a text
may be escaped in several ways, and a floating-point number is written with any digits.  `IsText`
says which texts a value has.  It speaks about characters only and not about reading; a text that
belongs to a value does not begin or end with a blank.

A number with fraction or exponent is a text of every floating-point number.  Which of them it is
meant to be is a matter of rounding, and no shape asks for it.
-/

/-- Blanks as they stand between values. -/
def AllBlank (blanks : List Char) : Prop :=
  ∀ c ∈ blanks, isBlankHere c = true

theorem allBlank_nil : AllBlank [] :=
  fun _ member => nomatch member

/-! ## Characters of texts -/

/-- The character of two code units that make up a pair. -/
def pairedChar (unit second : Nat) : Char :=
  Char.ofNat ((unit - 0xD800) * 0x400 + (second - 0xDC00) + 0x10000)

/-- How a character may be escaped, behind the backslash. -/
inductive IsEscape : Char -> List Char -> Prop
  | letter {letter c : Char} : letterEscape? letter = some c -> IsEscape c [letter]
  | numbered {a b c d : Char} {unit : Nat} :
      hexValue4? a b c d = some unit -> closesPair unit = false -> opensPair unit = false ->
      IsEscape (Char.ofNat unit) ['u', a, b, c, d]
  | paired {a b c d a' b' c' d' : Char} {unit second : Nat} :
      hexValue4? a b c d = some unit -> opensPair unit = true ->
      hexValue4? a' b' c' d' = some second -> closesPair second = true ->
      IsEscape (pairedChar unit second) ['u', a, b, c, d, '\\', 'u', a', b', c', d']

/-- The characters that are meant, and how they stand in front of a closing quote. -/
inductive IsBody : List Char -> List Char -> Prop
  | close : IsBody [] ['"']
  | plain {c : Char} {meant body : List Char} :
      c ≠ '"' -> c ≠ '\\' -> ¬ c.toNat < 0x20 -> IsBody meant body ->
      IsBody (c :: meant) (c :: body)
  | escaped {c : Char} {escape meant body : List Char} :
      IsEscape c escape -> IsBody meant body ->
      IsBody (c :: meant) ('\\' :: (escape ++ body))

/-! ## Numbers -/

/-- Digits without needless zeros in front. -/
structure IsNatural (digits : List Char) : Prop where
  nonempty : digits ≠ []
  all : ∀ c ∈ digits, isDigitHere c = true
  short : digits.head? = some '0' -> digits = ['0']

/-- The sign that may stand in front of a number. -/
def signChars (negative : Bool) : List Char :=
  if negative then ['-'] else []

/-- A number with its sign. -/
def signed (negative : Bool) (n : Nat) : Int :=
  if negative then -(n : Int) else n

/-- The digits behind a point. -/
inductive IsFraction : List Char -> Prop
  | point {digits : List Char} :
      digits ≠ [] -> (∀ c ∈ digits, isDigitHere c = true) -> IsFraction ('.' :: digits)

/-- The exponent of a power of ten. -/
inductive IsExponent : List Char -> Prop
  | power {mark : Char} {sign digits : List Char} :
      mark = 'e' ∨ mark = 'E' -> sign = [] ∨ sign = ['+'] ∨ sign = ['-'] ->
      digits ≠ [] -> (∀ c ∈ digits, isDigitHere c = true) ->
      IsExponent (mark :: sign ++ digits)

/-- What makes a number a floating-point number: a fraction, an exponent, or both. -/
inductive IsScale : List Char -> Prop
  | fraction {fraction : List Char} : IsFraction fraction -> IsScale fraction
  | exponent {exponent : List Char} : IsExponent exponent -> IsScale exponent
  | both {fraction exponent : List Char} :
      IsFraction fraction -> IsExponent exponent -> IsScale (fraction ++ exponent)

/-- The texts of numbers.  A zero with a sign is a floating-point number. -/
inductive IsNumber : Json -> List Char -> Prop
  | whole {negative : Bool} {digits : List Char} :
      IsNatural digits -> (negative = true -> Nat.ofDigitChars 10 digits 0 ≠ 0) ->
      IsNumber (.whole (signed negative (Nat.ofDigitChars 10 digits 0)))
        (signChars negative ++ digits)
  | negativeZero {x : Float} : IsNumber (.float x) ['-', '0']
  | scaled {x : Float} {negative : Bool} {digits scale : List Char} :
      IsNatural digits -> IsScale scale ->
      IsNumber (.float x) (signChars negative ++ (digits ++ scale))

/-! ## Lists and objects -/

/-- Some texts, a comma in front of each, up to a closing bracket. -/
inductive IsFollowing (close : Char) : List (List Char) -> List Char -> Prop
  | close {blanks : List Char} : AllBlank blanks -> IsFollowing close [] (blanks ++ [close])
  | next {blanks between text body : List Char} {texts : List (List Char)} :
      AllBlank blanks -> AllBlank between -> IsFollowing close texts body ->
      IsFollowing close (text :: texts) (blanks ++ ',' :: (between ++ (text ++ body)))

/-- Some texts with commas between them, up to a closing bracket. -/
inductive IsInside (close : Char) : List (List Char) -> List Char -> Prop
  | empty {blanks : List Char} : AllBlank blanks -> IsInside close [] (blanks ++ [close])
  | first {blanks text body : List Char} {texts : List (List Char)} :
      AllBlank blanks -> IsFollowing close texts body ->
      IsInside close (text :: texts) (blanks ++ (text ++ body))

/-- What is ahead in front of the first text, or behind one. -/
def IsAhead (close : Char) : Bool -> List (List Char) -> List Char -> Prop
  | true => IsInside close
  | false => IsFollowing close

/-- A key with what follows it, up to its value. -/
def IsKey (key : String) (front : List Char) : Prop :=
  Exists fun body => Exists fun before => Exists fun behind =>
    front = '"' :: (body ++ (before ++ ':' :: behind)) ∧ IsBody key.toList body ∧
      AllBlank before ∧ AllBlank behind

/-- A member of an object with its text: the key with its colon, and the value. -/
structure MemberText where
  key : String
  value : Json
  front : List Char
  text : List Char
  isKey : IsKey key front

namespace MemberText

/-- A member of an object, its text apart. -/
def member (member : MemberText) : String × Json :=
  (member.key, member.value)

/-- The whole text of a member. -/
def whole (member : MemberText) : List Char :=
  member.front ++ member.text

end MemberText

/-- The texts of a value. -/
inductive IsText : Json -> List Char -> Prop
  | null : IsText .null ['n', 'u', 'l', 'l']
  | yes : IsText (.truth true) ['t', 'r', 'u', 'e']
  | no : IsText (.truth false) ['f', 'a', 'l', 's', 'e']
  | number {value : Json} {text : List Char} : IsNumber value text -> IsText value text
  | text {s : String} {body : List Char} : IsBody s.toList body -> IsText (.text s) ('"' :: body)
  | list {items : List (Json × List Char)} {body : List Char} :
      (∀ item ∈ items, IsText item.1 item.2) -> IsInside ']' (items.map Prod.snd) body ->
      IsText (.list (items.map Prod.fst)) ('[' :: body)
  | object {members : List MemberText} {body : List Char} :
      (∀ member ∈ members, IsText member.value member.text) ->
      IsInside '\x7d' (members.map MemberText.whole) body ->
      IsText (.object (members.map MemberText.member)) ('\x7b' :: body)

/-- A whole text that holds a value, blanks around it included. -/
def Holds (s : String) (value : Json) : Prop :=
  Exists fun before => Exists fun text => Exists fun behind =>
    s.toList = before ++ (text ++ behind) ∧ IsText value text ∧ AllBlank before ∧ AllBlank behind

end Json
end Landform
