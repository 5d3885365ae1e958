import Landform.Number.Shortest
import Landform.Text.Quoted

namespace Landform

/-!
Values of the exchange format in which tables and parameters are kept: null, truth values,
numbers, texts, lists, and objects whose members keep their order.  A number without
fraction and exponent is a whole number, all others are floating-point numbers.
-/

/-- A value of the exchange format. -/
inductive Json where
  | null
  | truth (value : Bool)
  | whole (value : Int)
  | float (value : Float)
  | text (value : String)
  | list (items : List Json)
  | object (members : List (String × Json))
  deriving Inhabited

namespace Json

/--
A floating-point number is positional for exponents up to sixteen and keeps its fraction; an
exponent has its sign.
-/
def floatFormat : Number.FloatFormat where
  tie := .toEven
  isPositional := fun point => decide (-5 < point) && decide (point ≤ 16)
  keepFraction := true
  signsExponent := true
  notANumber := "null"
  infinity := "null"

/-- The text of a floating-point number. -/
def floatText (x : Float) : String :=
  floatFormat.write x

/-- A hexadecimal digit in lower case. -/
def hexDigit (n : Nat) : Char :=
  Nat.digitChar n

/-- A character of a text between quotes. -/
def escapedChar (c : Char) : List Char :=
  if c == '"' then ['\\', '"']
  else if c == '\\' then ['\\', '\\']
  else if c == '\x08' then ['\\', 'b']
  else if c == '\x0c' then ['\\', 'f']
  else if c == '\n' then ['\\', 'n']
  else if c == '\r' then ['\\', 'r']
  else if c == '\t' then ['\\', 't']
  else if c.toNat < 0x20 then
    ['\\', 'u', '0', '0', hexDigit (c.toNat / 16), hexDigit (c.toNat % 16)]
  else [c]

/-- A text between quotes, on character lists. -/
def quotedChars (s : String) : List Char :=
  '"' :: s.toList.flatMap escapedChar ++ ['"']

/-- A text between quotes. -/
def quoted (s : String) : String :=
  String.ofList (quotedChars s)

mutual

/-- A value written without blanks, on character lists. -/
def renderChars : Json -> List Char
  | .null => ['n', 'u', 'l', 'l']
  | .truth true => ['t', 'r', 'u', 'e']
  | .truth false => ['f', 'a', 'l', 's', 'e']
  | .whole n => (toString n).toList
  | .float x => (floatText x).toList
  | .text s => quotedChars s
  | .list items => '[' :: renderItems items
  | .object members => '\x7b' :: renderMembers members

/-- The items of a list and its closing bracket. -/
def renderItems : List Json -> List Char
  | [] => [']']
  | [item] => renderChars item ++ [']']
  | item :: rest => renderChars item ++ ',' :: renderItems rest

/-- The members of an object and its closing brace. -/
def renderMembers : List (String × Json) -> List Char
  | [] => ['\x7d']
  | [(key, value)] => quotedChars key ++ ':' :: renderChars value ++ ['\x7d']
  | (key, value) :: rest =>
      quotedChars key ++ ':' :: renderChars value ++ ',' :: renderMembers rest

end

/-- A value written without blanks. -/
def render (value : Json) : String :=
  String.ofList value.renderChars

/-- The value of the first member of a name. -/
def member? (name : String) : Json -> Option Json
  | .object members => members.lookup name
  | _ => none

/-- The items of a list; everything else has none. -/
def items : Json -> List Json
  | .list items => items
  | _ => []

/-- The members of an object; everything else has none. -/
def members : Json -> List (String × Json)
  | .object members => members
  | _ => []

/-- The text a value is. -/
def text? : Json -> Option String
  | .text s => some s
  | _ => none

/-- The whole number a value is. -/
def whole? : Json -> Option Int
  | .whole n => some n
  | _ => none

/-- The text of a member, or the empty text. -/
def textAt (value : Json) (name : String) : String :=
  ((value.member? name).bind text?).getD ""

/-- The whole number of a member. -/
def wholeAt? (value : Json) (name : String) : Option Int :=
  (value.member? name).bind whole?

end Json

end Landform
