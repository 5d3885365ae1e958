import Landform.Json

namespace Landform
namespace Json

/-!
Why a text is no value of the exchange format, or a value not of the expected shape.
-/

/-- Why a text is no value. -/
inductive SyntaxCause where
  | endOfList
  | endOfObject
  | endOfText
  | endOfValue
  | colonExpected
  | listSeparatorExpected
  | objectSeparatorExpected
  | wordExpected
  | valueExpected
  | invalidEscape
  | invalidNumber
  | numberOutOfRange
  | controlCharacter
  | keyExpected
  | loneSurrogate
  | trailingComma
  | trailingCharacters
  | openSurrogate
  | tooDeep
  deriving DecidableEq

namespace SyntaxCause

/-- The wording of a cause. -/
def message : SyntaxCause -> String
  | .endOfList => "EOF while parsing a list"
  | .endOfObject => "EOF while parsing an object"
  | .endOfText => "EOF while parsing a string"
  | .endOfValue => "EOF while parsing a value"
  | .colonExpected => "expected \x60:\x60"
  | .listSeparatorExpected => "expected \x60,\x60 or \x60]\x60"
  | .objectSeparatorExpected => "expected \x60,\x60 or \x60\x7d\x60"
  | .wordExpected => "expected ident"
  | .valueExpected => "expected value"
  | .invalidEscape => "invalid escape"
  | .invalidNumber => "invalid number"
  | .numberOutOfRange => "number out of range"
  | .controlCharacter =>
      "control character (\\u0000-\\u001F) found while parsing a string"
  | .keyExpected => "key must be a string"
  | .loneSurrogate => "lone leading surrogate in hex escape"
  | .trailingComma => "trailing comma"
  | .trailingCharacters => "trailing characters"
  | .openSurrogate => "unexpected end of hex escape"
  | .tooDeep => "recursion limit exceeded"

end SyntaxCause

/-- What a value is, as far as faults tell. -/
inductive Found where
  | null
  | truth (value : Bool)
  | whole (value : Int)
  | float (value : Float)
  | text (value : String)
  | list
  | object

namespace Found

/-- What a value is. -/
def ofValue : Json -> Found
  | .null => .null
  | .truth b => .truth b
  | .whole n => .whole n
  | .float x => .float x
  | .text s => .text s
  | .list _ => .list
  | .object _ => .object

/-- A name put between marks. -/
def marked (name : String) : String :=
  "\x60" ++ name ++ "\x60"

/-- The wording for what a value is. -/
def describe : Found -> String
  | .null => "null"
  | .truth b => "boolean " ++ marked (if b then "true" else "false")
  | .whole n => "integer " ++ marked (toString n)
  | .float x => "floating point " ++ marked (floatText x)
  | .text s => "string " ++ Text.quoted s
  | .list => "sequence"
  | .object => "map"

end Found

/-- Why a value has not the expected shape. -/
inductive ShapeCause where
  | wrongType (found : Found) (expected : String)
  | wrongValue (found : Found) (expected : String)
  | wrongLength (length : Nat) (expected : String)
  | missingField (name : String)
  | duplicateField (name : String)
  | unknownVariant (name : String) (known : List String)

namespace ShapeCause

/-- The names that are known, for a fault about one that is not. -/
def oneOf : List String -> String
  | [] => "nothing"
  | [only] => Found.marked only
  | [first, second] => Found.marked first ++ " or " ++ Found.marked second
  | names => "one of " ++ String.intercalate ", " (names.map Found.marked)

/-- The wording of a cause. -/
def message : ShapeCause -> String
  | .wrongType found expected =>
      "invalid type: " ++ found.describe ++ ", expected " ++ expected
  | .wrongValue found expected =>
      "invalid value: " ++ found.describe ++ ", expected " ++ expected
  | .wrongLength length expected => s!"invalid length {length}, expected " ++ expected
  | .missingField name => "missing field " ++ Found.marked name
  | .duplicateField name => "duplicate field " ++ Found.marked name
  | .unknownVariant name known =>
      "unknown variant " ++ Found.marked name ++ ", expected " ++ oneOf known

end ShapeCause

/-- A place in a text: its line counted from one, and the bytes before it on that line. -/
structure Spot where
  line : Nat
  column : Nat
  deriving DecidableEq, Inhabited

/-- What is wrong. -/
inductive ReadCause where
  | syntactic (cause : SyntaxCause)
  | shape (cause : ShapeCause)

/-- What is wrong, and where, once that is known. -/
structure ReadFault where
  cause : ReadCause
  spot : Option Spot

namespace ReadFault

/-- The fault in words. -/
def message (fault : ReadFault) : String :=
  let words :=
    match fault.cause with
    | .syntactic cause => cause.message
    | .shape cause => cause.message
  match fault.spot with
  | some spot => words ++ s!" at line {spot.line} column {spot.column}"
  | none => words

end ReadFault

end Json
end Landform
