import Landform.Landscape.Node
import Landform.Landscape.Token
import Landform.Number.Decimal

namespace Landform
namespace Landscape

/-!
Reading a landscape description.  The tokens are taken in one after another.  What has
been read so far is a list of complete maps and a stack of blocks that are still open,
the innermost first, together with what the last tokens have begun: a block whose brace
is still to come, or a setting without its value.

The first token that does not fit ends the reading; a text that ends in the middle is at
fault at its end.
-/

/-- No overlay lies inside more blocks than this. -/
def deepestOverlay : Nat := 256

/-- Why a text is not a landscape description. -/
inductive DescriptionCause where
  | lexical (cause : LexicalCause)
  | mapExpected (found : Option TokenKind)
  | braceExpected (found : Option TokenKind)
  | equalsExpected (key : String) (found : Option TokenKind)
  | valueExpected (key : String) (found : Option TokenKind)
  | unexpected (found : TokenKind)
  | unclosedBlock
  | tooDeep
  | unknownPattern (name : String)
  | invalidValue (key value : String)
  | unknownKey (key : String)

/-- The place in a text where it is no landscape description. -/
structure DescriptionFault where
  place : Place
  cause : DescriptionCause

namespace TokenKind

/-- A token as faults name it. -/
def describe : TokenKind -> String
  | .word text => "'" ++ text ++ "'"
  | .openBrace => "'\x7b'"
  | .closeBrace => "'\x7d'"
  | .semicolon => "';'"
  | .equals => "'='"

end TokenKind

/-- What stands at a place, the end of the text included. -/
def describeFound (found : Option TokenKind) : String :=
  (found.map TokenKind.describe).getD "end of file"

namespace DescriptionCause

/-- The wording of a cause. -/
def message : DescriptionCause -> String
  | .lexical cause => cause.message
  | .mapExpected found => "expected 'map', found " ++ describeFound found
  | .braceExpected found => "expected '\x7b', found " ++ describeFound found
  | .equalsExpected key found =>
      "expected '=' after '" ++ key ++ "', found " ++ describeFound found
  | .valueExpected key found =>
      "expected value for '" ++ key ++ "', found " ++ describeFound found
  | .unexpected found => "unexpected " ++ found.describe
  | .unclosedBlock => "expected '\x7d' before end of file"
  | .tooDeep => s!"overlays nested deeper than {deepestOverlay} levels"
  | .unknownPattern name => "unknown algorithm '" ++ name ++ "'"
  | .invalidValue key value => "invalid value '" ++ value ++ "' for '" ++ key ++ "'"
  | .unknownKey key => "unknown attribute '" ++ key ++ "'"

end DescriptionCause

/-- The offending place as a fault of the named file. -/
def DescriptionFault.fault (file : String) (offence : DescriptionFault) : Fault where
  code := "LANDSCAPE_PARSE"
  message := file ++ s!":{offence.place.line}:{offence.place.column}: " ++ offence.cause.message
  stretch := some ⟨offence.place, offence.place⟩

/-- A key read, and where it stands. -/
structure SettingKey where
  key : String
  place : Place

/-- Reads a number of 32 bits; percent signs behind it say nothing. -/
def readNumber? (value : String) : Option Int :=
  Number.readDecimal? Number.int32
    (String.ofList ((value.toList.reverse.dropWhile fun c => c == '%').reverse))

/-- Reads a truth value. -/
def readFlag? (value : String) : Option Bool :=
  let lower := Text.asciiLower value
  if lower == "1" || lower == "true" then some true
  else if lower == "0" || lower == "false" then some false
  else none

/-- The word of 32 bits that an integer is congruent to. -/
def seedOf (n : Int) : UInt32 :=
  (Int32.ofInt n).toUInt32

namespace Attributes

/--
Applies a setting.  The fault of a value stands at the value, that of a key at the key.
-/
def apply (attributes : Attributes) (key : SettingKey) (value : String) (valuePlace : Place) :
    Except DescriptionFault Attributes :=
  let number (update : Int -> Attributes) : Except DescriptionFault Attributes :=
    match readNumber? value with
    | some n => .ok (update n)
    | none => .error ⟨valuePlace, .invalidValue key.key value⟩
  let flag (update : Bool -> Attributes) : Except DescriptionFault Attributes :=
    match readFlag? value with
    | some b => .ok (update b)
    | none => .error ⟨valuePlace, .invalidValue key.key value⟩
  match Text.asciiLower key.key with
  | "algo" =>
      match Pattern.ofName? value with
      | some pattern => .ok { attributes with pattern := pattern }
      | none => .error ⟨valuePlace, .unknownPattern value⟩
  | "mat" => .ok { attributes with material := some value }
  | "tex" => .ok { attributes with texture := some value }
  | "back" => .ok { attributes with back := some value }
  | "x" => number fun n => { attributes with x := n }
  | "y" => number fun n => { attributes with y := n }
  | "wdt" => number fun n => { attributes with width := n }
  | "hgt" => number fun n => { attributes with height := n }
  | "zoomx" => number fun n => { attributes with zoomX := n }
  | "zoomy" => number fun n => { attributes with zoomY := n }
  | "a" => number fun n => { attributes with a := n }
  | "b" => number fun n => { attributes with b := n }
  | "seed" => number fun n => { attributes with seed := seedOf n }
  | "invert" => flag fun b => { attributes with invert := b }
  | "mask" => flag fun b => { attributes with mask := b }
  | _ => .error ⟨key.place, .unknownKey key.key⟩

end Attributes

/-- A block whose closing brace is still to come; the overlays inside, the latest first. -/
structure OpenBlock where
  header : NodeHeader
  attributes : Attributes := {}
  inside : List Node := []

namespace OpenBlock

/-- The block as it is when its closing brace comes. -/
def close (block : OpenBlock) : Node :=
  .mk block.header block.attributes block.inside.reverse

/-- Puts an overlay behind those inside. -/
def add (block : OpenBlock) (child : Node) : OpenBlock :=
  { block with inside := child :: block.inside }

end OpenBlock

/-- What the last tokens have begun. -/
inductive Begun where
  | nothing
  | block (kind : NodeKind) (place : Place)
  | named (header : NodeHeader)
  | setting (key : SettingKey)
  | value (key : SettingKey)

/-- What has been read: maps, the latest first, and the open blocks, the innermost first. -/
structure Reading where
  maps : List Node := []
  stack : List OpenBlock := []
  begun : Begun := .nothing

namespace Reading

/-- Starts a block. -/
def start (reading : Reading) (kind : NodeKind) (place : Place) :
    Except DescriptionFault Reading :=
  if reading.stack.length > deepestOverlay then .error ⟨place, .tooDeep⟩
  else .ok { reading with begun := .block kind place }

/-- Opens a block at its brace. -/
def openBlock (reading : Reading) (header : NodeHeader) : Reading :=
  { reading with stack := { header := header } :: reading.stack, begun := .nothing }

/-- Closes the innermost of some blocks. -/
def closeBlock (reading : Reading) (block : OpenBlock) : List OpenBlock -> Reading
  | [] => { reading with maps := block.close :: reading.maps, stack := [] }
  | outer :: more => { reading with stack := outer.add block.close :: more }

/-- Takes in a token that starts something new outside all blocks. -/
def takeOutside (reading : Reading) (token : Token) : Except DescriptionFault Reading :=
  match token.kind with
  | .semicolon => .ok reading
  | .word "map" => reading.start .map token.place
  | other => .error ⟨token.place, .mapExpected other⟩

/-- Takes in a token that starts something new inside a block. -/
def takeInside (reading : Reading) (block : OpenBlock) (outer : List OpenBlock)
    (token : Token) : Except DescriptionFault Reading :=
  match token.kind with
  | .semicolon => .ok reading
  | .closeBrace => .ok (reading.closeBlock block outer)
  | .word "overlay" | .word "layer" => reading.start .overlay token.place
  | .word key => .ok { reading with begun := .setting ⟨key, token.place⟩ }
  | other => .error ⟨token.place, .unexpected other⟩

/-- Gives the innermost block a setting. -/
def applySetting (reading : Reading) (key : SettingKey) (value : String)
    (valuePlace : Place) : Except DescriptionFault Reading :=
  match reading.stack with
  | [] => .ok { reading with begun := .nothing }
  | block :: outer =>
      (block.attributes.apply key value valuePlace).map fun attributes =>
        { reading with
          stack := { block with attributes := attributes } :: outer
          begun := .nothing }

/-- Takes in a token. -/
def take (reading : Reading) (token : Token) : Except DescriptionFault Reading :=
  match reading.begun with
  | .nothing =>
      match reading.stack with
      | [] => reading.takeOutside token
      | block :: outer => reading.takeInside block outer token
  | .block kind place =>
      match token.kind with
      | .word name => .ok { reading with begun := .named ⟨kind, some name, place⟩ }
      | .openBrace => .ok (reading.openBlock ⟨kind, none, place⟩)
      | other => .error ⟨token.place, .braceExpected other⟩
  | .named header =>
      match token.kind with
      | .openBrace => .ok (reading.openBlock header)
      | other => .error ⟨token.place, .braceExpected other⟩
  | .setting key =>
      match token.kind with
      | .equals => .ok { reading with begun := .value key }
      | other => .error ⟨token.place, .equalsExpected key.key other⟩
  | .value key =>
      match token.kind with
      | .word value => reading.applySetting key value token.place
      | other => .error ⟨token.place, .valueExpected key.key other⟩

/-- Takes in tokens one after another. -/
def takeAll (reading : Reading) : List Token -> Except DescriptionFault Reading
  | [] => .ok reading
  | token :: rest =>
      match reading.take token with
      | .ok next => next.takeAll rest
      | .error offence => .error offence

/-- What has been read when the text ends at a place. -/
def finish (reading : Reading) (place : Place) : Except DescriptionFault Document :=
  match reading.begun with
  | .nothing =>
      match reading.stack with
      | [] => .ok ⟨reading.maps.reverse⟩
      | _ :: _ => .error ⟨place, .unclosedBlock⟩
  | .block _ _ | .named _ => .error ⟨place, .braceExpected none⟩
  | .setting key => .error ⟨place, .equalsExpected key.key none⟩
  | .value key => .error ⟨place, .valueExpected key.key none⟩

theorem takeAll_append (reading : Reading) (front back : List Token) :
    reading.takeAll (front ++ back) =
      (reading.takeAll front).bind fun middle => middle.takeAll back := by
  induction front generalizing reading with
  | nil => rfl
  | cons token rest ih =>
      simp only [List.cons_append, takeAll]
      cases reading.take token with
      | ok next => exact ih next
      | error offence => rfl

end Reading

namespace Document

/-- The description some tokens make. -/
def ofTokens (list : TokenList) : Except DescriptionFault Document :=
  match Reading.takeAll {} list.tokens with
  | .ok reading => reading.finish list.stop
  | .error offence => .error offence

/-- The description a text holds. -/
def ofText (source : String) : Except DescriptionFault Document :=
  match tokenize source with
  | .ok list => ofTokens list
  | .error offence => .error ⟨offence.place, .lexical offence.cause⟩

end Document

end Landscape
end Landform
