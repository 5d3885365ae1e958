import Landform.Script.Arithmetic
import Landform.Text.Case
import Landform.Text.Blank

namespace Landform
namespace Script

/-!
The functions on values that every map script may call.  A function is chosen by its name
and by the types of its arguments.  A function called on a variable may give the variable
a new value; functions that do so are refused to constants.
-/

/-- What a function comes to: its result, and the new value of its first argument if it has one. -/
structure Effect where
  result : Value
  changed : Option Value := none

/-- What a function answers; nothing where no function takes the arguments. -/
abbrev LibraryAnswer := Option (Except FailureCause Effect)

/-- Answers a value. -/
def answer (result : Value) : LibraryAnswer :=
  some (.ok { result := result })

/-- Answers a value and changes the first argument. -/
def answerChanging (result changed : Value) : LibraryAnswer :=
  some (.ok { result := result, changed := some changed })

/-- Answers a whole number. -/
def answerCount (count : Nat) : LibraryAnswer :=
  answer (.integer count)

/-- Fails. -/
def answerFailure (message : String) : LibraryAnswer :=
  some (.error (.arithmetic message))

/-- The place an index means; a negative index counts from the end. -/
def indexIn (count : Nat) (index : Int) : Option Nat :=
  if 0 ≤ index then (if index < count then some index.toNat else none)
  else if index.natAbs ≤ count then some (count - index.natAbs)
  else none

/-- The place to insert at that an index means; indexes outside mean the nearest end. -/
def insertionIn (count : Nat) (index : Int) : Nat :=
  if 0 ≤ index then min index.toNat count else count - index.natAbs

/-! ## Texts -/

/--
A stretch of characters; a negative start counts from the end, and the least number of all
means no characters.
-/
def stretchOf (cs : List Char) (start length : Int) : List Char :=
  let first := if start < 0 then cs.length - start.natAbs else start.toNat
  if start == Number.int64.low then [] else (cs.drop first).take length.toNat

/--
The characters in a range.  A negative start means the first character, and no range ends
before it starts.
-/
def rangeOf (cs : List Char) (low high : Int) (inclusive : Bool) : List Char :=
  let start := max low 0
  stretchOf cs start (max high start - start + if inclusive then 1 else 0)

/-- Where a stretch of characters first occurs. -/
def firstAt (stretch : List Char) : (place : Nat) -> List Char -> Int
  | place, [] => if stretch.isEmpty then place else -1
  | place, c :: rest =>
      if stretch.isPrefixOf (c :: rest) then place else firstAt stretch (place + 1) rest

/-- The characters up to the first occurrence of a mark, and those behind it. -/
def cutBehind (mark : List Char) : List Char -> Option (List Char × List Char)
  | [] => none
  | c :: rest =>
      if mark.isPrefixOf (c :: rest) then some ([], (c :: rest).drop mark.length)
      else (cutBehind mark rest).map fun parts => (c :: parts.1, parts.2)

/-- Cuts characters at every occurrence of a mark. -/
def cutAll (mark : List Char) : (fuel : Nat) -> List Char -> List (List Char)
  | 0, cs => [cs]
  | fuel + 1, cs =>
      match cutBehind mark cs with
      | some (part, rest) => part :: cutAll mark fuel rest
      | none => [cs]

/-- The pieces of a text between the occurrences of a mark. -/
def piecesOf (mark s : String) : List String :=
  if mark == "" then [""] ++ s.toList.map String.singleton ++ [""]
  else (cutAll mark.toList s.length s.toList).map String.ofList

/-- The text of a text or a character. -/
def textOf? : Value -> Option String
  | .text s => some s
  | .char c => some (String.singleton c)
  | _ => none

/-- A whole number in a base, read from a text. -/
def answerParsed (s : String) (base : Nat) : LibraryAnswer :=
  match Number.readInBase Number.int64 base (Text.trim s) with
  | .ok n => answer (.integer n)
  | .error fault =>
      answerFailure ("Error parsing integer number '" ++ s ++ "': " ++ fault.message)

/-- A floating-point number read from a text. -/
def answerParsedFloat (s : String) : LibraryAnswer :=
  let trimmed := Text.trim s
  match Number.readFloat? trimmed with
  | some x => answer (.float x)
  | none =>
      answerFailure
        ("Error parsing floating-point number '" ++ s ++ "': " ++
          (if trimmed == "" then "cannot parse float from empty string"
          else "invalid float literal"))

/-- The functions on texts that answer another value. -/
def textFunction (s name : String) (rest : List Value) : LibraryAnswer :=
  match name, rest with
  | "len", [] => answerCount s.length
  | "is_empty", [] => answer (.truth (s == ""))
  | "to_upper", [] => answer (.text (Text.upper s))
  | "to_lower", [] => answer (.text (Text.lower s))
  | "min", [.text t] => answer (.text (if t < s then t else s))
  | "max", [.text t] => answer (.text (if s < t then t else s))
  | "chars", [] => answer (.list (s.toList.map .char))
  | "sub_string", [.integer start] =>
      answer (.text (String.ofList (stretchOf s.toList start s.length)))
  | "sub_string", [.integer start, .integer length] =>
      answer (.text (String.ofList (stretchOf s.toList start length)))
  | "sub_string", [.span low high inclusive] =>
      answer (.text (String.ofList (rangeOf s.toList low high inclusive)))
  | "split", [] => answer (.list (s.toList.map .char))
  | "split", [mark] =>
      (textOf? mark).bind fun mark => answer (.list ((piecesOf mark s).map .text))
  | "index_of", [part] =>
      (textOf? part).bind fun part => answer (.integer (firstAt part.toList 0 s.toList))
  | "contains", [part] =>
      (textOf? part).bind fun part => answer (.truth (0 ≤ firstAt part.toList 0 s.toList))
  | "starts_with", [.text part] => answer (.truth (part.toList.isPrefixOf s.toList))
  | "ends_with", [.text part] =>
      answer (.truth (part.toList.reverse.isPrefixOf s.toList.reverse))
  | "parse_int", [] => answerParsed s 10
  | "parse_int", [.integer base] =>
      if 2 ≤ base ∧ base ≤ 36 then answerParsed s base.toNat
      else answerFailure s!"Invalid radix: '{base}'"
  | "parse_float", [] => answerParsedFloat s
  | _, _ => none

/-- The functions on texts that change them. -/
def textChange (s name : String) (rest : List Value) : LibraryAnswer :=
  let becomes (t : String) : LibraryAnswer := answerChanging .unit (.text t)
  match name, rest with
  | "trim", [] => becomes (Text.trim s)
  | "make_upper", [] => becomes (Text.upper s)
  | "make_lower", [] => becomes (Text.lower s)
  | "clear", [] => becomes ""
  | "append", [value] => becomes (s ++ value.printedText)
  | "replace", [part, put] =>
      (textOf? part).bind fun part => (textOf? put).bind fun put =>
        becomes (String.intercalate put (piecesOf part s))
  | "truncate", [.integer count] => becomes (String.ofList (s.toList.take count.toNat))
  | "pop", [] =>
      match s.toList.getLast? with
      | some c => answerChanging (.char c) (.text (String.ofList s.toList.dropLast))
      | none => answer .unit
  | _, _ => none

/-! ## Lists and maps -/

/-- The place of the first item that is equal to a value. -/
def placeOf (value : Value) : (place : Nat) -> List Value -> Except FailureCause (Option Nat)
  | _, [] => .ok none
  | place, item :: rest =>
      match itemEquals item value with
      | .ok true => .ok (some place)
      | .ok false => placeOf value (place + 1) rest
      | .error cause => .error cause

/-- Answers what the place of the first item equal to a value comes to. -/
def answerPlace (result : Option Nat -> Value) (value : Value) (items : List Value) :
    LibraryAnswer :=
  some ((placeOf value 0 items).map fun place => { result := result place })

/-- The functions on lists that answer another value. -/
def listFunction (items : List Value) (name : String) (rest : List Value) : LibraryAnswer :=
  match name, rest with
  | "len", [] => answerCount items.length
  | "is_empty", [] => answer (.truth items.isEmpty)
  | "contains", [value] => answerPlace (fun place => .truth place.isSome) value items
  | "index_of", [value] =>
      answerPlace (fun place => .integer ((place.map Int.ofNat).getD (-1))) value items
  | "get", [.integer index] =>
      answer (((indexIn items.length index).bind fun place => items[place]?).getD .unit)
  | _, _ => none

/-- The functions on lists that change them. -/
def listChange (items : List Value) (name : String) (rest : List Value) : LibraryAnswer :=
  let becomes (changed : List Value) : LibraryAnswer := answerChanging .unit (.list changed)
  match name, rest with
  | "push", [value] => becomes (items ++ [value])
  | "append", [.list more] => becomes (items ++ more)
  | "pop", [] =>
      match items.getLast? with
      | some last => answerChanging last (.list items.dropLast)
      | none => answer .unit
  | "shift", [] =>
      match items with
      | first :: others => answerChanging first (.list others)
      | [] => answer .unit
  | "insert", [.integer index, value] =>
      let place := insertionIn items.length index
      becomes (items.take place ++ value :: items.drop place)
  | "remove", [.integer index] =>
      match indexIn items.length index with
      | some place => answerChanging ((items[place]?).getD .unit) (.list (items.eraseIdx place))
      | none => answer .unit
  | "set", [.integer index, value] =>
      match indexIn items.length index with
      | some place => becomes (items.set place value)
      | none => answer .unit
  | "reverse", [] => becomes items.reverse
  | "clear", [] => becomes []
  | "truncate", [.integer count] => becomes (items.take count.toNat)
  | _, _ => none

/-- The functions on maps that answer another value. -/
def recordFunction (fields : List (String × Value)) (name : String) (rest : List Value) :
    LibraryAnswer :=
  match name, rest with
  | "len", [] => answerCount fields.length
  | "is_empty", [] => answer (.truth fields.isEmpty)
  | "keys", [] => answer (.list (fields.map fun field => .text field.1))
  | "values", [] => answer (.list (fields.map fun field => field.2))
  | "contains", [.text key] => answer (.truth (fields.lookup key).isSome)
  | "get", [.text key] => answer ((fields.lookup key).getD .unit)
  | _, _ => none

/-- The functions on maps that change them. -/
def recordChange (fields : List (String × Value)) (name : String) (rest : List Value) :
    LibraryAnswer :=
  let becomes (changed : List (String × Value)) : LibraryAnswer :=
    answerChanging .unit (.record changed)
  match name, rest with
  | "set", [.text key, value] => becomes (SortedMap.insertEntry key value fields)
  | "remove", [.text key] =>
      answerChanging ((fields.lookup key).getD .unit)
        (.record (fields.filter fun field => field.1 != key))
  | "clear", [] => becomes []
  | _, _ => none

/-- The failure of a range that does not get on. -/
def answerNoStride : LibraryAnswer :=
  some (.error .noStride)

/-- Answers the numbers from one to another by a stride. -/
def answerStairs (start stop stride : Int) : LibraryAnswer :=
  if stride == 0 then answerNoStride else answer (.stairs start stop stride)

/-- Answers the floating-point numbers from one to another by a stride. -/
def answerFloatStairs (start stop stride : Float) : LibraryAnswer :=
  if start + stride == start then answerNoStride else answer (.floatStairs start stop stride)

/-- The functions on ranges. -/
def spanFunction (low high : Int) (inclusive : Bool) (name : String) (rest : List Value) :
    LibraryAnswer :=
  match name, rest with
  | "contains", [.integer n] =>
      answer (.truth (decide (low ≤ n) && (if inclusive then decide (n ≤ high) else n < high)))
  | "start", [] => answer (.integer low)
  | "end", [] => answer (.integer high)
  | "is_inclusive", [] => answer (.truth inclusive)
  | "is_exclusive", [] => answer (.truth !inclusive)
  | "is_empty", [] =>
      answer (.truth (if inclusive then decide (high < low) else decide (high ≤ low)))
  | "range", [.integer stride] => if inclusive then none else answerStairs low high stride
  | _, _ => none

/-! ## Numbers -/

/-- The sign of a number. -/
def signOf (negative positive : Bool) : Value :=
  .integer (if negative then -1 else if positive then 1 else 0)

/-- The functions on whole numbers. -/
def wholeFunction (n : Int) (name : String) (rest : List Value) : LibraryAnswer :=
  match name, rest with
  | "abs", [] =>
      if Number.int64.contains n.natAbs then answer (.integer n.natAbs)
      else answerFailure s!"Negation overflow: -{n}"
  | "sign", [] => answer (signOf (decide (n < 0)) (decide (0 < n)))
  | "to_int", [] => answer (.integer n)
  | "to_float", [] => answer (.float (Number.floatOfInt n))
  | "is_zero", [] => answer (.truth (n == 0))
  | "is_odd", [] => answer (.truth (n % 2 == 1))
  | "is_even", [] => answer (.truth (n % 2 == 0))
  | "min", [.integer m] => answer (.integer (min n m))
  | "max", [.integer m] => answer (.integer (max n m))
  | "min", [.float y] =>
      let x := Number.floatOfInt n
      answer (.float (if x ≤ y then x else y))
  | "max", [.float y] =>
      let x := Number.floatOfInt n
      answer (.float (if x ≥ y then x else y))
  | "range", [.integer m] => answer (.span n m false)
  | "range", [.integer m, .integer stride] => answerStairs n m stride
  | _, _ => none

/-- The functions on floating-point numbers. -/
def floatFunction (x : Float) (name : String) (rest : List Value) : LibraryAnswer :=
  match name, rest with
  | "floor", [] => answer (.float x.floor)
  | "ceiling", [] => answer (.float x.ceil)
  | "round", [] => answer (.float x.round)
  | "int", [] => answer (.float (if x < 0.0 then x.ceil else x.floor))
  | "fraction", [] => answer (.float (Number.fraction x))
  | "to_int", [] =>
      if Number.fitsInt64 x then answer (.integer (Number.truncated x))
      else answerFailure ("Integer overflow: to_int(" ++ plainFormat.write x ++ ")")
  | "abs", [] => answer (.float x.abs)
  | "sign", [] => answer (signOf (decide (x < 0.0)) (decide (0.0 < x)))
  | "is_zero", [] => answer (.truth (x == 0.0))
  | "is_nan", [] => answer (.truth x.isNaN)
  | "range", [.float y, .float stride] => answerFloatStairs x y stride
  | "sqrt", [] => answer (.float x.sqrt)
  | "sin", [] => answer (.float x.sin)
  | "cos", [] => answer (.float x.cos)
  | "tan", [] => answer (.float x.tan)
  | "exp", [] => answer (.float x.exp)
  | "ln", [] => answer (.float x.log)
  | "min", [other] =>
      match other with
      | .float y => answer (.float (if x ≤ y then x else y))
      | .integer m =>
          let y := Number.floatOfInt m
          answer (.float (if x ≤ y then x else y))
      | _ => none
  | "max", [other] =>
      match other with
      | .float y => answer (.float (if x ≥ y then x else y))
      | .integer m =>
          let y := Number.floatOfInt m
          answer (.float (if x ≥ y then x else y))
      | _ => none
  | _, _ => none

/-- The functions on characters. -/
def charFunction (c : Char) (name : String) (rest : List Value) : LibraryAnswer :=
  match name, rest with
  | "to_upper", [] => answer (.char (Text.upperChar c))
  | "to_lower", [] => answer (.char (Text.lowerChar c))
  | "min", [.char d] => answer (.char (if d < c then d else c))
  | "max", [.char d] => answer (.char (if c < d then d else c))
  | "to_int", [] => answerCount c.toNat
  | _, _ => none

/-- The functions on values of every type. -/
def commonFunction (value : Value) (name : String) (rest : List Value) : LibraryAnswer :=
  match name, rest with
  | "type_of", [] => answer (.text value.typeName)
  | "to_string", [] => answer (.text value.printedText)
  | "to_debug", [] => answer (.text value.innerText)
  | "debug", [] => answer .unit
  | _, _ => none

/-- The functions that depend on the type of their first argument. -/
def typedFunction (value : Value) (name : String) (rest : List Value) : LibraryAnswer :=
  match value with
  | .text s => (textFunction s name rest).or (textChange s name rest)
  | .list items => (listFunction items name rest).or (listChange items name rest)
  | .record fields => (recordFunction fields name rest).or (recordChange fields name rest)
  | .span low high inclusive => spanFunction low high inclusive name rest
  | .integer n => wholeFunction n name rest
  | .float x => floatFunction x name rest
  | .char c => charFunction c name rest
  | _ => none

/-- Calls a function of the library. -/
def library (name : String) : List Value -> LibraryAnswer
  | [] =>
      match name with
      | "PI" => answer (.float 3.141592653589793)
      | "E" => answer (.float 2.718281828459045)
      | "debug" => answer .unit
      | _ => none
  | first :: rest => (typedFunction first name rest).or (commonFunction first name rest)

/-- The names of functions that can be read like properties. -/
def propertyNames : List String :=
  ["len", "is_empty", "chars", "start", "end", "is_inclusive", "is_exclusive", "floor",
    "ceiling", "round", "int", "fraction", "is_nan", "is_zero", "is_odd", "is_even"]

/-- The property of a value that is not a map. -/
def property? (value : Value) (name : String) : Option Value :=
  if propertyNames.contains name then
    match typedFunction value name [] with
    | some (.ok effect) => some effect.result
    | _ => none
  else none

end Script
end Landform
