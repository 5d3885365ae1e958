import Landform.Script.Expression
import Landform.Number.Floating
import Landform.SortedMap
import Landform.Text.Quoted

namespace Landform
namespace Script

/-!
Values of map scripts and their texts.

A value has three texts.  The shown text stands for it in messages and in the log; inside
of a list or a map, texts and characters are quoted.  The printed text is what is joined to
other texts.  The inner text stands for a value inside of a printed list or map.
-/

/--
What a function that is a value calls: the function that has its name when it is called, the
function of the script that had its name when the value was made, or a closure.  The first
parameters of a closure are the names it has taken from around it.
-/
inductive Callee where
  | byName (name : String)
  | linked (name : String)
  | closure (function : Function) (taken : Nat)
  deriving Inhabited

/--
A value.  Fields of a map are in ascending order of their names.  A sheet is known by its
number, and so is a cell that several variables share.
-/
inductive Value where
  | unit
  | truth (value : Bool)
  | integer (value : Int)
  | float (value : Float)
  | char (value : Char)
  | text (value : String)
  | list (items : List Value)
  | record (fields : List (String × Value))
  | span (low high : Int) (inclusive : Bool)
  | stairs (start stop stride : Int)
  | floatStairs (start stop stride : Float)
  | callable (callee : Callee) (bound : List Value)
  | sheet (number : Nat)
  | cell (number : Nat)
  deriving Inhabited

namespace Literal

mutual

/-- The value a literal stands for. -/
def toValue : Literal -> Value
  | unit => .unit
  | truth value => .truth value
  | integer value => .integer value
  | float value => .float value
  | char value => .char value
  | text value => .text value
  | list items => .list (toValues items)
  | record fields => .record (SortedMap.ofList (toFields fields)).entries

/-- The values literals stand for. -/
def toValues : List Literal -> List Value
  | [] => []
  | first :: rest => first.toValue :: toValues rest

/-- The fields that the fields of a literal stand for. -/
def toFields : List (String × Literal) -> List (String × Value)
  | [] => []
  | (name, first) :: rest => (name, first.toValue) :: toFields rest

end

end Literal

/-! ## Texts of floating-point numbers -/

/-- The positional text of a floating-point number. -/
def positionalFormat : Number.FloatFormat where
  tie := .up
  isPositional := fun _ => true
  keepFraction := true
  notANumber := "NaN"
  infinity := "inf"

/-- The text of a floating-point number with an exponent. -/
def exponentFormat : Number.FloatFormat where
  tie := .up
  isPositional := fun _ => false
  keepFraction := true
  notANumber := "NaN"
  infinity := "inf"

/-- The text of a floating-point number inside of a list or a map. -/
def innerFormat : Number.FloatFormat where
  tie := .up
  isPositional := fun point => decide (-4 < point) && decide (point ≤ 16)
  keepFraction := true
  notANumber := "NaN"
  infinity := "inf"

/-- The positional text of a floating-point number, without a point for a whole number. -/
def plainFormat : Number.FloatFormat where
  tie := .up
  isPositional := fun _ => true
  keepFraction := false
  notANumber := "NaN"
  infinity := "inf"

/-- The largest size that is written without an exponent. -/
def largestPositional : Float := 9999999827968.0

/-- The smallest size that is written without an exponent. -/
def smallestPositional : Float := 9.9999998245167e-14

/-- The text of a floating-point number; zero has no sign. -/
def floatText (x : Float) : String :=
  let size := x.abs
  if size == 0.0 then "0.0"
  else if decide (largestPositional < size) || decide (size < smallestPositional) then
    exponentFormat.write x
  else positionalFormat.write x

/-! ## Names of types -/

namespace Value

/-- The full name of the type of sheets. -/
def sheetTypeName : String := "mg_runtime::map_layer::MapLayer"

/-- The full name of the type of a value. -/
def fullTypeName : Value -> String
  | unit => "()"
  | truth _ => "bool"
  | integer _ => "i64"
  | float _ => "f64"
  | char _ => "char"
  | text _ => "string"
  | list _ => "array"
  | record _ => "map"
  | span _ _ false => "core::ops::range::Range<i64>"
  | span _ _ true => "core::ops::range::RangeInclusive<i64>"
  | stairs _ _ _ => "rhai::packages::iter_basic::StepRange<i64>"
  | floatStairs _ _ _ => "rhai::packages::iter_basic::StepRange<f64>"
  | callable _ _ => "Fn"
  | sheet _ => sheetTypeName
  | cell _ => "()"

/-- The name of the type of a value. -/
def typeName : Value -> String
  | span _ _ false => "range"
  | span _ _ true => "range="
  | stairs _ _ _ | floatStairs _ _ _ => "range"
  | sheet _ => "MapLayer"
  | other => other.fullTypeName

/-- The name of the type of a value among the arguments of a call. -/
def argumentTypeName : Value -> String
  | text _ => "&str | ImmutableString | String"
  | other => other.typeName

/-- Whether a value is missing. -/
def isUnit : Value -> Bool
  | unit => true
  | _ => false

/-- Whether the type of a value is one that is not even compared with others. -/
def isUncompared : Value -> Bool
  | span _ _ _ | stairs _ _ _ | floatStairs _ _ _ | sheet _ => true
  | _ => false

/-- The words for a function and the types of its arguments. -/
def signatureText (name : String) (arguments : List Value) : String :=
  name ++ " (" ++ String.intercalate ", " (arguments.map argumentTypeName) ++ ")"

/-! ## Texts of values -/

/-- The text of a range; one up to the largest whole number has no upper end. -/
def spanText (low high : Int) (inclusive : Bool) : String :=
  toString low ++ (if inclusive then "..=" else "..") ++
    (if high == Number.int64.high then "" else toString high)

/-- Texts one after another, with a comma in between. -/
def commaSeparated (texts : List String) : String :=
  String.intercalate ", " texts

/-- The text of a function that is a value. -/
def callableText : Callee -> String
  | .byName name | .linked name => "Fn(" ++ name ++ ")"
  | .closure _ _ => "Fn(anon)"

/-- The beginning of the quoted text of a function: what links it, and its name. -/
def quotedCallee : Callee -> String
  | .byName name => "Fn(" ++ Text.quoted name
  | .linked name => "Fn*+(" ++ Text.quoted name
  | .closure _ _ => "Fn*+(" ++ Text.quoted "anon"

mutual

/-- The text of a value inside of a list or a map that is shown. -/
def quotedText : Value -> String
  | unit => "()"
  | truth value => if value then "true" else "false"
  | integer value => toString value
  | float value => innerFormat.write value
  | char value => Text.quotedCharacter value
  | text value => Text.quoted value
  | list items => "[" ++ commaSeparated (quotedTexts items) ++ "]"
  | record fields => "#\x7b" ++ commaSeparated (quotedFields fields) ++ "\x7d"
  | span low high inclusive => spanText low high inclusive
  | callable callee bound =>
      quotedCallee callee ++ String.join ((quotedTexts bound).map (", " ++ ·)) ++ ")"
  | other => other.fullTypeName

/-- The texts of values inside of a list that is shown. -/
def quotedTexts : List Value -> List String
  | [] => []
  | first :: rest => quotedText first :: quotedTexts rest

/-- The texts of fields inside of a map that is shown. -/
def quotedFields : List (String × Value) -> List String
  | [] => []
  | (name, first) :: rest => (Text.quoted name ++ ": " ++ quotedText first) :: quotedFields rest

end

/-- The text that stands for a value in messages. -/
def shownText : Value -> String
  | unit => ""
  | char value => String.singleton value
  | text value => value
  | float value => floatText value
  | callable callee _ => callableText callee
  | other => other.quotedText

mutual

/-- The text of a value inside of a list or a map that is printed. -/
def innerText : Value -> String
  | char value => String.singleton value
  | list items => "[" ++ commaSeparated (innerTexts items) ++ "]"
  | record fields => "#\x7b" ++ commaSeparated (innerFields fields) ++ "\x7d"
  | callable callee _ => callableText callee
  | stairs start stop stride => (stairs start stop stride).typeName
  | floatStairs start stop stride => (floatStairs start stop stride).typeName
  | sheet number => (sheet number).typeName
  | other => other.quotedText

/-- The texts of values inside of a list that is printed. -/
def innerTexts : List Value -> List String
  | [] => []
  | first :: rest => innerText first :: innerTexts rest

/-- The texts of fields inside of a map that is printed. -/
def innerFields : List (String × Value) -> List String
  | [] => []
  | (name, first) :: rest => (Text.quoted name ++ ": " ++ innerText first) :: innerFields rest

end

/-- The printed text of a value. -/
def printedText : Value -> String
  | list items => (list items).innerText
  | record fields => (record fields).innerText
  | stairs start stop stride => (stairs start stop stride).typeName
  | floatStairs start stop stride => (floatStairs start stop stride).typeName
  | sheet number => (sheet number).typeName
  | other => other.shownText

/-- The part of a floating-point number behind its point that counts as none. -/
def negligible : Float := 2.220446049250313e-16

/-- The text that stands for a value in the log; a whole number is written without a point. -/
def logText : Value -> String
  | float value =>
      if (Number.fraction value).abs < negligible then toString (Number.truncated value)
      else floatText value
  | other => other.shownText

/-! ## Values as conditions -/

/-- Whether a value counts as an assent. -/
def assents : Value -> Bool
  | unit => false
  | truth value => value
  | integer value => value != 0
  | float value => value != 0.0
  | _ => true

end Value
end Script
end Landform
