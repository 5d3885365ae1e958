import Landform.Number.Bounded
import Landform.Number.Shortest

namespace Landform
namespace Number

/-!
Floating-point numbers and how they come from, and go back to, integers and decimals.  The
value of a decimal is the floating-point number nearest to it; the remainder of a division
is exact.
-/

/-- The number nearest to an integer of 64 bits. -/
def floatOfInt (n : Int) : Float :=
  (Int64.ofInt n).toFloat

/-- The integer of 64 bits a number is cut to; a number outside is moved to the nearest end. -/
def truncated (x : Float) : Int :=
  x.toInt64.toInt

/-- Whether a number does not lie outside the range of integers of 64 bits. -/
def fitsInt64 (x : Float) : Bool :=
  !(decide (9223372036854775807.0 < x) || decide (x < -9223372036854775808.0))

/-- What a number has behind its point. -/
def fraction (x : Float) : Float :=
  if x.isNaN || x.isInf then 0.0 / 0.0
  else if x.abs < 4503599627370496.0 then x - (if x < 0.0 then x.ceil else x.floor)
  else 0.0

/-- The number nearest to `digits * 10 ^ power`. -/
def ofDecimal (digits : Nat) (power : Int) : Float :=
  if digits == 0 then 0.0
  else if power > 400 then 1.0 / 0.0
  else if power < -400 - ((Nat.toDigits 10 digits).length : Int) then 0.0
  else Float.ofScientific digits (power < 0) power.natAbs

/-- The number `mantissa * 2 ^ exponent` for a mantissa whose lower bits are zero. -/
def ofBinary (mantissa : Nat) (exponent : Int) : Float :=
  let surplus := mantissa.log2 - 52
  Float.scaleB (Float.ofNat (mantissa >>> surplus)) (exponent + surplus)

/-- The exact remainder of a division; it has the sign of the dividend. -/
def remainder (x y : Float) : Float :=
  if x.isNaN || y.isNaN || x.isInf || y == 0.0 then 0.0 / 0.0
  else if y.isInf || x == 0.0 then x
  else
    let a := binaryParts x
    let b := binaryParts y
    let low := min a.exponent b.exponent
    let rest :=
      (a.mantissa * Nat.pow 2 (a.exponent - low).toNat) %
        (b.mantissa * Nat.pow 2 (b.exponent - low).toNat)
    let size := ofBinary rest low
    if isNegative x then -size else size

/-- The parts of a decimal number as they are written. -/
structure DecimalText where
  whole : List Char
  fraction : List Char
  power : Int

/-- The value of decimal digits. -/
def digitsValue (digits : List Char) : Nat :=
  digits.foldl (fun n c => n * 10 + (c.toNat - '0'.toNat)) 0

/-- The number a decimal stands for. -/
def DecimalText.value (decimal : DecimalText) : Float :=
  ofDecimal (digitsValue (decimal.whole ++ decimal.fraction))
    (decimal.power - decimal.fraction.length)

/-- The exponent of a decimal: an `e`, a sign if wanted, and one digit or more. -/
def readPower? : List Char -> Option Int
  | [] => some 0
  | 'e' :: rest | 'E' :: rest =>
      let (negative, digits) :=
        match rest with
        | '-' :: digits => (true, digits)
        | '+' :: digits => (false, digits)
        | digits => (false, digits)
      if digits.isEmpty || !digits.all Char.isDigit then none
      else
        let size : Int := min (digitsValue digits) 1000000
        some (if negative then -size else size)
  | _ :: _ => none

/-- A decimal without its sign, cut into its parts. -/
def readDecimalText? (cs : List Char) : Option DecimalText :=
  let whole := cs.takeWhile Char.isDigit
  let rest := cs.dropWhile Char.isDigit
  let (fraction, after) :=
    match rest with
    | '.' :: more => (more.takeWhile Char.isDigit, more.dropWhile Char.isDigit)
    | _ => ([], rest)
  if whole.isEmpty && fraction.isEmpty then none
  else (readPower? after).map fun power => ⟨whole, fraction, power⟩

/-- The magnitude a text without a sign stands for. -/
def readMagnitude? (cs : List Char) : Option Float :=
  match String.ofList (cs.map Char.toLower) with
  | "inf" | "infinity" => some (1.0 / 0.0)
  | "nan" => some (0.0 / 0.0)
  | _ => (readDecimalText? cs).map DecimalText.value

/-- The number a text stands for, if it is the text of a number. -/
def readFloat? (s : String) : Option Float :=
  match s.toList with
  | '-' :: rest => (readMagnitude? rest).map fun x => -x
  | '+' :: rest => readMagnitude? rest
  | cs => readMagnitude? cs

end Number
end Landform
