namespace Landform
namespace Number

/-!
The shortest decimal text of a floating-point number.  A finite number stands for all
reals that are rounded to it.  Among the decimals in that interval the ones with the
fewest digits are considered, and of these the one nearest to the number is chosen.

The number is taken apart into an integer times a power of two, and everything after that
is exact arithmetic on natural numbers.
-/

/-- A positive finite number as `mantissa * 2 ^ exponent`. -/
structure BinaryParts where
  mantissa : Nat
  exponent : Int
  nearerBelow : Bool
  deriving DecidableEq

/-- The sign bit of a number. -/
def isNegative (x : Float) : Bool :=
  x.toBits >>> 63 == 1

/-- The magnitude of a finite number. -/
def binaryParts (x : Float) : BinaryParts :=
  let bits := x.toBits
  let field := ((bits >>> 52) &&& 0x7ff).toNat
  let fraction := (bits &&& 0xfffffffffffff).toNat
  if field == 0 then ⟨fraction, -1074, false⟩
  else ⟨fraction + 4503599627370496, (field : Int) - 1075, fraction == 0 && field > 1⟩

/-- What is done when two decimals are equally near. -/
inductive TieRule where
  | up
  | toEven
  deriving DecidableEq

/--
A positive number as decimal digits: the value is `0.d₁d₂… * 10 ^ point`.  The first and
the last digit are not zero.
-/
structure DecimalDigits where
  digits : List Char
  point : Int
  deriving DecidableEq

/--
A positive real with the interval around it, all four times their value and over one
common denominator.
-/
structure Rounding where
  value : Nat
  low : Nat
  high : Nat
  unit : Nat
  closed : Bool

/-- The interval of the reals that are rounded to a number. -/
def rounding (parts : BinaryParts) : Rounding :=
  let scale (n : Nat) : Nat := n * Nat.pow 2 parts.exponent.toNat
  let below := if parts.nearerBelow then 1 else 2
  { value := scale (4 * parts.mantissa)
    low := scale (4 * parts.mantissa - below)
    high := scale (4 * parts.mantissa + 2)
    unit := 4 * Nat.pow 2 (-parts.exponent).toNat
    closed := parts.mantissa % 2 == 0 }

/-- The interval multiplied by a power of ten. -/
def Rounding.shift (r : Rounding) (power : Int) : Rounding :=
  let up := Nat.pow 10 power.toNat
  { r with
    value := r.value * up
    low := r.low * up
    high := r.high * up
    unit := r.unit * Nat.pow 10 (-power).toNat }

/-- Whether a whole number lies in the interval. -/
def Rounding.contains (r : Rounding) (n : Nat) : Bool :=
  if r.closed then r.low ≤ n * r.unit && n * r.unit ≤ r.high
  else r.low < n * r.unit && n * r.unit < r.high

/-- The whole number of the interval nearest to the value, if there is one. -/
def Rounding.nearest? (r : Rounding) (tie : TieRule) : Option Nat :=
  let down := r.value / r.unit
  let up := down + 1
  let gapDown := r.value - down * r.unit
  let gapUp := up * r.unit - r.value
  match r.contains down, r.contains up with
  | true, true =>
      if gapDown < gapUp then some down
      else if gapUp < gapDown then some up
      else if tie == .toEven && down % 2 == 0 then some down
      else some up
  | true, false => some down
  | false, true => some up
  | false, false => none

/-- The number of digits of the whole part of a fraction. -/
def wholeDigits (numerator denominator : Nat) : Int :=
  (Nat.toDigits 10 (numerator / denominator)).length

/-- The exponent of the leading digit of a positive number, plus one. -/
def leadingPoint (r : Rounding) : Int :=
  if r.value ≥ r.unit then wholeDigits r.value r.unit
  else
    let tens := wholeDigits r.unit (max r.value 1)
    if r.value * Nat.pow 10 (tens.toNat - 1) ≥ r.unit then 2 - tens else 1 - tens

/-- The shortest digits with at least the given number of places, for some more attempts. -/
def searchDigits (r : Rounding) (tie : TieRule) (point : Int) :
    (attempts places : Nat) -> Nat × Int
  | 0, places => (r.value / r.unit, point - places)
  | attempts + 1, places =>
      match (r.shift (places - point)).nearest? tie with
      | some n => (n, point - places)
      | none => searchDigits r tie point attempts (places + 1)

/-- The digits of a whole number without the zeros at its end. -/
def significantDigits (n : Nat) : List Char :=
  ((Nat.toDigits 10 n).reverse.dropWhile fun c => c == '0').reverse

/-- The shortest digits of a number that is finite and not zero. -/
def shortestDigits (tie : TieRule) (x : Float) : DecimalDigits :=
  let r := rounding (binaryParts x)
  let (n, exponent) := searchDigits r tie (leadingPoint r) 17 1
  { digits := significantDigits n
    point := exponent + (Nat.toDigits 10 n).length }

/-- The decisions of a text form for floating-point numbers. -/
structure FloatFormat where
  tie : TieRule
  isPositional : (point : Int) -> Bool
  keepFraction : Bool
  signsExponent : Bool := false
  notANumber : String
  infinity : String

namespace FloatFormat

/-- Digits with the decimal point in its place. -/
def positional (format : FloatFormat) (decimal : DecimalDigits) : String :=
  let zeros (n : Nat) : List Char := List.replicate n '0'
  let count := decimal.digits.length
  let text :=
    if decimal.point ≤ 0 then
      ['0', '.'] ++ zeros (-decimal.point).toNat ++ decimal.digits
    else if (count : Int) ≤ decimal.point then
      decimal.digits ++ zeros (decimal.point.toNat - count) ++
        (if format.keepFraction then ['.', '0'] else [])
    else
      decimal.digits.take decimal.point.toNat ++ ['.'] ++
        decimal.digits.drop decimal.point.toNat
  String.ofList text

/-- Digits with one of them before the point, and the exponent of ten. -/
def exponential (format : FloatFormat) (decimal : DecimalDigits) : String :=
  let lead := decimal.digits.take 1
  let rest := decimal.digits.drop 1
  String.ofList (lead ++ (if rest.isEmpty then [] else '.' :: rest)) ++
    "e" ++ (if format.signsExponent && decide (0 < decimal.point) then "+" else "") ++
    toString (decimal.point - 1)

/-- The text of a number. -/
def write (format : FloatFormat) (x : Float) : String :=
  let sign := if isNegative x then "-" else ""
  if x.isNaN then format.notANumber
  else if x.isInf then sign ++ format.infinity
  else if x == 0.0 then sign ++ (if format.keepFraction then "0.0" else "0")
  else
    let decimal := shortestDigits format.tie x
    sign ++
      (if format.isPositional decimal.point then format.positional decimal
      else format.exponential decimal)

end FloatFormat

end Number
end Landform
