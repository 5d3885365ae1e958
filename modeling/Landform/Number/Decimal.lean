import Landform.Number.Bounded

namespace Landform
namespace Number

/-!
Reading whole numbers in decimal notation: an optional sign, then one digit or more,
and nothing else.  The value has to lie in the range of the reader.  The digits are
read from the left and the first offence decides which fault is reported.
-/

/-- Why a text is not a whole number of the range. -/
inductive DecimalFault where
  | empty
  | invalidDigit
  | tooLarge
  | tooSmall
  deriving DecidableEq

namespace DecimalFault

/-- The wording of a fault. -/
def message : DecimalFault -> String
  | .empty => "cannot parse integer from empty string"
  | .invalidDigit => "invalid digit found in string"
  | .tooLarge => "number too large to fit in target type"
  | .tooSmall => "number too small to fit in target type"

end DecimalFault

/-- The value of a digit in a base of at most 36, letters of either case included. -/
def digitIn (base : Nat) (c : Char) : Option Nat :=
  let value :=
    if '0' ≤ c && c ≤ '9' then c.toNat - '0'.toNat
    else if 'a' ≤ c && c ≤ 'z' then c.toNat - 'a'.toNat + 10
    else if 'A' ≤ c && c ≤ 'Z' then c.toNat - 'A'.toNat + 10
    else 36
  if value < base then some value else none

/--
Extends a number digit by digit.  A digit is looked at before the number grown so far
is multiplied, so an invalid digit is reported in preference to an overflow at it.
-/
def readDigits (span : Span) (base : Nat) (negative : Bool) :
    Int -> List Char -> Except DecimalFault Int
  | value, [] => .ok value
  | value, c :: rest =>
      match digitIn base c with
      | none => .error .invalidDigit
      | some digit =>
          let grown := value * base + (if negative then -(digit : Int) else digit)
          if span.contains grown then readDigits span base negative grown rest
          else .error (if negative then .tooSmall else .tooLarge)

/--
Reads a whole number in the given base.  A minus sign is a sign only if the range has
negative numbers; elsewhere it is an invalid digit.
-/
def readInBase (span : Span) (base : Nat) (s : String) : Except DecimalFault Int :=
  match s.toList with
  | [] => .error .empty
  | ['+'] | ['-'] => .error .invalidDigit
  | '+' :: digits => readDigits span base false 0 digits
  | '-' :: digits =>
      if span.low < 0 then readDigits span base true 0 digits
      else .error .invalidDigit
  | digits => readDigits span base false 0 digits

/-- Reads a whole number in decimal notation. -/
def readDecimal (span : Span) (s : String) : Except DecimalFault Int :=
  readInBase span 10 s

/-- The number a text denotes, if it denotes one of the range. -/
def readDecimal? (span : Span) (s : String) : Option Int :=
  (readDecimal span s).toOption

end Number
end Landform
