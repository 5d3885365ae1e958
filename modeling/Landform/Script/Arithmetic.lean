import Landform.Script.Failure

namespace Landform
namespace Script

/-!
What the operators of map scripts do to values.

Whole numbers have 64 bits, and a result outside of their range is a failure.  Where a
whole number meets a floating-point number, it becomes one.  Floating-point numbers are
compared up to a relative difference that rounding can make.

Values of different types are different, and none of them is less than the other.  Ranges
and sheets are not compared with values of other types at all, and neither are functions
with functions: there is no operator for them, also where they are parts of other values.
-/

/-- The wording of a failure of an operator on whole numbers. -/
def operatorFailure (words : String) (operator : Operator) (x y : Int) : FailureCause :=
  .arithmetic s!"{words}: {x} {operator.spelling} {y}"

/-- A whole number, if it has 64 bits. -/
def wholeResult (words : String) (operator : Operator) (x y result : Int) :
    Except FailureCause Value :=
  if Number.int64.contains result then .ok (.integer result)
  else .error (operatorFailure words operator x y)

/-- The power of a whole number. -/
def wholePower (x y : Int) : Except FailureCause Value :=
  let overflow := operatorFailure "Exponential overflow" .power x y
  if y < 0 then .error (operatorFailure "Integer raised to a negative power" .power x y)
  else if 4294967295 < y then .error overflow
  else if x.natAbs ≤ 1 then
    .ok (.integer (if x == -1 && y % 2 == 0 || y == 0 then 1 else x))
  else if 63 < y then .error overflow
  else wholeResult "Exponential overflow" .power x y (Int.pow x y.toNat)

/-- A whole number with its bits moved to the left; bits moved out are lost. -/
def shiftedLeft (x y : Int) : Int :=
  if y < 0 then (if -64 < y then x / Int.pow 2 y.natAbs else if x < 0 then -1 else 0)
  else if y < 64 then Int.bmod (x * Int.pow 2 y.toNat) 18446744073709551616
  else 0

/-- A whole number with its bits moved to the right; the sign stays. -/
def shiftedRight (x y : Int) : Int :=
  shiftedLeft x (-y)

/-- An operator on the bits of two whole numbers. -/
def onBits (f : Int64 -> Int64 -> Int64) (x y : Int) : Value :=
  .integer (f (Int64.ofInt x) (Int64.ofInt y)).toInt

/-- The answer of a comparison; nothing for an operator that does not compare. -/
def compared? (operator : Operator) (less equal greater : Bool) : Option Value :=
  match operator with
  | .equal => some (.truth equal)
  | .notEqual => some (.truth !equal)
  | .less => some (.truth less)
  | .lessEqual => some (.truth (less || equal))
  | .greater => some (.truth greater)
  | .greaterEqual => some (.truth (greater || equal))
  | _ => none

/-- The result of an operator, or nothing for values that it does not take. -/
abbrev Combination := Option (Except FailureCause Value)

/-- The truth value of a result; everything else is none. -/
def truthIn : Value -> Bool
  | .truth value => value
  | _ => false

/-- A combination that cannot fail. -/
def settled (value : Option Value) : Combination :=
  value.map .ok

/-- An operator on two whole numbers. -/
def combineWhole (operator : Operator) (x y : Int) : Combination :=
  match operator with
  | .add => some (wholeResult "Addition overflow" operator x y (x + y))
  | .subtract => some (wholeResult "Subtraction overflow" operator x y (x - y))
  | .multiply => some (wholeResult "Multiplication overflow" operator x y (x * y))
  | .divide =>
      if y == 0 then some (.error (operatorFailure "Division by zero" operator x y))
      else some (wholeResult "Division overflow" operator x y (Int.tdiv x y))
  | .modulo =>
      if y == 0 || (y == -1 && x == Number.int64.low) then
        some (.error (operatorFailure "Modulo division by zero or overflow" operator x y))
      else some (.ok (.integer (Int.tmod x y)))
  | .power => some (wholePower x y)
  | .shiftLeft => some (.ok (.integer (shiftedLeft x y)))
  | .shiftRight => some (.ok (.integer (shiftedRight x y)))
  | .bitAnd => some (.ok (onBits (· &&& ·) x y))
  | .bitOr => some (.ok (onBits (· ||| ·) x y))
  | .bitXor => some (.ok (onBits (· ^^^ ·) x y))
  | .span => some (.ok (.span x y false))
  | .spanThrough => some (.ok (.span x y true))
  | _ => settled (compared? operator (decide (x < y)) (x == y) (decide (y < x)))

/-- What the difference of two numbers is measured by: the larger size, or one beside zero. -/
def floatScale (x y : Float) : Float :=
  if x * y == 0.0 then 1.0
  else
    let larger := if x.abs < y.abs then y.abs else x.abs
    if x.isNaN then y.abs else if y.isNaN then x.abs else larger

/--
The answer of a comparison of floating-point numbers; nothing for an operator that does not
compare.  Numbers that have no difference, such as two infinite ones, are in no relation.
-/
def comparedFloats? (operator : Operator) (x y : Float) : Option Value :=
  let scale := floatScale x y
  let apart := (x - y).abs / scale
  let above := (x - y) / scale
  let below := (y - x) / scale
  match operator with
  | .equal => some (.truth (decide (apart ≤ Value.negligible)))
  | .notEqual => some (.truth (decide (Value.negligible < apart)))
  | .less => some (.truth (decide (Value.negligible < below)))
  | .lessEqual => some (.truth (decide (-Value.negligible ≤ below)))
  | .greater => some (.truth (decide (Value.negligible < above)))
  | .greaterEqual => some (.truth (decide (-Value.negligible ≤ above)))
  | _ => none

/-- An operator on two floating-point numbers. -/
def combineFloat (operator : Operator) (x y : Float) : Combination :=
  match operator with
  | .add => some (.ok (.float (x + y)))
  | .subtract => some (.ok (.float (x - y)))
  | .multiply => some (.ok (.float (x * y)))
  | .divide => some (.ok (.float (x / y)))
  | .modulo => some (.ok (.float (Number.remainder x y)))
  | .power => some (.ok (.float (x.pow y)))
  | _ => settled (comparedFloats? operator x y)

/--
An operator on a whole number and a floating-point number.  The two are equal unless they
are different, also if they have no difference.
-/
def combineNumbers (operator : Operator) (x y : Float) : Combination :=
  match operator with
  | .equal =>
      settled ((comparedFloats? .notEqual x y).map fun differ => .truth !(truthIn differ))
  | _ => combineFloat operator x y

/-- An operator on two truth values. -/
def combineTruth (operator : Operator) (x y : Bool) : Combination :=
  match operator with
  | .bitAnd => some (.ok (.truth (x && y)))
  | .bitOr => some (.ok (.truth (x || y)))
  | .bitXor => some (.ok (.truth (x != y)))
  | _ => settled (compared? operator (!x && y) (x == y) (x && !y))

/-- Takes the first occurrences of a stretch of characters out of others. -/
def withoutStretch (stretch : List Char) : (fuel : Nat) -> List Char -> List Char
  | 0, cs => cs
  | _, [] => []
  | fuel + 1, c :: rest =>
      if stretch.isEmpty then c :: rest
      else if stretch.isPrefixOf (c :: rest) then
        withoutStretch stretch fuel ((c :: rest).drop stretch.length)
      else c :: withoutStretch stretch fuel rest

/-- An operator on two texts. -/
def combineText (operator : Operator) (x y : String) : Combination :=
  match operator with
  | .add => some (.ok (.text (x ++ y)))
  | .subtract =>
      some (.ok (.text (String.ofList (withoutStretch y.toList x.length x.toList))))
  | _ => settled (compared? operator (decide (x < y)) (x == y) (decide (y < x)))

/-- An operator on two values of different types. -/
def combineMixed (operator : Operator) (a b : Value) : Combination :=
  match operator, a, b with
  | .add, .text x, y => some (.ok (.text (x ++ y.printedText)))
  | .add, x, .text y => some (.ok (.text (x.printedText ++ y)))
  | _, _, _ =>
      if a.isUncompared || b.isUncompared then none
      else settled (compared? operator false false false)

/-- The truth value that an operator of equality makes of equality. -/
def asEquality (operator : Operator) (equal : Except FailureCause Bool) : Combination :=
  match operator with
  | .equal => some (equal.map .truth)
  | .notEqual => some (equal.map fun same => .truth !same)
  | _ => none

/-- The failure to compare two values. -/
def noEquality (a b : Value) : FailureCause :=
  .noFunction (Value.signatureText Operator.equal.spelling [a, b])

mutual

/-- An operator on two values. -/
def combine (operator : Operator) : Value -> Value -> Combination
  | .unit, .unit =>
      match operator with
      | .equal => some (.ok (.truth true))
      | .notEqual | .less | .lessEqual | .greater | .greaterEqual => some (.ok (.truth false))
      | _ => none
  | .truth x, .truth y => combineTruth operator x y
  | .integer x, .integer y => combineWhole operator x y
  | .float x, .float y => combineFloat operator x y
  | .integer x, .float y => combineNumbers operator (Number.floatOfInt x) y
  | .float x, .integer y => combineNumbers operator x (Number.floatOfInt y)
  | .text x, .text y => combineText operator x y
  | .char x, .char y =>
      match operator with
      | .subtract => none
      | _ => combineText operator (String.singleton x) (String.singleton y)
  | .text x, .char y => combineText operator x (String.singleton y)
  | .char x, .text y =>
      match operator with
      | .subtract => none
      | _ => combineText operator (String.singleton x) y
  | .list xs, .list ys =>
      match operator with
      | .add => some (.ok (.list (xs ++ ys)))
      | _ =>
          asEquality operator
            (if xs.length == ys.length then itemsEqual xs ys else .ok false)
  | .record xs, .record ys =>
      match operator with
      | .add =>
          some (.ok (.record (ys.foldl (fun all y => SortedMap.insertEntry y.1 y.2 all) xs)))
      | _ =>
          asEquality operator
            (if xs.length == ys.length then fieldsEqual xs ys else .ok false)
  | .span low high inclusive, .span low' high' inclusive' =>
      if inclusive == inclusive' then
        asEquality operator (.ok (low == low' && high == high'))
      else none
  | .callable .., .callable .. => none
  | a, b => combineMixed operator a b

/--
Whether items are equal one by one.  Items of different types that cannot be compared are
different; those of one type that cannot be compared are a failure.
-/
def itemsEqual : List Value -> List Value -> Except FailureCause Bool
  | x :: xs, y :: ys =>
      match combine .equal x y with
      | some (.ok equal) => if truthIn equal then itemsEqual xs ys else .ok false
      | some (.error cause) => .error cause
      | none =>
          if x.fullTypeName == y.fullTypeName then .error (noEquality x y) else .ok false
  | _, _ => .ok true

/--
Whether fields are equal to those of their names; values that cannot be compared are a
failure.
-/
def fieldsEqual : List (String × Value) -> List (String × Value) -> Except FailureCause Bool
  | [], _ => .ok true
  | (name, x) :: xs, ys =>
      match ys.lookup name with
      | none => .ok false
      | some y =>
          match combine .equal x y with
          | some (.ok equal) => if truthIn equal then fieldsEqual xs ys else .ok false
          | some (.error cause) => .error cause
          | none => .error (noEquality x y)

end

/-- Whether an item of a list is equal to a value, as items of two lists are. -/
def itemEquals (item value : Value) : Except FailureCause Bool :=
  itemsEqual [item] [value]

/-- An operator joined with an assignment: a list also takes a single item. -/
def combineInto (operator : Operator) (current value : Value) : Combination :=
  match operator, current, value with
  | .add, .list xs, .list ys => some (.ok (.list (xs ++ ys)))
  | .add, .list xs, item => some (.ok (.list (xs ++ [item])))
  | _, _, _ => combine operator current value

/-- An operator on one value. -/
def signed (operator : SignOperator) (value : Value) : Combination :=
  match operator, value with
  | .minus, .integer x =>
      if Number.int64.contains (-x) then some (.ok (.integer (-x)))
      else some (.error (.arithmetic s!"Negation overflow: -{x}"))
  | .minus, .float x => some (.ok (.float (-x)))
  | .plus, .integer x => some (.ok (.integer x))
  | .plus, .float x => some (.ok (.float x))
  | .not, .truth x => some (.ok (.truth !x))
  | _, _ => none

end Script
end Landform
