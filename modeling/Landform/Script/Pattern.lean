import Landform.Script.Value

namespace Landform
namespace Script

/-!
The patterns of switches: which cases a value falls into.

A pattern either names a value or stands for a range of numbers.  What is named is looked
for first, and more strictly than `==` compares: a floating-point number is never named by a
whole one.  A range holds floating-point numbers as well, and it holds the range that is
written like it.
-/

namespace Value

mutual

/--
Whether two values are the same down to their bits: no number is the same as one of another
kind, and zero is not the same as its negative.
-/
def isSameAs : Value -> Value -> Bool
  | unit, unit => true
  | truth x, truth y => x == y
  | integer x, integer y => x == y
  | float x, float y => x.toBits == y.toBits
  | char x, char y => x == y
  | text x, text y => x == y
  | list xs, list ys => sameItems xs ys
  | record xs, record ys => sameFields xs ys
  | _, _ => false

/-- Whether two lists have the same items. -/
def sameItems : List Value -> List Value -> Bool
  | [], [] => true
  | x :: xs, y :: ys => isSameAs x y && sameItems xs ys
  | _, _ => false

/-- Whether two maps have the same fields. -/
def sameFields : List (String × Value) -> List (String × Value) -> Bool
  | [], [] => true
  | (name, x) :: xs, (name', y) :: ys => name == name' && isSameAs x y && sameFields xs ys
  | _, _ => false

end

end Value

/-- Whether a value is one a pattern names. -/
def CasePattern.isNamed (subject : Value) : CasePattern -> Bool
  | .value literal => literal.toValue.isSameAs subject
  | .between .. => false

/-- Whether a value lies in the range of a pattern, or is that range itself. -/
def CasePattern.isBetween (subject : Value) : CasePattern -> Bool
  | .value _ => false
  | .between low high inclusive =>
      match subject with
      | .integer n =>
          decide (low ≤ n) && (if inclusive then decide (n ≤ high) else decide (n < high))
      | .float x =>
          let top := Number.floatOfInt high
          decide (Number.floatOfInt low ≤ x) &&
            (if inclusive then decide (x ≤ top) else decide (x < top))
      | .span low' high' inclusive' =>
          isRange (.between low high inclusive) && low == low' && high == high' &&
            inclusive == inclusive'
      | _ => false

/-- The patterns of a case. -/
def Case.patterns : Case -> List CasePattern
  | .mk patterns _ _ => patterns

/-- The cases that are taken when no other is. -/
def defaultCases (cases : List Case) : List Case :=
  cases.filter fun entry => entry.patterns.isEmpty

/-- The cases with a fitting pattern, one for every such pattern. -/
def casesBy (fits : CasePattern -> Bool) (cases : List Case) : List Case :=
  cases.flatMap fun entry => (entry.patterns.filter fits).map fun _ => entry

/--
The cases that a value may fall into, in the order in which they are tried.  Ranges are
only looked at if no pattern names the value.
-/
def casesFor (subject : Value) (cases : List Case) : List Case :=
  let named := casesBy (CasePattern.isNamed subject) cases
  (if named.isEmpty then casesBy (CasePattern.isBetween subject) cases else named) ++
    defaultCases cases

end Script
end Landform
