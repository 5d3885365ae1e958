import Landform.Text.Blank

namespace Landform

/-!
Faults: why a step of a run could not be done.  Every part of the library describes its
failures by a type of causes of its own and turns a cause into a fault at its boundary.
A fault is what a caller sees: a code naming the kind of failure, a message for people,
and, for faults found in a text, the place in that text.
-/

/-- A place in a text; lines and columns are counted from one. -/
structure Place where
  line : Nat
  column : Nat
  deriving DecidableEq, Inhabited

/-- The place of what is nowhere in a text. -/
def Place.unknown : Place :=
  ⟨0, 0⟩

/-- A stretch of a text. -/
structure Stretch where
  start : Place
  stop : Place
  deriving DecidableEq, Inhabited

/-- The stretch that consists of one place. -/
def Stretch.at (line column : Nat) : Stretch :=
  ⟨⟨line, column⟩, ⟨line, column⟩⟩

/-- A failed step as its caller sees it. -/
structure Fault where
  code : String
  message : String
  stretch : Option Stretch := none
  deriving DecidableEq, Inhabited

namespace Fault

/-- The fault in one line, its code in front. -/
def text (fault : Fault) : String :=
  fault.code ++ ": " ++ fault.message

/--
What a failed run reports: the fault's message, or a sentence with its code when the
message is blank, so that a failure never goes without words.
-/
def report (fault : Fault) : String :=
  if Text.isBlankText fault.message then
    "Map generation failed (" ++ fault.code ++ ")"
  else fault.message

theorem report_eq_message {fault : Fault} (spoken : Text.isBlankText fault.message = false) :
    fault.report = fault.message := by
  simp only [report, spoken, Bool.false_eq_true, if_false]

end Fault

end Landform
