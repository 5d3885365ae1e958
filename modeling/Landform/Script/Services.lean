import Landform.Script.Library
import Landform.Script.Memory

namespace Landform
namespace Script

/-!
The functions by which scripts reach their surroundings: they write lines, ask for counts,
and paint on sheets.
-/

/-- Puts a request to a sheet. -/
def onSheet (number : Nat) (request : Sheet.Request) : Run request.Answer :=
  Run.put (.onSheet number request)

/-- Writes a line. -/
def writeLine (line : String) : Run Value := do
  let _ ← Run.put (.write line)
  return .unit

/-- Fails with a refusal of a sheet; where, is found out later. -/
def refuse {α : Type} (refusal : Sheet.Refusal) : Run α :=
  Run.stop (.failed { cause := .thrown (.text refusal.message) })

/-- The value of a field as a property of a shape. -/
def propertyOf (field : String × Value) : String × Sheet.Shape.Property :=
  match field.2 with
  | .integer value => (field.1, .ok value)
  | other => (field.1, .error other.fullTypeName)

/-- Gives a sheet other sides. -/
def resizeSheet (number : Nat) (width height : Int) : Run Value := do
  let answered : Except Sheet.Refusal Unit ← onSheet number (.resize width height)
  match answered with
  | .ok () => return .truth true
  | .error refusal => refuse refusal

/-- Paints a whole sheet. -/
def drawSheet (number : Nat) (spec : String) : Run Value := do
  let painted : Bool ← onSheet number (.draw spec)
  return .truth painted

/-- Paints a shape on a sheet. -/
def drawShape (number : Nat) (spec : String) (fields : List (String × Value)) : Run Value := do
  let answered : Except Sheet.Refusal Bool ←
    onSheet number (.drawShape spec (fields.map propertyOf))
  match answered with
  | .ok painted => return .truth painted
  | .error refusal => refuse refusal

/-- Paints one point of a sheet. -/
def setPoint (number : Nat) (x y : Int) (spec : String) : Run Value := do
  let painted : Bool ← onSheet number (.setPixel x y spec)
  return .truth painted

/-- The foreground at a point of a sheet. -/
def pointOf (number : Nat) (x y : Int) : Run Value := do
  let index : Int ← onSheet number (.pixel x y)
  return .integer index

/-- The background at a point of a sheet. -/
def backPointOf (number : Nat) (x y : Int) : Run Value := do
  let index : Int ← onSheet number (.backPixel x y)
  return .integer index

/-- The functions on sheets. -/
def sheetService (number : Nat) (name : String) (rest : List Value) : Option (Run Value) :=
  match name, rest with
  | "Resize", [.integer width, .integer height] => some (resizeSheet number width height)
  | "Draw", [.text spec] => some (drawSheet number spec)
  | "Draw", [.text spec, .record fields] => some (drawShape number spec fields)
  | "SetPixel", [.integer x, .integer y, .text spec] => some (setPoint number x y spec)
  | "GetPixel", [.integer x, .integer y] => some (pointOf number x y)
  | "GetBackPixel", [.integer x, .integer y] => some (backPointOf number x y)
  | _, _ => none

/-- A property of a sheet. -/
def sheetProperty (number : Nat) (name : String) : Option (Run Value) :=
  match name with
  | "Wdt" => some do
      let width : Nat ← onSheet number .width
      return .integer width
  | "Hgt" => some do
      let height : Nat ← onSheet number .height
      return .integer height
  | _ => none

/-- The function of a name that reaches the surroundings, if it takes the arguments. -/
def service (name : String) : List Value -> Option (Run Value)
  | [] =>
      match name with
      | "print" => some (writeLine "")
      | "GetStartupPlayerCount" => some do return .integer (← Run.surroundings).players
      | "GetStartupTeamCount" => some do return .integer (← Run.surroundings).teams
      | _ => none
  | [value] =>
      match name with
      | "print" => some (writeLine value.printedText)
      | "Log" => some (writeLine value.logText)
      | _ => none
  | .sheet number :: rest => sheetService number name rest
  | _ => none

/--
Comes to what a combination says.  A function that is missing is missed at the first place,
also if it is one for the parts of the values; other failures have the second place.
-/
def settle (signature : String) (missingAt : Place) (failureAt : Option Place) :
    Combination -> Run Value
  | some (.ok value) => return value
  | some (.error (.noFunction inner)) => Run.fail (.noFunction inner) missingAt
  | some (.error cause) => Run.stop (.failed { cause := cause, place := failureAt })
  | none => Run.fail (.noFunction signature) missingAt

/-- Gives a failure of a part the place of the call, if it has none. -/
def placedAtCall {α : Type} (place : Place) (part : Run α) : Run α := do
  match ← Run.ending part with
  | .error (.failed failure) => Run.stop (.failed (failure.placedAt place))
  | result => Run.resume result

/-- Calls a function that no script defines. -/
def callBuiltIn (name : String) (arguments : List Value) (place : Place) : Run Effect :=
  match service name arguments with
  | some part => do return { result := ← placedAtCall place part }
  | none =>
      match library name arguments with
      | some (.ok effect) => return effect
      | some (.error cause) => Run.fail cause place
      | none => Run.fail (.noFunction (Value.signatureText name arguments)) place

end Script
end Landform
