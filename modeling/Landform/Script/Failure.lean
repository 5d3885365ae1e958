import Landform.Script.Fault
import Landform.Script.Value

namespace Landform
namespace Script

/-!
Why the evaluation of a script fails.  A failure has a cause, the place it is reported at
if there is one, and the calls it went through on its way out, the innermost first.
-/

/-- The cause of a failure. -/
inductive FailureCause where
  | noVariable (name : String)
  | noFunction (signature : String)
  | constantChanged (name : String)
  | thrown (value : Value)
  | arithmetic (message : String)
  | noStride
  | mismatch (given wanted : String)
  | notIterable
  | notIndexed (container index : String) (given : Option String)
  | listBounds (count : Nat) (index : Int)
  | textBounds (count : Nat) (index : Int)
  | bitBounds (index : Int)
  | noGetter (property typeName : String)
  | noSetter (property typeName givenName : String)
  | constantMethod (method : String)
  | heldElsewhere (position : Nat)
  | tooDeep
  | tooLong
  | noSelf
  | noModule (path : String)
  deriving Inhabited

/-- A call that a failure went through. -/
structure FailedCall where
  function : String
  isClosure : Bool
  place : Option Place
  deriving Inhabited

/-- Why the evaluation of a script fails. -/
structure Failure where
  cause : FailureCause
  place : Option Place := none
  calls : List FailedCall := []
  deriving Inhabited

namespace FailureCause

/-- How many items there are in something. -/
def onlyCount (count : Nat) (item container : String) : String :=
  match count with
  | 0 => container ++ " is empty"
  | 1 => "only 1 " ++ item ++ " in " ++ container
  | n => s!"only {n} {item}s in {container}"

/-- The words for an index put to a value, and for what is given to the place it means. -/
def indexing (container index : String) (given : Option String) : String :=
  container ++ " [" ++ index ++ "]" ++ (given.map (" = " ++ ·)).getD ""

/-- The words for an argument of a closure. -/
def closureArgument (position : Nat) : String :=
  s!"argument #{position + 1} of function 'anon'"

/-- The wording of a cause. -/
def message : FailureCause -> String
  | noVariable name => "Variable not found: " ++ name
  | noFunction signature => "Function not found: " ++ signature
  | constantChanged name => "Cannot modify constant " ++ name
  | thrown value =>
      let text := value.shownText
      if text == "" then "Runtime error" else "Runtime error: " ++ text
  | arithmetic message => message
  | noStride => "step value cannot be zero\nin call to function 'range'"
  | mismatch given wanted =>
      if wanted == "" then "Data type incorrect: " ++ given
      else "Data type incorrect: " ++ given ++ " (expecting " ++ wanted ++ ")"
  | notIterable => "For loop expects iterable type"
  | notIndexed container index given =>
      "Indexer unavailable: " ++ indexing container index given
  | listBounds count index =>
      s!"Array index {index} out of bounds: " ++ onlyCount count "element" "array"
  | textBounds count index =>
      s!"String index {index} out of bounds: " ++ onlyCount count "character" "string"
  | bitBounds index => s!"Bit-field index {index} out of bounds: only 64 bits in bit-field"
  | noGetter property typeName =>
      "Unknown property '" ++ property ++ "' - a getter is not registered for type '" ++
        typeName ++ "'"
  | noSetter property typeName givenName =>
      "No writable property '" ++ property ++ "' - a setter is not registered for type '" ++
        typeName ++ "' to handle '" ++ givenName ++ "'"
  | constantMethod method => "Non-pure method '" ++ method ++ "' cannot be called on constant"
  | heldElsewhere position =>
      "Data race detected on variable '" ++ closureArgument position ++ "'"
  | tooDeep => "Stack overflow"
  | tooLong => "Too many operations"
  | noSelf => "'this' not bound"
  | noModule path => "Module not found: " ++ path

/-- Whether a cause ends a script for good: no handler catches it. -/
def isFinal : FailureCause -> Bool
  | tooDeep | tooLong => true
  | _ => false

/-- The name by which a handler is told about a cause. -/
def label : FailureCause -> String
  | noVariable _ => "ErrorVariableNotFound"
  | noFunction _ => "ErrorFunctionNotFound"
  | constantChanged _ => "ErrorAssignmentToConstant"
  | thrown _ => "ErrorRuntime"
  | arithmetic _ => "ErrorArithmetic"
  | noStride => "ErrorInFunctionCall"
  | mismatch _ _ => "ErrorMismatchDataType"
  | notIterable => "ErrorFor"
  | notIndexed .. => "ErrorIndexingType"
  | listBounds _ _ => "ErrorArrayBounds"
  | textBounds _ _ => "ErrorStringBounds"
  | bitBounds _ => "ErrorBitFieldBounds"
  | noGetter _ _ | noSetter _ _ _ => "ErrorDotExpr"
  | constantMethod _ => "ErrorNonPureMethodCallOnConstant"
  | heldElsewhere _ => "ErrorDataRace"
  | tooDeep => "ErrorStackOverflow"
  | tooLong => "ErrorTooManyOperations"
  | noSelf => "ErrorUnboundThis"
  | noModule _ => "ErrorModuleNotFound"

/-- What a handler is told about a cause besides its name and its wording. -/
def details : FailureCause -> List (String × Value)
  | noVariable name | constantChanged name => [("variable", .text name)]
  | noFunction signature => [("function", .text signature)]
  | mismatch given wanted => [("requested", .text wanted), ("actual", .text given)]
  | notIndexed container index given => [("type", .text (indexing container index given))]
  | listBounds count index | textBounds count index =>
      [("length", .integer count), ("index", .integer index)]
  | bitBounds index => [("length", .integer 64), ("index", .integer index)]
  | noGetter property typeName => [("property", .text (noGetter property typeName).message)]
  | noSetter property typeName given =>
      [("property", .text (noSetter property typeName given).message)]
  | constantMethod method => [("function", .text method)]
  | heldElsewhere position => [("variable", .text (closureArgument position))]
  | noModule path => [("module", .text path)]
  | noStride => [("function", .text "range"), ("source", .text "")]
  | _ => []

end FailureCause

namespace Failure

/-- A failure with a place. -/
def of (cause : FailureCause) (place : Place) : Failure where
  cause := cause
  place := some place

/-- A failure whose place is not known yet is put at the given one. -/
def placedAt (failure : Failure) (place : Place) : Failure :=
  match failure.place with
  | some _ => failure
  | none => { failure with place := some place }

/-- A failure that comes out of a call at a place; a final one does not name its calls. -/
def throughCall (failure : Failure) (function : String) (isClosure : Bool) (place : Place) :
    Failure :=
  if failure.cause.isFinal then { failure with place := some place }
  else
    { failure with
      place := some place
      calls := failure.calls ++ [⟨function, isClosure, failure.place⟩] }

/-- A file name in the words around it, or nothing for a script without a file name. -/
def inFile (before fileName after : String) : String :=
  if fileName == "" then "" else before ++ fileName ++ after

/-- The words for a place that may not be known. -/
def placeWords : Option Place -> String
  | some place => Script.placeWords place
  | none => ""

/-- The words for a call of a script of the given file. -/
def callText (fileName : String) (call : FailedCall) : String :=
  let head := inFile " @ '" fileName "'" ++ placeWords call.place
  let what :=
    if call.isClosure then "closure call" else "call to function '" ++ call.function ++ "'"
  head ++ "\nin " ++ what ++ inFile " (from '" fileName "')"

/-- What a failure says without its own place. -/
def wording (fileName : String) (failure : Failure) : String :=
  failure.cause.message ++ String.join (failure.calls.map (callText fileName))

/-- The message of a failure in a script of the given file. -/
def message (fileName : String) (failure : Failure) : String :=
  failure.wording fileName ++ placeWords failure.place

/-- The name by which a handler is told about a failure. -/
def label (failure : Failure) : String :=
  if failure.calls.isEmpty then failure.cause.label else "ErrorInFunctionCall"

/-- What a handler is told about the place of a failure. -/
def placeFields (failure : Failure) : List (String × Value) :=
  match failure.place with
  | some place => [("line", .integer place.line), ("position", .integer place.column)]
  | none => []

/-- The value a handler catches. -/
def caught (fileName : String) (failure : Failure) : Value :=
  match failure.cause with
  | .thrown value => value
  | cause =>
      let details :=
        match failure.calls.getLast? with
        | some call => [("function", Value.text call.function), ("source", .text fileName)]
        | none => cause.details
      let origin := if fileName == "" then [] else [("source", Value.text fileName)]
      .record
        (SortedMap.ofList
          ([("error", Value.text failure.label),
              ("message", .text (failure.wording fileName))] ++
            origin ++ failure.placeFields ++ details)).entries

end Failure

end Script
end Landform
