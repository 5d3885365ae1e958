import Landform.Disk.Access
import Landform.Material.Json

namespace Landform

/-!
Recorded cases: a directory with the input of a run, the arguments of the run, and what
is expected to come of it.
-/

/-- What is expected of a run. -/
inductive Expectation where
  | success (width height : Nat) (scriptOutput : List String)
  | failure (code : String) (messageContains : Option String)
  deriving DecidableEq

/-- A run in a directory, and what is expected of it. -/
structure RecordedCase where
  name : String
  directory : String
  input : String
  arguments : List String
  expectation : Expectation

/-- Why a directory holds no recorded case. -/
inductive RecordedCase.Fault where
  | unreadable (path : String) (fault : DiskFault)
  | invalid (path : String) (fault : Json.ReadFault)

namespace RecordedCase

/-- The wording of a fault. -/
def Fault.message : Fault -> String
  | .unreadable path fault => "failed to read " ++ path ++ ": " ++ fault.message
  | .invalid path fault => "invalid testcase " ++ path ++ ": " ++ fault.message

/-- The name of the file that describes a case. -/
def fileName : String := "testcase.json"

/-- The shape of an expectation; it is told by its result. -/
def expectationShape : Json.Shape :=
  .choice "internally tagged enum Expectation" "result"
    (.cons "OK" "struct variant Expectation::Ok"
      (.cons "width" none .natural
        (.cons "height" none .natural
          (.cons "scriptOutput" (some (.list [])) (.list .text) .nil)))
      (.cons "ERROR" "struct variant Expectation::Error"
        (.cons "errorCode" none .text
          (.cons "messageContains" (some .null) (.optional .text) .nil))
        .nil))

/-- The shape of a case. -/
def shape : Json.Shape :=
  .record "struct DemoCase"
    (.cons "input" none .text
      (.cons "args" (some (.list [])) (.list .text)
        (.cons "expect" none expectationShape .nil)))

/-- The texts of a list. -/
def textsAt (value : Json) (name : String) : List String :=
  ((value.member? name).map Json.items).getD [] |>.filterMap Json.text?

/-- The expectation of a full form. -/
def expectationOf (value : Json) : Expectation :=
  if value.textAt "result" == "OK" then
    .success ((value.wholeAt? "width").getD 0).toNat ((value.wholeAt? "height").getD 0).toNat
      (textsAt value "scriptOutput")
  else
    .failure (value.textAt "errorCode") ((value.member? "messageContains").bind Json.text?)

/-- The case of a full form, in a directory. -/
def ofJson (directory : String) (value : Json) : RecordedCase where
  name := (Path.fileName? directory).getD ""
  directory := directory
  input := value.textAt "input"
  arguments := textsAt value "args"
  expectation := expectationOf ((value.member? "expect").getD .null)

/-- The path of the input. -/
def inputPath (case : RecordedCase) : String :=
  Path.join case.directory case.input

/-- Loads the case of a directory. -/
def load {m : Type -> Type} [Monad m] (disk : DiskAccess m) (directory : String) :
    m (Except RecordedCase.Fault RecordedCase) := do
  let path := Path.join directory fileName
  match ← disk.readText path with
  | .error fault => return .error (.unreadable path fault)
  | .ok text =>
      match shape.ofText text with
      | .error fault => return .error (.invalid path fault)
      | .ok value => return .ok (ofJson directory value)

end RecordedCase

end Landform
