import Landform.Material.Json
import Landform.Scenario

namespace Landform

/-!
The interchange form of scenario parameters.  Only the id of a parameter is required.
-/

namespace Parameter

/-- The shape of a parameter. -/
def shape : Json.Shape :=
  .record "struct ParameterDef"
    (.cons "id" none .text
      (.cons "name" (some (.text "")) .text
        (.cons "default" (some (.whole 0)) .number
          (.cons "min" (some .null) (.optional .number)
            (.cons "max" (some .null) (.optional .number) .nil)))))

/-- The interchange form of a bound. -/
def boundJson (bound : Option Int) : Json :=
  match bound with
  | some n => .whole n
  | none => .null

/-- A parameter's interchange form. -/
def toJson (parameter : Parameter) : Json :=
  .object
    [("id", .text parameter.id), ("name", .text parameter.name),
      ("default", .whole parameter.default), ("min", boundJson parameter.least),
      ("max", boundJson parameter.most)]

/-- The parameter of a full form. -/
def ofJson (value : Json) : Parameter where
  id := value.textAt "id"
  name := value.textAt "name"
  default := (value.wholeAt? "default").getD 0
  least := value.wholeAt? "min"
  most := value.wholeAt? "max"

/-- The parameter a text holds. -/
def ofText (s : String) : Except Json.ReadFault Parameter :=
  (shape.ofText s).map ofJson

end Parameter

namespace Scenario

/-- The shape of the chosen values. -/
def valuesShape : Json.Shape :=
  .dictionary .number

/-- The shape of scenario parameters. -/
def shape : Json.Shape :=
  .record "struct ScenarioParameters"
    (.cons "definitions" (some (.list [])) (.list Parameter.shape)
      (.cons "values" (some (.object [])) valuesShape .nil))

/-- The chosen values, each under its id. -/
def pairsOf (value : Json) : List (String × Int) :=
  value.members.filterMap fun member => member.2.whole?.map fun n => (member.1, n)

/-- The interchange form of scenario parameters. -/
def toJson (scenario : Scenario) : Json :=
  .object
    [("definitions", .list (scenario.parameters.map Parameter.toJson)),
      ("values",
        .object (scenario.values.entries.map fun entry => (entry.1, Json.whole entry.2)))]

/-- The scenario parameters of a full form. -/
def ofJson (value : Json) : Scenario where
  parameters :=
    (((value.member? "definitions").map Json.items).getD []).map Parameter.ofJson
  values := SortedMap.ofList (((value.member? "values").map pairsOf).getD [])

/-- The scenario parameters a text holds. -/
def ofText (s : String) : Except Json.ReadFault Scenario :=
  (shape.ofText s).map ofJson

end Scenario

end Landform
