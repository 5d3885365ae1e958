import Landform.Disk.Access
import Landform.Scenario.Definitions
import Landform.Scenario.Json

namespace Landform

/-!
The files that configure a render command: a file of material tables and a file of
scenario parameters, both in interchange form, and the definitions of parameters that may
lie beside the scripts.  A named file has to be there and in order; definitions that are
not are passed over.
-/

namespace Configuration

/-- The fault of a file that cannot be read. -/
def unreadable (code : String) (fault : DiskFault) : Fault where
  code := code
  message := fault.message

/-- The fault of a file that does not have the shape it should have. -/
def invalid (code : String) (fault : Json.ReadFault) : Fault where
  code := code
  message := fault.message

/-- The full form of a file. -/
def readFile {m : Type -> Type} [Monad m] (disk : DiskAccess m) (shape : Json.Shape)
    (unreadableCode invalidCode path : String) : ExceptT Fault m Json := do
  match ← disk.readText path with
  | .error fault => throw (unreadable unreadableCode fault)
  | .ok text =>
      match shape.ofText text with
      | .error fault => throw (invalid invalidCode fault)
      | .ok value => return value

/-- The items of a member of a full form. -/
def itemsAt (value : Json) (name : String) : List Json :=
  ((value.member? name).map Json.items).getD []

/-! ## Material tables -/

/-- The shape of a file of material tables. -/
def materialsShape : Json.Shape :=
  .record "struct MaterialsFile"
    (.cons "materials" (some (.list [])) (.list Material.shape)
      (.cons "textures" (some (.list [])) (.list Texture.shape)
        (.cons "texmap" (some (.list [])) (.list IndexEntry.shape) .nil)))

/-- The material table of a full form. -/
def materialsOf (value : Json) : MaterialTable :=
  ((itemsAt value "materials").map Material.ofJson).foldl
    (fun table material => table.add material.name material.overlay) {}

/-- Adds entries one after another, up to the first that is refused. -/
def addEntries : List IndexEntry -> TextureTable -> Except Fault TextureTable
  | [], table => .ok table
  | entry :: rest, table =>
      match table.addEntry entry.index entry.material entry.texture with
      | .ok next => addEntries rest next
      | .error refusal => .error refusal.fault

/-- The texture table of a full form. -/
def texturesOf (value : Json) : Except Fault TextureTable :=
  addEntries ((itemsAt value "texmap").map IndexEntry.ofJson)
    (((itemsAt value "textures").map Texture.ofJson).foldl
      (fun table texture => (table.addTexture texture.name texture.averageColor).1) {})

/-- Reads a file of material tables. -/
def readMaterials {m : Type -> Type} [Monad m] (disk : DiskAccess m) (path : String) :
    ExceptT Fault m (MaterialTable × TextureTable) := do
  let value ← readFile disk materialsShape "CLI_MATERIALS_READ" "CLI_MATERIALS_INVALID" path
  match texturesOf value with
  | .ok textures => return (materialsOf value, textures)
  | .error fault => throw fault

/-! ## Scenario parameters -/

/-- The shape of a file of scenario parameters. -/
def scenarioShape : Json.Shape :=
  .record "struct ScenarioFile"
    (.cons "parameters" (some (.list [])) (.list Parameter.shape)
      (.cons "values" (some (.object [])) Scenario.valuesShape .nil))

/-- The scenario of a full form: the definitions one after another, then the values. -/
def scenarioOf (value : Json) : Scenario :=
  let defined :=
    ((itemsAt value "parameters").map Parameter.ofJson).foldl Scenario.define {}
  let chosen := ((value.member? "values").map Scenario.pairsOf).getD []
  chosen.foldl (fun scenario pair => scenario.set pair.1 pair.2 false) defined

/-- Reads a file of scenario parameters. -/
def readScenario {m : Type -> Type} [Monad m] (disk : DiskAccess m) (path : String) :
    ExceptT Fault m Scenario := do
  return scenarioOf
    (← readFile disk scenarioShape "CLI_SCENARIO_READ" "CLI_SCENARIO_INVALID" path)

/-- The name of the file with the definitions of parameters. -/
def definitionsName : String := "ParameterDefs.txt"

/-- The scenario that the definitions in a directory give, if there are any in order. -/
def scenarioIn? {m : Type -> Type} [Monad m] (disk : DiskAccess m) (directory : String) :
    m (Option Scenario) := do
  let path := Path.join directory definitionsName
  if ← disk.isFile path then
    match ← disk.readText path with
    | .ok text => return (Scenario.ofDefinitions text).toOption
    | .error _ => return none
  else return none

end Configuration

end Landform
