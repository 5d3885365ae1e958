import Landform.Command.Configuration
import Landform.Command.Options
import Landform.Generator
import Landform.Picture.Saving

namespace Landform

/-!
The render command.  What the options name is looked up once and makes up a workplace; the
input is then rendered on it as often as wanted.  Rendering reads the input anew, generates
the map, and saves the pictures of its rasters.
-/

open Script (Language)

variable {language : Language}

/-- What a render command has looked up. -/
structure Workplace (language : Language) where
  options : RenderOptions
  kind : MapKind
  materials : MaterialTable
  textures : TextureTable
  scenario? : Option Scenario
  generator : Generator language

namespace RenderOptions

/-- The fault of a map type that is none. -/
def invalidMapType (name : String) : Fault where
  code := "CLI_MAP_TYPE_INVALID"
  message := "Unknown map type '" ++ name ++ "', expected script or landscape"

/-- The fault of an input whose map type is not told by its name. -/
def unknownMapType (input : String) : Fault where
  code := "CLI_MAP_TYPE_UNKNOWN"
  message := "Cannot tell the map type of '" ++ input ++ "', pass --map-type"

/-- The kind of the input. -/
def kind (options : RenderOptions) : Except Fault MapKind :=
  match options.mapType? with
  | some name =>
      match MapKind.ofName? name with
      | some kind => .ok kind
      | none => .error (invalidMapType name)
  | none =>
      match MapKind.ofFileName? options.input with
      | some kind => .ok kind
      | none => .error (unknownMapType options.input)

/-- The directory of the input. -/
def inputDirectory (options : RenderOptions) : String :=
  Path.directory options.input

/-- The directory in which definitions of parameters are looked for. -/
def baseDirectory (options : RenderOptions) : String :=
  options.root?.getD options.inputDirectory

/-- The name of the game script beside an input. -/
def siblingName : String := "Script.c"

/-- The path of the game script: the one that is given, or that of a file beside the input. -/
def findScript {m : Type -> Type} [Monad m] (disk : DiskAccess m) (options : RenderOptions) :
    m (Option String) := do
  match options.scriptPath? with
  | some path => return some path
  | none =>
      let sibling := Path.join options.inputDirectory siblingName
      return if ← disk.isFile sibling then some sibling else none

end RenderOptions

namespace Workplace

/-- The material tables that the options name. -/
def findTables {m : Type -> Type} [Monad m] (disk : DiskAccess m) (options : RenderOptions) :
    ExceptT Fault m (MaterialTable × TextureTable) :=
  match options.materials? with
  | some path => Configuration.readMaterials disk path
  | none => return ({}, {})

/-- The scenario that the options name, or that lies in the base directory. -/
def findScenario {m : Type -> Type} [Monad m] (disk : DiskAccess m)
    (options : RenderOptions) : ExceptT Fault m (Option Scenario) :=
  match options.scenario? with
  | some path => some <$> Configuration.readScenario disk path
  | none => ExceptT.lift (Configuration.scenarioIn? disk options.baseDirectory)

/-- The generator that rendering begins with: the library, and the scripts of the root. -/
def findGenerator {m : Type -> Type} [Monad m] (disk : DiskAccess m)
    (options : RenderOptions) : ExceptT Fault m (Generator language) :=
  match options.root? with
  | none => return Generator.withLibrary
  | some root => do
      let archive ← ExceptT.mk (disk.openArchive root)
      let start : Generator language := Generator.withLibrary
      match start.session.registerArchive archive with
      | (.ok _, session) => return { start with session := session }
      | (.error fault, _) => throw fault

/-- Looks up what the options name. -/
def «open» {m : Type -> Type} [Monad m] (disk : DiskAccess m) (options : RenderOptions) :
    ExceptT Fault m (Workplace language) := do
  let kind ← ExceptT.mk (pure options.kind)
  let (materials, textures) ← findTables disk options
  let scenario? ← findScenario disk options
  let generator ← findGenerator disk options
  return ⟨options, kind, materials, textures, scenario?, generator⟩

/-- The request for a map of some source text. -/
def request (workplace : Workplace language) (source : String) (scriptPath? : Option String) :
    GenerationRequest where
  kind := workplace.kind
  source := source
  fileName := (Path.fileName? workplace.options.input).getD workplace.options.input
  scriptPath? := scriptPath?
  scenario? := workplace.scenario?
  materials := workplace.materials
  textures := workplace.textures
  width := workplace.options.width
  height := workplace.options.height
  players := workplace.options.players
  teams := workplace.options.teams

/-- The colours of the tables of a workplace. -/
def palette (workplace : Workplace language) : Palette :=
  Palette.ofTables workplace.materials workplace.textures

/-- The rasters of a map that are to be saved, each with the path it is saved at. -/
def savings (workplace : Workplace language) (map : GeneratedMap) : List (String × Raster) :=
  (map.foreground.map fun raster => (workplace.options.output, raster)).toList ++
    (do return (← workplace.options.backgroundOutput?, ← map.background)).toList

/-- Saves the pictures of a map. -/
def save {m : Type -> Type} [Monad m] (disk : DiskAccess m) (workplace : Workplace language)
    (map : GeneratedMap) : ExceptT Fault m Unit :=
  let palette := workplace.palette
  (workplace.savings map).forM fun saving =>
    Picture.save disk saving.1 (palette.picture saving.2)

/-- The fault of an input that cannot be read. -/
def inputUnreadable (fault : DiskFault) : Fault where
  code := "CLI_INPUT_READ"
  message := fault.message

/-- The fault of an input from which no map comes. -/
def generationFailed (message : String) : Fault where
  code := "CLI_GENERATION_FAILED"
  message := message

/-- Reads the input, generates the map and saves its pictures. -/
def render {m : Type -> Type} [Monad m] (disk : DiskAccess m) (workplace : Workplace language) :
    m (Except Fault GeneratedMap × Workplace language) := do
  match ← disk.readText workplace.options.input with
  | .error fault => return (.error (inputUnreadable fault), workplace)
  | .ok source =>
      let scriptPath? ← workplace.options.findScript disk
      let (result, generator) ←
        workplace.generator.generate disk.openArchive (workplace.request source scriptPath?)
      let after := { workplace with generator := generator }
      match result with
      | .failure message => return (.error (generationFailed message), after)
      | .success map =>
          match ← (workplace.save disk map).run with
          | .error fault => return (.error fault, after)
          | .ok () => return (.ok map, after)

end Workplace

/-! ## What a command prints -/

/-- The lines of a finished command, and the code it ends with. -/
structure CommandOutcome where
  lines : List String
  exitCode : Nat

namespace CommandOutcome

/-- The outcome of a command that is not understood. -/
def refused : CommandOutcome :=
  ⟨[], 2⟩

/-- The outcome of a command that failed. -/
def failed (fault : Fault) : CommandOutcome :=
  ⟨["RESULT:ERROR", "ERROR_CODE:" ++ fault.code,
    "ERROR_MSG_JSON:" ++ Json.quoted fault.message], 1⟩

/-- The outcome of a command that made a map. -/
def made (workplace : Workplace language) (map : GeneratedMap) : CommandOutcome :=
  ⟨["RESULT:OK", "MAP_TYPE:" ++ workplace.kind.name, "WIDTH:" ++ toString map.width,
      "HEIGHT:" ++ toString map.height, "OUTPUT:" ++ workplace.options.output] ++
    map.scriptOutput.map fun line => "SCRIPT_OUTPUT_JSON:" ++ Json.quoted line, 0⟩

/-- The outcome of rendering on a workplace. -/
def ofRendering (workplace : Workplace language) : Except Fault GeneratedMap -> CommandOutcome
  | .ok map => made workplace map
  | .error fault => failed fault

end CommandOutcome

/-- Carries out a render command once; what is left to watch is the workplace. -/
def RenderOptions.carryOut {m : Type -> Type} [Monad m] (disk : DiskAccess m)
    (options : RenderOptions) : m (CommandOutcome × Option (Workplace language)) := do
  match ← (Workplace.open disk options).run with
  | .error fault => return (.failed fault, none)
  | .ok workplace =>
      let (outcome, after) ← workplace.render disk
      return (.ofRendering workplace outcome, some after)

/-- Carries out a command line once, with map scripts in the given language. -/
def runCommand {m : Type -> Type} [Monad m] (language : Language) (disk : DiskAccess m)
    (words : List String) : m CommandOutcome :=
  match RenderOptions.ofWords? words with
  | none => return .refused
  | some options => do
      let (outcome, (_ : Option (Workplace language))) ← options.carryOut disk
      return outcome

end Landform
