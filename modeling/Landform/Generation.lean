import Landform.Disk.Path
import Landform.GeneratedMap
import Landform.Landscape.Painting
import Landform.Landscape.Reader
import Landform.MapKind
import Landform.Material.Resolver
import Landform.Session

namespace Landform

/-!
Generation of maps.  A request is carried out on a session, which it leaves ready for the
next request; nothing that earlier requests have left in the session shows in the result.

A map script is loaded beside an empty game script, linked, and asked to paint.  A
landscape description is rendered; if overlays of its first map are decided by a script,
the game script beside the description is loaded and linked first.

Every stage clears the journal before it begins, and a stage that has reported something
ends the run with the first of its messages.  Linking may report one message: a program
may fail outside of its functions and still be good.
-/

open Script (Language)

variable {language : Language}

/-- What to generate. -/
structure GenerationRequest where
  kind : MapKind
  source : String
  fileName : String
  scriptPath? : Option String := none
  scenario? : Option Scenario := none
  materials : MaterialTable := {}
  textures : TextureTable := {}
  width : Nat := 200
  height : Nat := 200
  players : Nat := 1
  teams : Nat := 1

namespace GenerationRequest

/-- The resolver for the tables of a request. -/
def resolver (request : GenerationRequest) : Resolver :=
  Resolver.ofTables request.materials request.textures

/-- The size a request asks for. -/
def format (request : GenerationRequest) : MapFormat :=
  MapFormat.fixed request.width request.height

/-- The script a request carries. -/
def script (request : GenerationRequest) : ScriptSource :=
  ⟨request.fileName, request.source⟩

/-- The fault of a description without a map. -/
def noMap : Fault where
  code := "LANDSCAPE_NO_MAP"
  message := "No map definition in source file"

/-- The first map of the description a request carries. -/
def map? (request : GenerationRequest) : Except Fault Landscape.Node :=
  match Landscape.Document.ofText request.source with
  | .error offence => .error (offence.fault request.fileName)
  | .ok document =>
      match document.maps.head? with
      | some map => .ok map
      | none => .error noMap

end GenerationRequest

/-- A part of a run: it answers a value or a fault, and changes the session. -/
abbrev SessionStep (language : Language) := ExceptT Fault (StateM (Session language))

namespace SessionStep

/-- An operation of sessions as a part of a run. -/
def of {α : Type} (operation : Session language -> Except Fault α × Session language) :
    SessionStep language α :=
  operation

/-- A change of the session. -/
def change (f : Session language -> Session language) : SessionStep language Unit :=
  of fun session => (.ok (), f session)

/-- Fails with the first message of the journal, if there is one. -/
def failOnReport (code : String) : SessionStep language Unit :=
  of fun session =>
    match session.journal.first? with
    | some message => (.error { code := code, message := message }, session)
    | none => (.ok (), session)

/-- Fails with the first message of the journal, if there is more than one. -/
def failOnReports (code : String) : SessionStep language Unit :=
  of fun session =>
    if session.journal.count ≤ 1 then (.ok (), session)
    else failOnReport code session

/-- Loads a script that has to be readable. -/
def load (role : ScriptRole) (script : ScriptSource) : SessionStep language Unit := do
  change Session.clearJournal
  of fun session => session.load role script
  failOnReport "SCRIPT_PARSE"

/-- Links the scripts. -/
def link : SessionStep language Unit := do
  change Session.clearJournal
  of Session.link
  failOnReports "SCRIPT_LINK"

/-- The map made of two rasters. -/
def mapOf (foreground background : Raster) (lines : List String) :
    SessionStep language GeneratedMap :=
  match GeneratedMap.ofRasters (some foreground) (some background) with
  | .ok map => return map.withOutput lines
  | .error misfit => throw misfit.fault

end SessionStep

namespace Generation

/-- The players a map is painted for. -/
def renderedPlayers : Nat := 1

/-! ## Map scripts -/

/-- The game script beside a map script. -/
def emptyGameScript : ScriptSource :=
  ⟨"Script.c", ""⟩

/-- The fault of a script that does not paint a map. -/
def noEntryPoint : Fault where
  code := "SCRIPT_NO_ENTRY_POINT"
  message := "No InitializeMap() function present in the script, or it returns false"

/-- Has the linked program paint a map. -/
def paintByScript (request : GenerationRequest) : SessionStep language GeneratedMap := do
  SessionStep.change Session.clearJournal
  let outcome ← SessionStep.of fun session =>
    session.callEntryPoint request.format request.resolver renderedPlayers
  SessionStep.failOnReport "SCRIPT_RUNTIME"
  if outcome.returned then
    let lines ← SessionStep.of fun session =>
      let (lines, after) := session.takeLines
      (.ok lines, after)
    SessionStep.mapOf outcome.foreground outcome.background lines
  else throw noEntryPoint

/-- Generates a map by a map script that is told about a scenario. -/
def byScript (scenario : Scenario) (request : GenerationRequest) :
    SessionStep language GeneratedMap := do
  SessionStep.change Session.setUp
  SessionStep.change fun session => session.addScenario scenario
  SessionStep.load .map request.script
  SessionStep.of fun session => session.load .game emptyGameScript
  SessionStep.link
  paintByScript request

/-! ## Landscape descriptions -/

/-- The fault of a description whose script has no known path. -/
def noScriptPath : Fault where
  code := "SCRIPT_PATH_MISSING"
  message :=
    "For algo=script overlays to work, save the file first at the location of the " ++
      "Script.c file"

/-- The fault of a script path that does not name a file. -/
def noScriptName (path : String) : Fault where
  code := "SCRIPT_PATH_MISSING"
  message := "Script path '" ++ path ++ "' has no file name"

/-- The fault of a script path where there is no file. -/
def noScriptFile (path : String) : Fault where
  code := "ARCHIVE_ENTRY_MISSING"
  message := "Failed to load '" ++ path ++ "': No such file"

/-- What decides the points of script overlays, and the functions that have failed so far. -/
structure OverlayState (language : Language) where
  session : Session language
  failed : List String := []

/-- Asks a session about the points of overlays; a function that fails is not asked again. -/
def overlayHost : Landscape.ScriptHost (OverlayState language) where
  covers := fun ⟨session, failed⟩ function x y =>
    if failed.contains function then (false, ⟨session, failed⟩)
    else
      match session.callAlgorithm function x y with
      | (.ok covered, after) => (covered, ⟨after, failed⟩)
      | (.error fault, after) => (false, ⟨after.report fault.message, function :: failed⟩)

/-- Reports several messages. -/
def reportAll (messages : List String) (session : Session language) : Session language :=
  messages.foldl Session.report session

/-- Renders a map without scripts. -/
def renderAlone (request : GenerationRequest) (map : Landscape.Node) :
    SessionStep language GeneratedMap := do
  let rendering :=
    Landscape.renderAlone request.resolver request.format renderedPlayers map
  SessionStep.change Session.clearJournal
  SessionStep.change (reportAll rendering.messages)
  SessionStep.failOnReport "LANDSCAPE_RENDER"
  SessionStep.mapOf rendering.foreground rendering.background []

/-- Paints a map whose overlays the session decides. -/
def paintWithScript (request : GenerationRequest) (map : Landscape.Node) :
    SessionStep language (Raster × Raster) :=
  SessionStep.of fun session =>
    let (width, height) := request.format.sizeFor renderedPlayers
    let canvas := Landscape.paint overlayHost request.resolver map width height ⟨session, []⟩
    (.ok (canvas.foreground, canvas.background), canvas.state.session)

/-- Renders a map with the linked game script. -/
def renderWithScript (request : GenerationRequest) (map : Landscape.Node) :
    SessionStep language GeneratedMap := do
  SessionStep.change Session.clearJournal
  SessionStep.change (reportAll (Landscape.unknownMaterials request.resolver map))
  let (foreground, background) ← paintWithScript request map
  SessionStep.failOnReport "LANDSCAPE_RENDER"
  let lines ← SessionStep.of fun session =>
    let (lines, after) := session.takeLines
    (.ok lines, after)
  SessionStep.mapOf foreground background lines

/-- The text of a game script in the archive of its directory. -/
def scriptIn (archive : Archive) (path fileName : String) : Except Fault ScriptSource := do
  if (archive.find fileName).isEmpty then throw (noScriptFile path)
  else return ⟨fileName, ← archive.read fileName⟩

/-- Goes on with a description once the directory of its game script is opened. -/
def afterOpening (request : GenerationRequest) (map : Landscape.Node) (path fileName : String)
    (opened : Except Fault Archive) : SessionStep language GeneratedMap := do
  let script ← SessionStep.of fun session =>
    (opened.bind fun archive => scriptIn archive path fileName, session)
  SessionStep.load .game script
  SessionStep.link
  renderWithScript request map

/-- Generates a map by a landscape description; only a script overlay has a directory opened. -/
def byLandscape {m : Type -> Type} [Monad m] (openArchive : String -> m (Except Fault Archive))
    (request : GenerationRequest) (session : Session language) :
    m (Except Fault GeneratedMap × Session language) :=
  match request.map? with
  | .error fault => pure (.error fault, session)
  | .ok map =>
      if map.asksScript then
        match request.scriptPath? with
        | none => pure (.error noScriptPath, session)
        | some path =>
            let ready := session.setUp
            match Path.fileName? path with
            | none => pure (.error (noScriptName path), ready)
            | some fileName => do
                let opened ← openArchive (Path.directory path)
                pure (afterOpening request map path fileName opened ready)
      else pure (renderAlone request map session)

end Generation

end Landform
