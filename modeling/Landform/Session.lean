import Landform.Archive
import Landform.MapSize
import Landform.Scenario
import Landform.Script.Language

namespace Landform

/-!
Sessions: scripts that are loaded, linked to one program, and called.

A session keeps the sources of the system scripts.  Setting it up reads them anew and
forgets everything else that was loaded.  The system scripts, the game script and the map
script are linked to one program; its statements outside of functions are evaluated then,
and never again until the next link.

What goes wrong inside of a script is reported to the journal.  A fault is only answered
to a caller who asks for something that is not there yet; the session is then as before.

Which language the scripts are written in does not matter to a session.
-/

open Script

variable {language : Language}

/-- The source of a script, and the file it is said to be from. -/
structure ScriptSource where
  fileName : String
  source : String
  deriving DecidableEq, Inhabited

/-- The two scripts that are loaded beside the system scripts. -/
inductive ScriptRole where
  | map
  | game
  deriving DecidableEq, Inhabited

/-- A linked program: what its calls have left of its variables, and the sheets it knows. -/
structure Linked (language : Language) where
  program : language.Program
  scope : language.Scope
  sheets : List MountedSheet

/-- The scripts of a session that is set up. -/
structure Engine (language : Language) where
  system : List language.Program
  map? : Option language.Program := none
  game? : Option language.Program := none
  linked? : Option (Linked language) := none

/-- A session. -/
structure Session (language : Language) where
  cached : List ScriptSource
  engine? : Option (Engine language)
  pending : List NamedConstant
  constants : SortedMap Int
  players : Int
  teams : Int
  lines : Array String
  journal : Journal
  generation : Nat

/-- What came of a call of the entry point. -/
structure EntryOutcome where
  returned : Bool
  foreground : Raster
  background : Raster

/-- Reads a script; a reading fault is reported with the name of the file. -/
def readScriptSource (language : Language) (script : ScriptSource) :
    Except String language.Program :=
  match language.read script.fileName script.source with
  | .ok program => .ok program
  | .error words => .error (script.fileName ++ ": " ++ words)

namespace Engine

/-- The script in a role. -/
def script? (engine : Engine language) : ScriptRole -> Option language.Program
  | .map => engine.map?
  | .game => engine.game?

/-- Puts a script, or none, into a role; what was linked is so no longer. -/
def withScript (engine : Engine language) (script : Option language.Program) :
    ScriptRole -> Engine language
  | .map => { engine with map? := script, linked? := none }
  | .game => { engine with game? := script, linked? := none }

/-- The one program that the scripts make up; of two definitions the later one counts. -/
def program (engine : Engine language) : language.Program :=
  language.inSequence (engine.system ++ engine.game?.toList ++ engine.map?.toList)

end Engine

namespace Session

/-- The constants of every session. -/
def builtInConstants : SortedMap Int :=
  SortedMap.ofList
    [("MAPALGO_Rect", Sheet.rectangleNumber), ("MAPALGO_Ellipse", Sheet.ellipseNumber)]

/-- The counts that scripts are told unless they are set. -/
def usualCount : Int := 1

/-- A session in which nothing has been done. -/
def fresh : Session language where
  cached := []
  engine? := none
  pending := []
  constants := builtInConstants
  players := usualCount
  teams := usualCount
  lines := #[]
  journal := {}
  generation := 0

instance : Inhabited (Session language) :=
  ⟨fresh⟩

/-! ## What a session shows -/

/-- Whether a session is set up. -/
def isSetUp (session : Session language) : Bool :=
  session.engine?.isSome

/-- The linked program of a session. -/
def linked? (session : Session language) : Option (Linked language) :=
  session.engine?.bind Engine.linked?

/-- Whether the scripts of a session are linked. -/
def isLinked (session : Session language) : Bool :=
  session.linked?.isSome

/-- Whether a script is loaded in a role. -/
def hasScript (session : Session language) (role : ScriptRole) : Bool :=
  (session.engine?.bind fun engine => engine.script? role).isSome

/-- The value linked scripts see for a name. -/
def constant? (session : Session language) (name : String) : Option Int :=
  session.constants.find? name

/-! ## System scripts -/

/-- Puts a script in the place of the one with its file name, or behind all others. -/
def placeScript (script : ScriptSource) : List ScriptSource -> List ScriptSource
  | [] => [script]
  | old :: rest =>
      if Text.sameName old.fileName script.fileName then script :: rest
      else old :: placeScript script rest

/-- Keeps a system script; it takes effect when the session is next set up. -/
def register (session : Session language) (script : ScriptSource) : Session language :=
  { session with cached := placeScript script session.cached }

/-- The pattern of the entries that are system scripts. -/
def scriptPattern : String := "*.c"

/-- Keeps the entries of an archive with the given names, up to the first that cannot be read. -/
def registerEntries (archive : Archive) :
    List String -> Session language -> Except Fault Unit × Session language
  | [], session => (.ok (), session)
  | name :: rest, session =>
      match archive.read name with
      | .ok source => registerEntries archive rest (session.register ⟨name, source⟩)
      | .error fault => (.error fault, session)

/-- Keeps all scripts of an archive and answers how many there are. -/
def registerArchive (session : Session language) (archive : Archive) :
    Except Fault Nat × Session language :=
  let names := archive.find scriptPattern
  match registerEntries archive names session with
  | (.ok (), after) => (.ok names.length, after)
  | (.error fault, after) => (.error fault, after)

/-! ## Setting up -/

/-- Reads the system scripts one after another; faults are reported. -/
def readAll (language : Language) :
    List ScriptSource -> Journal -> List language.Program × Journal
  | [], journal => ([], journal)
  | script :: rest, journal =>
      match readScriptSource language script with
      | .ok program =>
          let (programs, after) := readAll language rest journal
          (program :: programs, after)
      | .error message => readAll language rest (journal.push message)

/-- Sets a session up with its system scripts and nothing else. -/
def setUp (session : Session language) : Session language :=
  let (system, journal) := readAll language session.cached session.journal
  { session with
    engine? := some { system := system }
    pending := []
    constants := builtInConstants
    lines := #[]
    journal := journal
    generation := session.generation + 1 }

/-- Takes a session down; the system scripts are forgotten too. -/
def takeDown (session : Session language) : Session language :=
  { session with
    cached := []
    engine? := none
    pending := []
    constants := builtInConstants
    players := usualCount
    teams := usualCount }

/-- Clears the journal. -/
def clearJournal (session : Session language) : Session language :=
  { session with journal := session.journal.clear }

/-- Reports a message. -/
def report (session : Session language) (message : String) : Session language :=
  { session with journal := session.journal.push message }

/-- Sets the number of players that scripts are told. -/
def withPlayers (session : Session language) (count : Nat) : Session language :=
  { session with players := count }

/-- Sets the number of teams that scripts are told. -/
def withTeams (session : Session language) (count : Nat) : Session language :=
  { session with teams := count }

/-- Keeps a constant until the next link. -/
def addConstant (session : Session language) (constant : NamedConstant) : Session language :=
  { session with pending := session.pending ++ [constant] }

/-- Keeps the constants of a scenario until the next link. -/
def addScenario (session : Session language) (scenario : Scenario) : Session language :=
  scenario.constants.foldl addConstant session

/-! ## Loading and linking -/

/-- The fault of asking a session for something too early. -/
def tooEarly (message : String) : Fault where
  code := "SCRIPT_ENGINE_STATE"
  message := message

/-- The fault of a session that is not set up. -/
def notSetUp : Fault :=
  tooEarly "Script engine is not initialized"

/-- The fault of a session whose scripts are not linked. -/
def notLinked : Fault :=
  tooEarly "Script engine is not linked"

/-- Loads a script in a role.  A reading fault is reported and leaves the role empty. -/
def load (session : Session language) (role : ScriptRole) (script : ScriptSource) :
    Except Fault Unit × Session language :=
  match session.engine? with
  | none => (.error notSetUp, session)
  | some engine =>
      match readScriptSource language script with
      | .ok program =>
          (.ok (), { session with engine? := some (engine.withScript (some program) role) })
      | .error message =>
          (.ok (),
            { session with
              engine? := some (engine.withScript none role)
              journal := session.journal.push message })

/-- The message about a constant that there is already. -/
def repeatedConstant (name : String) : String :=
  "constant \"" ++ name ++ "\" is already defined"

/-- Defines constants one after another; one that there is already is reported. -/
def defineConstants :
    List NamedConstant -> SortedMap Int -> Journal -> SortedMap Int × Journal
  | [], constants, journal => (constants, journal)
  | constant :: rest, constants, journal =>
      if constants.contains constant.name then
        defineConstants rest constants (journal.push (repeatedConstant constant.name))
      else defineConstants rest (constants.insert constant.name constant.value) journal

/-- What a session tells its program. -/
def setting (session : Session language) : Setting where
  constant? := session.constants.find?
  players := session.players
  teams := session.teams

/-- The message about a failed evaluation. -/
def failureText (context words : String) : String :=
  context ++ ": " ++ words

/-- A session after its pending constants are defined. -/
def withConstantsDefined (session : Session language) : Session language :=
  let (constants, journal) :=
    defineConstants session.pending session.constants session.journal
  { session with pending := [], constants := constants, journal := journal }

/--
Links the scripts of a session: defines the pending constants and evaluates the statements
outside of functions.  What goes wrong is reported; the program is linked all the same.
-/
def link (session : Session language) : Except Fault Unit × Session language :=
  match session.engine? with
  | none => (.error notSetUp, session)
  | some engine =>
      let program := engine.program
      let ready := session.withConstantsDefined
      let ((outcome, scope), bench) :=
        (language.start program ready.setting).conduct
          { lines := ready.lines, journal := ready.journal }
      let journal :=
        match outcome with
        | .ok _ => bench.journal
        | .error words => bench.journal.push (failureText "link" words)
      (.ok (),
        { ready with
          engine? := some { engine with linked? := some ⟨program, scope, bench.sheets⟩ }
          lines := bench.lines
          journal := journal })

/-! ## Calls -/

/-- What a call leaves behind: the linked program, the lines written, and the journal. -/
def afterCall (session : Session language) (engine : Engine language)
    (linked : Linked language) (scope : language.Scope) (bench : Workbench) :
    Session language :=
  { session with
    engine? :=
      some { engine with linked? := some ⟨linked.program, scope, bench.sheets⟩ }
    lines := bench.lines
    journal := bench.journal }

/-- Calls a function of the linked program with the given sheets on the workbench. -/
def callLinked (session : Session language) (engine : Engine language)
    (linked : Linked language) (function : String) (arguments : List Value)
    (sheets : List MountedSheet) :
    Except String Value × Session language × List MountedSheet :=
  let ((outcome, scope), bench) :=
    (language.call linked.program function arguments session.setting linked.scope).conduct
      ⟨sheets, session.lines, session.journal⟩
  (outcome, session.afterCall engine linked scope bench, bench.sheets)

/-- The name of the function that paints a map. -/
def entryPoint : String := "InitializeMap"

/-- Calls the entry point on a sheet, if there is one; failures are reported. -/
def runEntryPoint (session : Session language) (engine : Engine language)
    (linked : Linked language) (sheets : List MountedSheet) (number : Nat) :
    Bool × Session language × List MountedSheet :=
  if language.defines linked.program entryPoint 1 then
    match session.callLinked engine linked entryPoint [.sheet number] sheets with
    | (.ok value, after, left) => (value.assents, after, left)
    | (.error words, after, left) =>
        (false, after.report (failureText entryPoint words), left)
  else (false, session, sheets)

/--
Calls the entry point on a fresh sheet.  A program without an entry point is as good as
one whose entry point dissents.  The rasters are answered in every case.
-/
def callEntryPoint (session : Session language) (format : MapFormat) (resolver : Resolver)
    (players : Nat) : Except Fault EntryOutcome × Session language :=
  match session.engine? with
  | none => (.error notSetUp, session)
  | some engine =>
      match engine.linked? with
      | none => (.error notLinked, session)
      | some linked =>
          let (width, height) := format.sizeFor players
          let number := linked.sheets.length
          let sheets := linked.sheets ++ [⟨resolver, Sheet.blank width height⟩]
          let (returned, after, left) := session.runEntryPoint engine linked sheets number
          let sheet :=
            match left[number]? with
            | some mounted => mounted.sheet
            | none => Sheet.blank width height
          (.ok ⟨returned, sheet.foreground, sheet.background⟩, after)

/-- The fault of a script algorithm that no script defines. -/
def noAlgorithm (function : String) : Fault where
  code := "SCRIPT_NO_ENTRY_POINT"
  message := "Script algorithm function " ++ function ++ "(x, y) is not defined"

/-- Asks a script algorithm about a point. -/
def callAlgorithm (session : Session language) (function : String) (x y : Int) :
    Except Fault Bool × Session language :=
  match session.engine? with
  | none => (.error notSetUp, session)
  | some engine =>
      match engine.linked? with
      | none => (.error notLinked, session)
      | some linked =>
          if language.defines linked.program function 2 then
            match session.callLinked engine linked function [.integer x, .integer y]
                linked.sheets with
            | (.ok value, after, _) => (.ok value.assents, after)
            | (.error words, after, _) =>
                (.error
                  { code := "SCRIPT_RUNTIME"
                    message := failureText function words }, after)
          else (.error (noAlgorithm function), session)

/-- Takes the lines that scripts have written. -/
def takeLines (session : Session language) : List String × Session language :=
  (session.lines.toList, { session with lines := #[] })

end Session

end Landform
