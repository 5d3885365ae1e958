import Landform.Proofs.AlgorithmCalls
import Landform.Proofs.MapScript
import Landform.Proofs.ReadTrees

namespace Landform

open Script

variable {language : Language}

/-!
# What becomes of a landscape description

A description is read, its first map is taken, and if overlays of that map are decided by a
script, the game script beside the description is opened, read and linked.  Then the map is
painted.  Unknown materials are reported in front of everything that happens while painting,
and a function that has failed once is not called again.

What a run depends on is held by `OverlayRun`, and how it ends is said stage by stage, once
for the session and once without one.  `generate_description_outcome` names the first
condition that fails.
-/

/-! ## Runs -/

open Generation

/-- What a run of a description depends on once its map and its game script are read. -/
structure OverlayRun (language : Language) where
  footing : Footing
  resolver : Resolver
  format : MapFormat
  map : Landscape.Node
  program : language.Program

namespace OverlayRun

/-- The link of a run: the system scripts and the game script. -/
def linking (run : OverlayRun language) : Linking language :=
  run.footing.linking
    (language.inSequence (readable language run.footing.cached ++ [run.program]))

/-- The calls of a run before any is made. -/
def uncalled (run : OverlayRun language) : Calling language where
  linked := run.linking.linked
  lines := run.linking.start.lines

/-- The map as it is painted, with what its calls leave. -/
def canvas (run : OverlayRun language) : Landscape.Canvas (Calling language) :=
  let size := run.format.sizeFor renderedPlayers
  Landscape.paint (callHost run.linking.setting) run.resolver run.map size.1 size.2 run.uncalled

/-- The calls that the rendering performs, in order. -/
def calls (run : OverlayRun language) : List AlgorithmCall :=
  run.canvas.state.calls

/-- What a rendering reports: the unknown materials, and then the calls that fail. -/
def reports (run : OverlayRun language) : List String :=
  Landscape.unknownMaterials run.resolver run.map ++ run.canvas.state.failures

/-- How rendering ends once the scripts are linked. -/
def rendered (run : OverlayRun language) : Except Fault GeneratedMap := do
  SessionStep.failure "LANDSCAPE_RENDER" run.reports.head?
  return SessionStep.mapWith run.canvas.foreground run.canvas.background run.canvas.state.lines

/-- The scripts of a run are linked in a session, and nothing was done with them since. -/
structure IsReadyIn (run : OverlayRun language) (session : Session language) : Prop where
  linked : Exists fun engine =>
    session.engine? = some engine ∧ engine.linked? = some run.linking.linked
  setting : session.setting = run.linking.setting
  written : session.lines = run.linking.start.lines.toArray

/-- What painting starts from in a session: the unknown materials are reported, and no function
has failed. -/
def startIn (run : OverlayRun language) (session : Session language) : OverlayState language :=
  ⟨reportAll (Landscape.unknownMaterials run.resolver run.map) session.clearJournal, []⟩

/-- The map as it is painted in a session, with what the session's calls leave. -/
def paintedIn (run : OverlayRun language) (session : Session language) :
    Landscape.Canvas (OverlayState language) :=
  let size := run.format.sizeFor renderedPlayers
  Landscape.paint overlayHost run.resolver run.map size.1 size.2 (run.startIn session)

/-- How a run ends, stage by stage. -/
def outcome (run : OverlayRun language) : Except Fault GeneratedMap := do
  SessionStep.failure "SCRIPT_LINK" (SessionStep.firstOfSeveral? run.linking.diagnostics)
  SessionStep.failure "LANDSCAPE_RENDER"
    (Landscape.unknownMaterials run.resolver run.map ++ run.canvas.state.failures).head?
  return SessionStep.mapWith run.canvas.foreground run.canvas.background run.canvas.state.lines

end OverlayRun

namespace Generation

theorem reportAll_eq (messages : List String) (session : Session language) :
    reportAll messages session =
      { session with journal := session.journal.append messages.toArray } := by
  induction messages generalizing session with
  | nil =>
      simp only [reportAll, List.foldl_nil, Journal.append_empty]
  | cons message rest inductionHypothesis =>
      have later := inductionHypothesis (session.report message)
      simp only [reportAll, List.foldl_cons] at later ⊢
      rw [later]
      simp only [Session.report, Journal.push_eq_append, Journal.append_append,
        List.append_toArray, List.singleton_append]

end Generation

namespace OverlayRun

variable {run : OverlayRun language} {session : Session language}

theorem startIn_mirrors (ready : run.IsReadyIn session) :
    Mirrors run.linking.setting (Landscape.unknownMaterials run.resolver run.map)
      (run.startIn session) run.uncalled := by
  simp only [startIn, reportAll_eq]
  refine ⟨ready.linked, rfl, ready.setting, ready.written, ?_, fun _ => rfl⟩
  simp only [Session.clearJournal, Journal.clear, Journal.append, Array.empty_append, uncalled,
    Calling.failures, List.filterMap_nil, List.append_nil]

/-- A session where the scripts are linked paints the map as the calls paint it, and in its
journal there are the unknown materials and the calls that have failed. -/
theorem paintedIn_mirrors (ready : run.IsReadyIn session) :
    (run.paintedIn session).foreground = run.canvas.foreground ∧
      (run.paintedIn session).background = run.canvas.background ∧
      Mirrors run.linking.setting (Landscape.unknownMaterials run.resolver run.map)
        (run.paintedIn session).state run.canvas.state :=
  Landscape.paint_alike (overlayHost_mirrors run.linking.setting _) run.resolver run.map
    (run.format.sizeFor renderedPlayers).1 (run.format.sizeFor renderedPlayers).2
    (startIn_mirrors ready)

theorem paintedIn_journal (ready : run.IsReadyIn session) :
    (run.paintedIn session).state.session.journal = ⟨run.reports.toArray⟩ :=
  (paintedIn_mirrors ready).2.2.journal

/-- Rendering ends without any report if it ends with a map. -/
theorem rendered_ends (run : OverlayRun language) {after : Session language}
    (journal : after.journal = ⟨run.reports.toArray⟩) :
    Ends (run.rendered, after) run.rendered := by
  refine ⟨rfl, fun made ends => ?_⟩
  cases reported : run.reports with
  | nil => rw [journal, reported]
  | cons first rest =>
      rw [rendered, reported] at ends
      cases ends

end OverlayRun

namespace Generation

/-- How rendering with the linked game script ends.  The lines the scripts have written are
taken out of the session only if nothing was reported. -/
theorem renderWithScript_eq (request : GenerationRequest) {run : OverlayRun language}
    {session : Session language} (ready : run.IsReadyIn session)
    (resolver : run.resolver = request.resolver) (format : run.format = request.format) :
    let left := (run.paintedIn session).state.session
    renderWithScript request run.map session =
      (run.rendered, if run.reports.isEmpty then left.takeLines.2 else left) := by
  intro left
  have journal : left.journal = ⟨run.reports.toArray⟩ := OverlayRun.paintedIn_journal ready
  rcases OverlayRun.paintedIn_mirrors ready with ⟨fores, backs, mirrors⟩
  have painted : paintWithScript request run.map (run.startIn session).session =
      (.ok (run.canvas.foreground, run.canvas.background), left) := by
    rw [← fores, ← backs]
    simp only [paintWithScript, SessionStep.of, ← resolver, ← format]
    rfl
  simp only [OverlayRun.startIn] at painted
  simp only [renderWithScript, SessionStep.bind_apply, SessionStep.change, SessionStep.of,
    ← resolver, painted, SessionStep.failOnReport_apply "LANDSCAPE_RENDER" _ journal,
    OverlayRun.rendered]
  generalize run.reports = reports at journal ⊢
  cases reports with
  | cons first rest => rfl
  | nil =>
      have sides := Landscape.paint_sides (callHost run.linking.setting) run.resolver run.map
        (run.format.sizeFor renderedPlayers).1 (run.format.sizeFor renderedPlayers).2 run.uncalled
      have widths : run.canvas.foreground.width = run.canvas.background.width :=
        sides.1.trans sides.2.2.1.symm
      have heights : run.canvas.foreground.height = run.canvas.background.height :=
        sides.2.1.trans sides.2.2.2.symm
      have lines : left.lines.toList = run.canvas.state.lines := by
        rw [mirrors.lines]
      simp only [List.head?_nil, SessionStep.failure, Session.takeLines, lines,
        SessionStep.mapOf_apply _ widths heights, List.isEmpty_nil, if_true]
      rfl

/-- How a run goes on once the directory of its game script was opened, or could not be. -/
def openedOutcome (language : Language) (footing : Footing) (request : GenerationRequest)
    (map : Landscape.Node) (path fileName : String) (opened : Except Fault Archive) :
    Except Fault GeneratedMap := do
  let script ← opened.bind fun archive => scriptIn archive path fileName
  match readScriptSource language script with
  | .error message => .error { code := "SCRIPT_PARSE", message := message }
  | .ok program =>
      (OverlayRun.mk footing request.resolver request.format map program).outcome

section

variable {footing : Footing} {request : GenerationRequest} {map : Landscape.Node}
variable {path fileName : String} {opened : Except Fault Archive}

theorem openedOutcome_of_error {fault : Fault}
    (found : (opened.bind fun archive => scriptIn archive path fileName) = .error fault) :
    openedOutcome language footing request map path fileName opened = .error fault := by
  rw [openedOutcome, found]
  rfl

variable {archive : Archive}

theorem openedOutcome_of_ok {script : ScriptSource}
    (found : scriptIn archive path fileName = .ok script) :
    openedOutcome language footing request map path fileName (.ok archive) =
      match readScriptSource language script with
      | .error message => .error { code := "SCRIPT_PARSE", message := message }
      | .ok program =>
          (OverlayRun.mk footing request.resolver request.format map program).outcome := by
  rw [openedOutcome, Except.bind, found]
  rfl

theorem scriptIn_of_missing (entry : archive.find fileName = []) :
    scriptIn archive path fileName = .error (noScriptFile path) := by
  rw [scriptIn, entry]
  rfl

theorem scriptIn_of_error {fault : Fault} (entry : archive.find fileName ≠ [])
    (text : archive.read fileName = .error fault) :
    scriptIn archive path fileName = .error fault := by
  rw [scriptIn, List.isEmpty_eq_false_iff.mpr entry, text]
  rfl

theorem scriptIn_of_ok {source : String} (entry : archive.find fileName ≠ [])
    (text : archive.read fileName = .ok source) :
    scriptIn archive path fileName = .ok ⟨fileName, source⟩ := by
  rw [scriptIn, List.isEmpty_eq_false_iff.mpr entry, text]
  rfl

end

section

variable (request : GenerationRequest) (map : Landscape.Node) (path fileName : String)

/-- A game script that was read is linked in the session, whatever the session was before.  If
that goes well, what is left is to render with it. -/
theorem afterOpening_of_script {opened : Except Fault Archive} (session : Session language)
    {script : ScriptSource} {program : language.Program}
    (found : (opened.bind fun archive => scriptIn archive path fileName) = .ok script)
    (read : readScriptSource language script = .ok program) :
    let run : OverlayRun language :=
      ⟨⟨session.cached, [], session.players, session.teams⟩, request.resolver, request.format,
        map, program⟩
    Exists fun linked => run.IsReadyIn linked ∧
      afterOpening request map path fileName opened session.setUp =
        match SessionStep.firstOfSeveral? run.linking.diagnostics with
        | some message => (.error { code := "SCRIPT_LINK", message := message }, linked)
        | none => renderWithScript request map linked := by
  intro run
  let engine : Engine language :=
    { system := readable language session.cached, game? := some program }
  have start := Session.setUp_clearJournal session
  have linking : run.footing.linking engine.program = run.linking := by
    simp only [OverlayRun.linking, Engine.program, Option.toList_some, Option.toList_none,
      List.append_nil, run, engine]
  have cleared : (run.footing.session (session.generation + 1) engine).clearJournal =
      run.footing.session (session.generation + 1) engine := rfl
  have linkEnds := SessionStep.link_apply cleared
  have isThere := Session.linkedBy_engine run.footing (session.generation + 1) engine
  have told := Session.linkedBy_setting run.footing (session.generation + 1) engine
  have written := Session.linkedBy_lines run.footing (session.generation + 1) engine
  rw [linking] at linkEnds isThere told written
  refine ⟨_, ⟨⟨_, isThere, rfl⟩, told, written⟩, ?_⟩
  simp only [afterOpening, SessionStep.bind_apply, SessionStep.of, found,
    SessionStep.load_apply start, read]
  simp only [engine, run] at linkEnds
  simp only [Engine.withScript, linkEnds]
  cases SessionStep.firstOfSeveral? run.linking.diagnostics <;> rfl

/-- What is opened is read, linked and painted with, whatever the session was before. -/
theorem afterOpening_apply (opened : Except Fault Archive) (session : Session language) :
    let footing : Footing := ⟨session.cached, [], session.players, session.teams⟩
    Ends (afterOpening request map path fileName opened session.setUp)
      (openedOutcome language footing request map path fileName opened) := by
  intro footing
  have start := Session.setUp_clearJournal session
  cases found : opened.bind fun archive => scriptIn archive path fileName with
  | error fault =>
      simp only [afterOpening, openedOutcome, SessionStep.bind_apply, SessionStep.of, found]
      exact Ends.of_error _ _
  | ok script =>
      cases read : readScriptSource language script with
      | error message =>
          simp only [afterOpening, openedOutcome, SessionStep.bind_apply, SessionStep.of, found,
            SessionStep.load_apply start]
          simp only [bind, Except.bind, read]
          exact Ends.of_error _ _
      | ok program =>
          let run : OverlayRun language :=
            ⟨footing, request.resolver, request.format, map, program⟩
          have outcome : openedOutcome language footing request map path fileName opened =
              run.outcome := by
            simp only [openedOutcome, found]
            simp only [bind, Except.bind, read, run]
          rcases afterOpening_of_script request map path fileName session found read with
            ⟨linked, ready, ends⟩
          rw [outcome, ends]
          cases linkFault : SessionStep.firstOfSeveral? run.linking.diagnostics with
          | some message =>
              have stopped : run.outcome =
                  .error { code := "SCRIPT_LINK", message := message } := by
                rw [OverlayRun.outcome, linkFault]
                rfl
              rw [stopped]
              exact Ends.of_error _ _
          | none =>
              have goesOn : run.outcome = run.rendered := by
                rw [OverlayRun.outcome, linkFault]
                rfl
              rw [goesOn]
              have rendered := renderWithScript_eq request ready rfl rfl
              simp only [run] at rendered ⊢
              rw [rendered]
              refine OverlayRun.rendered_ends _ ?_
              split <;> exact OverlayRun.paintedIn_journal ready

end

/-! ## Maps without script overlays -/

/-- How a run ends that asks no script. -/
def aloneOutcome (request : GenerationRequest) (map : Landscape.Node) :
    Except Fault GeneratedMap := do
  let rendering := Landscape.renderAlone request.resolver request.format renderedPlayers map
  SessionStep.failure "LANDSCAPE_RENDER" rendering.messages.head?
  return SessionStep.mapWith rendering.foreground rendering.background []

/-- Rendering without a script writes a new journal and changes nothing else in a session. -/
theorem renderAlone_eq (request : GenerationRequest) (map : Landscape.Node)
    (session : Session language) :
    renderAlone request map session =
      (aloneOutcome request map,
        { session with
          journal :=
            ⟨(Landscape.renderAlone request.resolver request.format renderedPlayers
              map).messages.toArray⟩ }) := by
  let rendering := Landscape.renderAlone request.resolver request.format renderedPlayers map
  let after : Session language := reportAll rendering.messages session.clearJournal
  have left : after = { session with journal := ⟨rendering.messages.toArray⟩ } := by
    simp only [after, reportAll_eq, Session.clearJournal, Journal.clear, Journal.append,
      Array.empty_append]
  have sides := Landscape.paint_sides Landscape.ScriptHost.absent request.resolver map
    (request.format.sizeFor renderedPlayers).1 (request.format.sizeFor renderedPlayers).2 none
  have widths : rendering.foreground.width = rendering.background.width :=
    sides.1.trans sides.2.2.1.symm
  have heights : rendering.foreground.height = rendering.background.height :=
    sides.2.1.trans sides.2.2.2.symm
  have failed := SessionStep.failOnReport_apply "LANDSCAPE_RENDER" rendering.messages
    (congrArg Session.journal left)
  simp only [after, rendering] at left failed
  simp only [renderAlone, SessionStep.bind_apply, SessionStep.change, SessionStep.of,
    aloneOutcome, failed]
  cases messages : rendering.messages with
  | nil =>
      simp only [rendering] at widths heights messages
      simp only [messages] at left ⊢
      simp only [List.head?_nil, SessionStep.failure, SessionStep.mapOf_apply _ widths heights,
        left]
      rfl
  | cons first rest =>
      simp only [rendering] at messages
      simp only [messages] at left ⊢
      simp only [List.head?_cons, SessionStep.failure, left]
      rfl

theorem renderAlone_apply (request : GenerationRequest) (map : Landscape.Node)
    (session : Session language) :
    Ends (renderAlone request map session) (aloneOutcome request map) := by
  rw [renderAlone_eq]
  refine ⟨rfl, fun made ends => ?_⟩
  cases messages : (Landscape.renderAlone request.resolver request.format renderedPlayers
    map).messages with
  | nil => rfl
  | cons first rest =>
      simp only [aloneOutcome, messages] at ends
      cases ends

/-- Without script overlays only unknown materials are reported. -/
theorem renderAlone_messages {map : Landscape.Node}
    (unasked : Landscape.AskNothing map.children) (resolver : Resolver) (format : MapFormat)
    (players : Nat) :
    (Landscape.renderAlone resolver format players map).messages =
      Landscape.unknownMaterials resolver map := by
  have still := Landscape.paint_unasked Landscape.ScriptHost.absent resolver map unasked
    (format.sizeFor players).1 (format.sizeFor players).2 none
  simp only [Landscape.renderAlone, Landscape.render]
  rw [still]
  simp only [Option.map_none, Option.toList_none, List.append_nil]

/-- A map that was read and has no script overlay asks nothing, whatever its own pattern is. -/
theorem askNothing_of_read {source : String} {document : Landscape.Document}
    (read : Landscape.Document.ofText source = .ok document) {map : Landscape.Node}
    (member : map ∈ document.maps) (asks : map.asksScript = false) :
    Landscape.AskNothing map.children := by
  intro inner inside script
  have found : inner ∈ map.preorder := by
    cases map with
    | mk header attributes children => exact List.mem_cons_of_mem _ inside
  have overlay : inner.isScriptOverlay = true := by
    rw [Landscape.isScriptOverlay_inside read member inside, script]
    rfl
  have someAsks : map.asksScript = true := List.any_eq_true.mpr ⟨inner, found, overlay⟩
  rw [asks] at someAsks
  cases someAsks

end Generation

/-! ## Conditions of a description -/

/-- What a request for a description is carried out with. -/
structure Describing where
  footing : Footing
  answers : String -> Except Fault Archive
  request : GenerationRequest

namespace Describing

/-- A map is the first of the description. -/
def HasMap (describing : Describing) (map : Landscape.Node) : Prop :=
  Exists fun document =>
    Landscape.Document.ofText describing.request.source = .ok document ∧
      document.maps.head? = some map

/-- The game script beside the description is there and can be read. -/
inductive GameScript (language : Language) (describing : Describing) :
    language.Program -> Prop where
  | found {path fileName source : String} {archive : Archive} {program : language.Program}
      (saved : describing.request.scriptPath? = some path)
      (named : Path.fileName? path = some fileName)
      (opened : describing.answers (Path.directory path) = .ok archive)
      (entry : archive.find fileName ≠ [])
      (text : archive.read fileName = .ok source)
      (read : readScriptSource language ⟨fileName, source⟩ = .ok program) :
      GameScript language describing program

/-- The first thing that keeps the game script from being read, as it is reported. -/
inductive NoGameScript (language : Language) (describing : Describing) : String -> Prop where
  | unsaved (saved : describing.request.scriptPath? = none) :
      NoGameScript language describing noScriptPath.message
  | unnamed {path : String} (saved : describing.request.scriptPath? = some path)
      (named : Path.fileName? path = none) :
      NoGameScript language describing (noScriptName path).message
  | closed {path fileName : String} {fault : Fault}
      (saved : describing.request.scriptPath? = some path)
      (named : Path.fileName? path = some fileName)
      (opened : describing.answers (Path.directory path) = .error fault) :
      NoGameScript language describing fault.report
  | missing {path fileName : String} {archive : Archive}
      (saved : describing.request.scriptPath? = some path)
      (named : Path.fileName? path = some fileName)
      (opened : describing.answers (Path.directory path) = .ok archive)
      (entry : archive.find fileName = []) :
      NoGameScript language describing (noScriptFile path).message
  | unreadable {path fileName : String} {archive : Archive} {fault : Fault}
      (saved : describing.request.scriptPath? = some path)
      (named : Path.fileName? path = some fileName)
      (opened : describing.answers (Path.directory path) = .ok archive)
      (entry : archive.find fileName ≠ [])
      (text : archive.read fileName = .error fault) :
      NoGameScript language describing fault.report
  | misread {path fileName source message : String} {archive : Archive}
      (saved : describing.request.scriptPath? = some path)
      (named : Path.fileName? path = some fileName)
      (opened : describing.answers (Path.directory path) = .ok archive)
      (entry : archive.find fileName ≠ [])
      (text : archive.read fileName = .ok source)
      (read : readScriptSource language ⟨fileName, source⟩ = .error message) :
      NoGameScript language describing message

/-- The run of a map with its game script. -/
def run (describing : Describing) (map : Landscape.Node) (program : language.Program) :
    OverlayRun language where
  footing := describing.footing
  resolver := describing.request.resolver
  format := describing.request.format
  map := map
  program := program

/-- No block of a map, shown or not, names a material that is not in the tables. -/
def KnowsMaterials (describing : Describing) (map : Landscape.Node) : Prop :=
  ∀ node ∈ map.preorder, ∀ spec, node.attributes.materialSpec = some spec ->
    (describing.request.resolver.resolve spec).isSome = true

/-- The game script of a map is linked, if the map has a script overlay. -/
def Ready (language : Language) (describing : Describing) (map : Landscape.Node) : Prop :=
  map.asksScript = true -> Exists fun program : language.Program =>
    describing.GameScript language program ∧
      (describing.run map program).linking.diagnostics.length ≤ 1

/-- All conditions of a description are met. -/
inductive Succeeds (language : Language) (describing : Describing) : Prop where
  | alone {map : Landscape.Node} (first : describing.HasMap map)
      (alone : map.asksScript = false) (known : describing.KnowsMaterials map) :
      Succeeds language describing
  | scripted {map : Landscape.Node} {program : language.Program}
      (first : describing.HasMap map) (asks : map.asksScript = true)
      (script : describing.GameScript language program)
      (linked : (describing.run map program).linking.diagnostics.length ≤ 1)
      (known : describing.KnowsMaterials map)
      (called : ∀ call ∈ (describing.run map program).calls, call.failure? = none) :
      Succeeds language describing

/-- The first condition of a description that is not met, as it is reported. -/
inductive Fails (language : Language) (describing : Describing) : String -> Prop where
  | unread {offence : Landscape.DescriptionFault}
      (read : Landscape.Document.ofText describing.request.source = .error offence) :
      Fails language describing (offence.fault describing.request.fileName).message
  | mapless {document : Landscape.Document}
      (read : Landscape.Document.ofText describing.request.source = .ok document)
      (none : document.maps.head? = none) :
      Fails language describing GenerationRequest.noMap.message
  | scriptless {map : Landscape.Node} {message : String} (first : describing.HasMap map)
      (asks : map.asksScript = true) (without : describing.NoGameScript language message) :
      Fails language describing message
  | unlinked {map : Landscape.Node} {program : language.Program} {message second : String}
      {rest : List String} (first : describing.HasMap map) (asks : map.asksScript = true)
      (script : describing.GameScript language program)
      (reported : (describing.run map program).linking.diagnostics = message :: second :: rest) :
      Fails language describing message
  | unknown {map : Landscape.Node} {message : String} {rest : List String}
      (first : describing.HasMap map) (ready : describing.Ready language map)
      (reported : Landscape.unknownMaterials describing.request.resolver map = message :: rest) :
      Fails language describing message
  | uncalled {map : Landscape.Node} {program : language.Program} {before after : List AlgorithmCall}
      {call : AlgorithmCall} {message : String} (first : describing.HasMap map)
      (asks : map.asksScript = true) (script : describing.GameScript language program)
      (linked : (describing.run map program).linking.diagnostics.length ≤ 1)
      (known : describing.KnowsMaterials map)
      (calls : (describing.run map program).calls = before ++ call :: after)
      (answered : ∀ earlier ∈ before, earlier.failure? = none)
      (failed : call.failure? = some message) :
      Fails language describing message

/-- How a request goes on with the first map of its description. -/
def outcomeOf (language : Language) (describing : Describing) (map : Landscape.Node) :
    Except Fault GeneratedMap :=
  if map.asksScript then
    match describing.request.scriptPath? with
    | none => .error noScriptPath
    | some path =>
        match Path.fileName? path with
        | none => .error (noScriptName path)
        | some fileName =>
            openedOutcome language describing.footing describing.request map path fileName
              (describing.answers (Path.directory path))
  else aloneOutcome describing.request map

/-- How a request for a description ends. -/
def outcome (language : Language) (describing : Describing) : Except Fault GeneratedMap := do
  let map ← describing.request.map?
  describing.outcomeOf language map

end Describing

/-! ## Outcomes under each condition -/

namespace OverlayRun

theorem outcome_of_link {run : OverlayRun language} {message second : String}
    {rest : List String} (reported : run.linking.diagnostics = message :: second :: rest) :
    run.outcome = .error { code := "SCRIPT_LINK", message := message } := by
  rw [outcome, reported]
  rfl

/-- Behind a good link, the first message about the map itself ends the run. -/
theorem outcome_of_linked {run : OverlayRun language}
    (linked : run.linking.diagnostics.length ≤ 1) : run.outcome = run.rendered := by
  rw [outcome, SessionStep.firstOfSeveral_of_few linked]
  rfl

theorem outcome_of_message {run : OverlayRun language}
    (linked : run.linking.diagnostics.length ≤ 1) {message : String} {rest : List String}
    (reported : Landscape.unknownMaterials run.resolver run.map ++ run.canvas.state.failures =
      message :: rest) :
    run.outcome = .error { code := "LANDSCAPE_RENDER", message := message } := by
  rw [outcome_of_linked linked, rendered, reports, reported]
  rfl

theorem outcome_of_quiet {run : OverlayRun language}
    (linked : run.linking.diagnostics.length ≤ 1)
    (known : Landscape.unknownMaterials run.resolver run.map = [])
    (called : run.canvas.state.failures = []) :
    run.outcome = .ok (SessionStep.mapWith run.canvas.foreground run.canvas.background
      run.canvas.state.lines) := by
  rw [outcome_of_linked linked, rendered, reports, known, called]
  rfl

end OverlayRun

namespace Describing

variable {describing : Describing} {map : Landscape.Node}

theorem HasMap.isFirst (first : describing.HasMap map) : describing.request.map? = .ok map := by
  rcases first with ⟨document, read, head⟩
  simp only [GenerationRequest.map?, read, head]

theorem outcome_of_hasMap (first : describing.HasMap map) :
    describing.outcome language = describing.outcomeOf language map := by
  rw [outcome, first.isFirst]
  rfl

theorem outcome_of_alone (first : describing.HasMap map) (alone : map.asksScript = false) :
    describing.outcome language = aloneOutcome describing.request map := by
  rw [outcome_of_hasMap first, outcomeOf, alone]
  rfl

theorem outcome_of_noGameScript {message : String} (first : describing.HasMap map)
    (asks : map.asksScript = true) (without : describing.NoGameScript language message) :
    Exists fun fault => describing.outcome language = .error fault ∧ fault.report = message := by
  rw [outcome_of_hasMap first]
  cases without with
  | unsaved saved =>
      refine ⟨noScriptPath, ?_, Fault.report_eq_message (by decide +kernel)⟩
      simp only [outcomeOf, asks, saved, if_true]
  | @unnamed path saved named =>
      have spoken : Text.isBlankText (noScriptName path).message = false :=
        Text.isBlankText_of_front (Text.isBlankText_of_front (by decide +kernel) path) _
      refine ⟨noScriptName path, ?_, Fault.report_eq_message spoken⟩
      simp only [outcomeOf, asks, saved, named, if_true]
  | @closed path fileName fault saved named opened =>
      refine ⟨fault, ?_, rfl⟩
      simp only [outcomeOf, asks, saved, named, opened, if_true]
      exact openedOutcome_of_error rfl
  | @missing path fileName archive saved named opened entry =>
      have spoken : Text.isBlankText (noScriptFile path).message = false :=
        Text.isBlankText_of_front (Text.isBlankText_of_front (by decide +kernel) path) _
      refine ⟨noScriptFile path, ?_, Fault.report_eq_message spoken⟩
      simp only [outcomeOf, asks, saved, named, opened, if_true]
      exact openedOutcome_of_error (scriptIn_of_missing entry)
  | @unreadable path fileName archive fault saved named opened entry text =>
      refine ⟨fault, ?_, rfl⟩
      simp only [outcomeOf, asks, saved, named, opened, if_true]
      exact openedOutcome_of_error (scriptIn_of_error entry text)
  | @misread path fileName source message archive saved named opened entry text read =>
      refine ⟨{ code := "SCRIPT_PARSE", message := message }, ?_,
        Fault.report_eq_message (readScriptSource_spoken read)⟩
      simp only [outcomeOf, asks, saved, named, opened, if_true]
      rw [openedOutcome_of_ok (scriptIn_of_ok entry text), read]

theorem outcome_of_gameScript {program : language.Program} (first : describing.HasMap map)
    (asks : map.asksScript = true) (script : describing.GameScript language program) :
    describing.outcome language = (describing.run map program).outcome := by
  rw [outcome_of_hasMap first]
  cases script with
  | @found path fileName source archive program saved named opened entry text read =>
      simp only [outcomeOf, asks, saved, named, opened, if_true]
      rw [openedOutcome_of_ok (scriptIn_of_ok entry text), read]
      rfl

theorem gameScript_or_not (language : Language) (describing : Describing) :
    (Exists fun program => describing.GameScript language program) ∨
      Exists fun message => describing.NoGameScript language message := by
  cases saved : describing.request.scriptPath? with
  | none => exact Or.inr ⟨_, .unsaved saved⟩
  | some path =>
      cases named : Path.fileName? path with
      | none => exact Or.inr ⟨_, .unnamed saved named⟩
      | some fileName =>
          cases opened : describing.answers (Path.directory path) with
          | error fault => exact Or.inr ⟨_, .closed saved named opened⟩
          | ok archive =>
              by_cases entry : archive.find fileName = []
              · exact Or.inr ⟨_, .missing saved named opened entry⟩
              · cases text : archive.read fileName with
                | error fault => exact Or.inr ⟨_, .unreadable saved named opened entry text⟩
                | ok source =>
                    cases read : readScriptSource language ⟨fileName, source⟩ with
                    | error message =>
                        exact Or.inr ⟨_, .misread saved named opened entry text read⟩
                    | ok program => exact Or.inl ⟨_, .found saved named opened entry text read⟩

end Describing

/-! ## One condition fails first, or none does -/

theorem unknownMaterial_none_iff (resolver : Resolver) (node : Landscape.Node) :
    Landscape.unknownMaterial? resolver node = none ↔
      ∀ spec, node.attributes.materialSpec = some spec ->
        (resolver.resolve spec).isSome = true := by
  unfold Landscape.unknownMaterial?
  cases named : node.attributes.materialSpec with
  | none =>
      constructor
      · intro _ spec impossible
        cases impossible
      · intro _
        rfl
  | some spec =>
      cases resolved : resolver.resolve spec with
      | none =>
          simp only [resolved]
          constructor
          · intro impossible
            cases impossible
          · intro known
            have impossible := known spec rfl
            rw [resolved] at impossible
            cases impossible
      | some material =>
          simp only [resolved, true_iff]
          intro other same
          rw [← Option.some.inj same, resolved]
          rfl

theorem unknownMaterials_spoken (resolver : Resolver) (map : Landscape.Node) :
    ∀ message ∈ Landscape.unknownMaterials resolver map,
      Text.isBlankText message = false := by
  intro message member
  rcases List.mem_filterMap.mp member with ⟨node, inside, reported⟩
  unfold Landscape.unknownMaterial? at reported
  split at reported
  · cases reported
  · split at reported
    · cases reported
    · rw [← Option.some.inj reported]
      exact Text.isBlankText_of_front
        (Text.isBlankText_of_front (Text.isBlankText_of_back _ (by decide +kernel)) _) _

namespace Describing

variable {describing : Describing} {map : Landscape.Node}

theorem knowsMaterials_iff : describing.KnowsMaterials map ↔
    Landscape.unknownMaterials describing.request.resolver map = [] := by
  rw [Landscape.unknownMaterials, List.filterMap_eq_nil_iff]
  constructor
  · intro known node member
    exact (unknownMaterial_none_iff _ node).mpr (known node member)
  · intro silent node member
    exact (unknownMaterial_none_iff _ node).mp (silent node member)

/-- Without script overlays unknown materials are all that a map may fail for. -/
theorem outcome_of_alone_messages (first : describing.HasMap map)
    (alone : map.asksScript = false) :
    Exists fun made => describing.outcome language = do
      SessionStep.failure "LANDSCAPE_RENDER"
        (Landscape.unknownMaterials describing.request.resolver map).head?
      return made := by
  rcases first with ⟨document, read, head⟩
  have member := List.mem_of_head? head
  have messages := renderAlone_messages (askNothing_of_read read member alone)
    describing.request.resolver describing.request.format renderedPlayers
  rw [outcome_of_alone ⟨document, read, head⟩ alone, aloneOutcome, messages]
  exact ⟨_, rfl⟩

theorem outcome_of_succeeds (succeeds : describing.Succeeds language) :
    Exists fun made => describing.outcome language = .ok made := by
  cases succeeds with
  | alone first alone known =>
      rcases outcome_of_alone_messages first alone with ⟨made, ends⟩
      rw [ends, knowsMaterials_iff.mp known]
      exact ⟨made, rfl⟩
  | @scripted map program first asks script linked known called =>
      have silent : (describing.run map program).canvas.state.failures = [] :=
        List.filterMap_eq_nil_iff.mpr called
      rw [outcome_of_gameScript first asks script,
        OverlayRun.outcome_of_quiet linked (knowsMaterials_iff.mp known) silent]
      exact ⟨_, rfl⟩

theorem outcome_of_fails {message : String} (fails : describing.Fails language message) :
    Exists fun fault => describing.outcome language = .error fault ∧ fault.report = message := by
  cases fails with
  | @unread offence read =>
      have spoken : Text.isBlankText
          (offence.fault describing.request.fileName).message = false :=
        Text.isBlankText_of_front
          (Text.isBlankText_of_back _ (Text.isBlankText_of_back _ (by decide +kernel))) _
      refine ⟨_, ?_, Fault.report_eq_message spoken⟩
      simp only [outcome, GenerationRequest.map?, read]
      rfl
  | mapless read none =>
      refine ⟨GenerationRequest.noMap, ?_, Fault.report_eq_message (by decide +kernel)⟩
      simp only [outcome, GenerationRequest.map?, read, none]
      rfl
  | scriptless first asks without => exact outcome_of_noGameScript first asks without
  | @unlinked map program message second rest first asks script reported =>
      have spoken := Footing.linking_spoken _ _ message (reported ▸ List.mem_cons_self)
      refine ⟨{ code := "SCRIPT_LINK", message := message }, ?_,
        Fault.report_eq_message spoken⟩
      rw [outcome_of_gameScript first asks script, OverlayRun.outcome_of_link reported]
  | @unknown map message rest first ready reported =>
      have spoken := unknownMaterials_spoken _ _ message (reported ▸ List.mem_cons_self)
      refine ⟨{ code := "LANDSCAPE_RENDER", message := message }, ?_,
        Fault.report_eq_message spoken⟩
      cases asks : map.asksScript with
      | false =>
          rcases outcome_of_alone_messages first asks with ⟨made, ends⟩
          rw [ends, reported]
          rfl
      | true =>
          rcases ready asks with ⟨program, script, linked⟩
          have messages : Landscape.unknownMaterials (describing.run map program).resolver
              (describing.run map program).map ++
                (describing.run map program).canvas.state.failures =
              message :: (rest ++ (describing.run map program).canvas.state.failures) := by
            have here : Landscape.unknownMaterials (describing.run map program).resolver
                (describing.run map program).map = message :: rest := reported
            rw [here]
            rfl
          rw [outcome_of_gameScript first asks script,
            OverlayRun.outcome_of_message linked messages]
  | @uncalled map program before after call message first asks script linked known calls answered
      failed =>
      have failures : (describing.run map program).canvas.state.failures =
          message :: after.filterMap AlgorithmCall.failure? :=
        List.filterMap_eq_cons_iff.mpr ⟨before, call, after, calls, answered, failed, rfl⟩
      have spoken := failures_spoken (describing.run map program).linking.setting
        (describing.run map program).resolver map _ _ rfl message
        (failures ▸ List.mem_cons_self)
      have messages : Landscape.unknownMaterials (describing.run map program).resolver
          (describing.run map program).map ++
            (describing.run map program).canvas.state.failures =
          message :: after.filterMap AlgorithmCall.failure? := by
        have here : Landscape.unknownMaterials (describing.run map program).resolver
            (describing.run map program).map = [] := knowsMaterials_iff.mp known
        rw [here, failures]
        rfl
      refine ⟨{ code := "LANDSCAPE_RENDER", message := message }, ?_,
        Fault.report_eq_message spoken⟩
      rw [outcome_of_gameScript first asks script,
        OverlayRun.outcome_of_message linked messages]

theorem alone_succeeds_or_fails (language : Language) (first : describing.HasMap map)
    (alone : map.asksScript = false) :
    describing.Succeeds language ∨ Exists fun message => describing.Fails language message := by
  have ready : describing.Ready language map := by
    intro asks
    rw [alone] at asks
    cases asks
  cases reported : Landscape.unknownMaterials describing.request.resolver map with
  | nil => exact Or.inl (.alone first alone (knowsMaterials_iff.mpr reported))
  | cons message rest => exact Or.inr ⟨message, .unknown first ready reported⟩

theorem scripted_succeeds_or_fails {program : language.Program}
    (first : describing.HasMap map) (asks : map.asksScript = true)
    (script : describing.GameScript language program) :
    describing.Succeeds language ∨ Exists fun message => describing.Fails language message := by
  match diagnostics : (describing.run map program).linking.diagnostics with
  | message :: second :: rest => exact Or.inr ⟨message, .unlinked first asks script diagnostics⟩
  | [] | [_] =>
      have linked : (describing.run map program).linking.diagnostics.length ≤ 1 := by
        rw [diagnostics]
        simp
      cases reported : Landscape.unknownMaterials describing.request.resolver map with
      | cons message rest =>
          exact Or.inr ⟨message, .unknown first (fun _ => ⟨program, script, linked⟩) reported⟩
      | nil =>
          have known := knowsMaterials_iff.mpr reported
          cases failures : (describing.run map program).canvas.state.failures with
          | nil =>
              have called := List.filterMap_eq_nil_iff.mp failures
              exact Or.inl (.scripted first asks script linked known called)
          | cons message rest =>
              rcases List.filterMap_eq_cons_iff.mp failures with
                ⟨before, call, after, calls, answered, failed, _⟩
              exact Or.inr ⟨message,
                .uncalled first asks script linked known calls answered failed⟩

/-- The conditions of a description are all met, or there is one that fails first. -/
theorem succeeds_or_fails (language : Language) (describing : Describing) :
    describing.Succeeds language ∨ Exists fun message => describing.Fails language message := by
  cases read : Landscape.Document.ofText describing.request.source with
  | error offence => exact Or.inr ⟨_, .unread read⟩
  | ok document =>
      cases head : document.maps.head? with
      | none => exact Or.inr ⟨_, .mapless read head⟩
      | some map =>
          have first : describing.HasMap map := ⟨document, read, head⟩
          cases asks : map.asksScript with
          | false => exact alone_succeeds_or_fails language first asks
          | true =>
              rcases gameScript_or_not language describing with
                ⟨program, script⟩ | ⟨message, without⟩
              · exact scripted_succeeds_or_fails first asks script
              · exact Or.inr ⟨message, .scriptless first asks without⟩

end Describing

namespace Generation

variable {m : Type -> Type} [Monad m] [LawfulMonad m]

/-- A description is carried out as its outcome says, whatever the session was before. -/
theorem byLandscape_apply (answers : String -> Except Fault Archive)
    (request : GenerationRequest) (session : Session language) :
    let describing : Describing :=
      ⟨⟨session.cached, [], session.players, session.teams⟩, answers, request⟩
    Exists fun answer =>
      byLandscape (fun path => (pure (answers path) : m (Except Fault Archive))) request session =
        pure answer ∧
      Ends answer (describing.outcome language) := by
  intro describing
  simp only [byLandscape, Describing.outcome, Describing.outcomeOf]
  cases first : request.map? with
  | error fault => exact ⟨_, rfl, Ends.of_error fault session⟩
  | ok map =>
      simp only [bind, Except.bind]
      cases asks : map.asksScript with
      | false =>
          simp only [Bool.false_eq_true, if_false]
          exact ⟨_, rfl, renderAlone_apply request map session⟩
      | true =>
          simp only [if_true]
          cases saved : request.scriptPath? with
          | none => exact ⟨_, rfl, Ends.of_error noScriptPath session⟩
          | some path =>
              cases named : Path.fileName? path with
              | none =>
                  simp only [named]
                  exact ⟨_, rfl, Ends.of_error (noScriptName path) session.setUp⟩
              | some fileName =>
                  simp only [named, pure_bind]
                  exact ⟨_, rfl, afterOpening_apply request map path fileName
                    (answers (Path.directory path)) session⟩

end Generation

/-! ## Results of generators -/

theorem ok_of_toOption {ε α : Type} {result : Except ε α} {a : α}
    (some : result.toOption = some a) : result = .ok a := by
  cases result with
  | error fault => cases some
  | ok b => cases some; rfl

namespace Generator

variable {m : Type -> Type} [Monad m] [LawfulMonad m]

/-- What a generator carries a request for a description out with. -/
def describing (generator : Generator language) (answers : String -> Except Fault Archive)
    (request : GenerationRequest) : Describing where
  footing :=
    { cached := generator.session.cached
      pending := []
      players := request.players
      teams := request.teams }
  answers := answers
  request := request

/-- **What becomes of a landscape description.**  A request succeeds just when all conditions
of the description are met, and otherwise reports the first that is not.  Neither the journal
nor what earlier requests have left is among the conditions.  On success the journal is
empty. -/
theorem generate_description_outcome (answers : String -> Except Fault Archive)
    {request : GenerationRequest} (isLandscape : request.kind = .landscape)
    (generator : Generator language) :
    Exists fun result => Exists fun after =>
      generator.generate (fun path => (pure (answers path) : m (Except Fault Archive))) request =
        pure (result, after) ∧
      (result.succeeded = true ↔ (generator.describing answers request).Succeeds language) ∧
      (∀ message, result.message? = some message ↔
        (generator.describing answers request).Fails language message) ∧
      (result.succeeded = true -> after.session.journal.messages = #[]) := by
  let describing := generator.describing answers request
  rcases byLandscape_apply (m := m) answers request (generator.session.withCounts request) with
    ⟨⟨ended, after⟩, ran, same, journal⟩
  have outcome : ended = describing.outcome language := same
  subst outcome
  refine ⟨.ofOutcome (describing.outcome language), { generator with session := after }, ?_, ?_⟩
  · simp only [generate, isLandscape, ran, pure_bind]
  · rcases describing.succeeds_or_fails language with succeeds | ⟨first, fails⟩
    · rcases Describing.outcome_of_succeeds succeeds with ⟨made, ends⟩
      rw [ends]
      refine ⟨⟨fun _ => succeeds, fun _ => rfl⟩, ?_, ?_⟩
      · intro message
        constructor
        · intro impossible
          cases impossible
        · intro other
          rcases Describing.outcome_of_fails other with ⟨fault, impossible, _⟩
          rw [ends] at impossible
          cases impossible
      · intro _
        exact congrArg Journal.messages (journal made ends)
    · rcases Describing.outcome_of_fails fails with ⟨fault, ends, words⟩
      rw [ends]
      refine ⟨?_, ?_, ?_⟩
      · constructor
        · intro impossible
          cases impossible
        · intro succeeds
          rcases Describing.outcome_of_succeeds succeeds with ⟨made, impossible⟩
          rw [ends] at impossible
          cases impossible
      · intro message
        have reported : (GenerationResult.ofOutcome (.error fault)).message? = some first :=
          congrArg some words
        rw [reported]
        constructor
        · intro same
          rw [← Option.some.inj same]
          exact fails
        · intro other
          rcases Describing.outcome_of_fails other with ⟨otherFault, otherEnds, otherWords⟩
          rw [ends] at otherEnds
          rw [← words, ← otherWords, Except.error.inj otherEnds]
      · intro impossible
        cases impossible

/-- A description with an unknown material and an overlay whose function is not there. -/
def doublyWrong : GenerationRequest where
  kind := .landscape
  fileName := "Landscape.txt"
  scriptPath? := some "Script.c"
  source := "map M \x7b overlay A \x7b algo=script; mat=Nope; \x7d; \x7d;"
  width := 2
  height := 2

/-- An opener that finds the same archive everywhere, with an empty game script. -/
def emptyScriptEverywhere (_ : String) : Except Fault Archive :=
  .ok (Archive.ofTexts "." [("Script.c", "")])

/-- The unknown material is reported, not the function. -/
theorem generate_description_outcome_doublyWrong :
    doublyWrong.kind = .landscape ∧
      ((bare : Generator interpreter).describing emptyScriptEverywhere doublyWrong).Fails
        interpreter "1:9: Unknown material 'Nope'" := by
  have isLandscape : doublyWrong.kind = .landscape := rfl
  have evaluated : (Id.run ((bare : Generator interpreter).generate (m := Id)
      (fun path => pure (emptyScriptEverywhere path)) doublyWrong)).1.message? =
        some "1:9: Unknown material 'Nope'" := by
    decide +kernel
  rcases generate_description_outcome (m := Id) emptyScriptEverywhere isLandscape
    (bare : Generator interpreter) with ⟨result, after, ran, _, fails, _⟩
  rw [ran] at evaluated
  exact ⟨isLandscape, (fails _).mp evaluated⟩

end Generator

end Landform
