import Landform.Generator
import Landform.Proofs.Linking
import Landform.Script.Interpreter

namespace Landform

open Script

variable {language : Language}

/-!
# What becomes of a map script

A run of a map script goes through four stages: the script is read, linked, asked to paint,
and its answer is looked at.  All of them report to one journal, and the answer is a signal
beside it.  The journal is cleared in front of each stage, so what a stage looks at is what
that stage has reported, and the first stage that goes wrong gives the run its message.

`MapRun` holds what a run depends on once its script is read: the system scripts, the
scenario, the counts, the tables and the size.  Neither a session nor a journal is among it.
-/

namespace SessionStep

variable {α β : Type}

/-- One step after another; a fault ends both. -/
theorem bind_apply (step : SessionStep language α) (next : α -> SessionStep language β)
    (session : Session language) :
    (step >>= next) session =
      match step session with
      | (.ok value, after) => next value after
      | (.error fault, after) => (.error fault, after) := by
  change (ExceptT.bind step next) session = _
  simp only [ExceptT.bind, ExceptT.mk, bind, StateT.bind]
  rcases step session with ⟨value | value, after⟩ <;> rfl

/-- A fault with a message, if there is one. -/
def failure (code : String) : Option String -> Except Fault Unit
  | some message => .error { code := code, message := message }
  | none => .ok ()

/-- The first of several messages; one message alone does not count. -/
def firstOfSeveral? : List String -> Option String
  | first :: _ :: _ => some first
  | _ => none

theorem firstOfSeveral_of_few {messages : List String} (few : messages.length ≤ 1) :
    firstOfSeveral? messages = none := by
  match messages, few with
  | [], _ => rfl
  | [_], _ => rfl

theorem failOnReport_apply (code : String) {session : Session language}
    (messages : List String) (reported : session.journal = ⟨messages.toArray⟩) :
    failOnReport code session = (failure code messages.head?, session) := by
  cases messages <;> simp [failOnReport, of, Journal.first?, reported, failure]

theorem failOnReports_apply (code : String) {session : Session language}
    (messages : List String) (reported : session.journal = ⟨messages.toArray⟩) :
    failOnReports code session = (failure code (firstOfSeveral? messages), session) := by
  rcases messages with _ | ⟨first, _ | ⟨second, rest⟩⟩ <;>
    simp [failOnReports, failOnReport, of, Journal.count, Journal.first?, reported, failure,
      firstOfSeveral?]

/-- A script that has to be readable is in its role, or the run ends with its fault. -/
theorem load_apply {session : Session language} {footing : Footing} {generation : Nat}
    {engine : Engine language}
    (cleared : session.clearJournal = footing.session generation engine)
    (role : ScriptRole) (script : ScriptSource) :
    load role script session =
      match readScriptSource language script with
      | .ok program =>
          (.ok (), footing.session generation (engine.withScript (some program) role))
      | .error message =>
          (.error { code := "SCRIPT_PARSE", message := message },
            (footing.session generation (engine.withScript none role)).report message) := by
  have there : (footing.session generation engine).engine? = some engine := rfl
  simp only [load, bind_apply, change, of, cleared]
  cases read : readScriptSource language script with
  | ok program =>
      rw [Session.load_of_ok there role read]
      exact failOnReport_apply "SCRIPT_PARSE" [] rfl
  | error message =>
      rw [Session.load_of_error there role read]
      exact failOnReport_apply "SCRIPT_PARSE" [message] rfl

/-- A link may report one message; the first of several ends the run. -/
theorem link_apply {session : Session language} {footing : Footing} {generation : Nat}
    {engine : Engine language}
    (cleared : session.clearJournal = footing.session generation engine) :
    link session =
      (failure "SCRIPT_LINK" (firstOfSeveral? (footing.linking engine.program).diagnostics),
        (footing.session generation engine).linkedBy engine) := by
  have there : (footing.session generation engine).engine? = some engine := rfl
  simp only [link, bind_apply, change, of, cleared, Session.link_eq there]
  exact failOnReports_apply "SCRIPT_LINK" _ (Session.linkedBy_journal footing generation engine)

/-- Two rasters of one size are a map. -/
def mapWith (foreground background : Raster) (lines : List String) : GeneratedMap where
  width := foreground.width
  height := foreground.height
  rowstride := foreground.width
  foreground := some foreground
  background := some background
  scriptOutput := lines

theorem mapOf_apply {foreground background : Raster} (lines : List String)
    (widths : foreground.width = background.width)
    (heights : foreground.height = background.height) (session : Session language) :
    mapOf foreground background lines session =
      (.ok (mapWith foreground background lines), session) := by
  have same : GeneratedMap.sameSize foreground background = true := by
    simp only [GeneratedMap.sameSize, widths, heights, beq_self_eq_true, Bool.and_self]
  simp only [mapOf, GeneratedMap.ofRasters, same, if_true]
  rfl

end SessionStep

/-! ## Runs -/

open Generation

/-- How the call of an entry point ends a run that has written some lines before. -/
def EntryRun.outcome (run : EntryRun language) (before : List String) :
    Except Fault GeneratedMap := do
  SessionStep.failure "SCRIPT_RUNTIME" run.diagnostics.head?
  if run.assents then
    return SessionStep.mapWith run.painted.foreground run.painted.background
      (before ++ run.lines)
  else throw noEntryPoint

/-- What a run of a map script depends on once the script is read. -/
structure MapRun (language : Language) where
  footing : Footing
  resolver : Resolver
  format : MapFormat
  program : language.Program

namespace MapRun

/-- The link of a run: the system scripts, the empty game script and the map script. -/
def linking (run : MapRun language) : Linking language :=
  run.footing.linking
    (language.inSequence
      (readable language run.footing.cached ++ readable language [emptyGameScript] ++
        [run.program]))

/-- The call of the entry point in a run, on a blank sheet. -/
def entry (run : MapRun language) : EntryRun language where
  linked := run.linking.linked
  setting := run.linking.setting
  sheet := MountedSheet.blank run.resolver (run.format.sizeFor renderedPlayers)

/-- How a run ends, stage by stage. -/
def outcome (run : MapRun language) : Except Fault GeneratedMap := do
  SessionStep.failure "SCRIPT_LINK" (SessionStep.firstOfSeveral? run.linking.diagnostics)
  run.entry.outcome run.linking.start.lines

/-- The lines of a run: those of the statements outside of functions, then those of the entry
point. -/
def lines (run : MapRun language) : List String :=
  run.linking.start.lines ++ run.entry.lines

theorem outcome_of_link {run : MapRun language} {first second : String} {rest : List String}
    (reported : run.linking.diagnostics = first :: second :: rest) :
    run.outcome = .error { code := "SCRIPT_LINK", message := first } := by
  rw [outcome, reported]
  rfl

theorem outcome_eq_entry {run : MapRun language} (linked : run.linking.diagnostics.length ≤ 1) :
    run.outcome = run.entry.outcome run.linking.start.lines := by
  rw [outcome, SessionStep.firstOfSeveral_of_few linked]
  rfl

theorem outcome_of_entry {run : MapRun language} (linked : run.linking.diagnostics.length ≤ 1)
    {first : String} {rest : List String} (reported : run.entry.diagnostics = first :: rest) :
    run.outcome = .error { code := "SCRIPT_RUNTIME", message := first } := by
  rw [outcome_eq_entry linked, EntryRun.outcome, reported]
  rfl

theorem outcome_of_dissent {run : MapRun language}
    (linked : run.linking.diagnostics.length ≤ 1) (quiet : run.entry.diagnostics = [])
    (dissents : run.entry.assents = false) : run.outcome = .error noEntryPoint := by
  rw [outcome_eq_entry linked, EntryRun.outcome, quiet, dissents]
  rfl

theorem outcome_of_assent {run : MapRun language}
    (linked : run.linking.diagnostics.length ≤ 1) (quiet : run.entry.diagnostics = [])
    (assents : run.entry.assents = true) :
    run.outcome =
      .ok (SessionStep.mapWith run.entry.painted.foreground run.entry.painted.background
        run.lines) := by
  rw [outcome_eq_entry linked, EntryRun.outcome, quiet, assents]
  rfl

theorem entry_painted_fits (run : MapRun language) : run.entry.painted.Fits := by
  refine run.entry.painted_fits ?_ (Sheet.blank_fits _ _)
  intro mounted impossible
  cases impossible

end MapRun

/-- A part of a run has ended with an outcome, and without any report if that is a value. -/
structure Ends {α : Type} (answer : Except Fault α × Session language)
    (outcome : Except Fault α) : Prop where
  same : answer.1 = outcome
  quiet : ∀ value, outcome = .ok value -> answer.2.journal = {}

namespace Ends

variable {α : Type}

theorem of_error (fault : Fault) (after : Session language) :
    Ends (.error fault, after) (.error fault : Except Fault α) := by
  refine ⟨rfl, ?_⟩
  intro value impossible
  cases impossible

theorem of_quiet {outcome : Except Fault α} {after : Session language}
    (journal : after.journal = {}) : Ends (outcome, after) outcome :=
  ⟨rfl, fun _ _ => journal⟩

end Ends

namespace Generation

/-- The linked program is asked to paint, whatever the journal was before.  When there is a
map, the journal is empty. -/
theorem paintByScript_apply (request : GenerationRequest) {session : Session language}
    {engine : Engine language} {run : EntryRun language} {before : List String}
    (there : session.engine? = some engine) (isLinked : engine.linked? = some run.linked)
    (told : run.setting = session.setting) (written : session.lines = before.toArray)
    (blank : run.sheet =
      MountedSheet.blank request.resolver (request.format.sizeFor renderedPlayers))
    (fits : run.painted.Fits) : Ends (paintByScript request session) (run.outcome before) := by
  have stillThere : session.clearJournal.engine? = some engine := there
  have stillTold : run.setting = session.clearJournal.setting := told
  have called := Session.callEntryPoint_eq run stillThere isLinked stillTold blank
  have journal : (session.clearJournal.enteredBy engine run).journal =
      ⟨run.diagnostics.toArray⟩ := by
    simp only [Session.enteredBy, Session.clearJournal, Journal.clear, Journal.append,
      Array.empty_append]
  simp only [paintByScript, SessionStep.bind_apply, SessionStep.change, SessionStep.of, called,
    SessionStep.failOnReport_apply "SCRIPT_RUNTIME" _ journal, EntryRun.outcome]
  cases reported : run.diagnostics with
  | cons first rest => exact Ends.of_error _ _
  | nil =>
      cases answer : run.assents with
      | false => exact Ends.of_error _ _
      | true =>
          simp only [List.head?_nil, SessionStep.failure, if_true, SessionStep.bind_apply,
            SessionStep.mapOf_apply _ fits.1 fits.2, Session.takeLines]
          have lines : (session.clearJournal.enteredBy engine run).lines.toList =
              before ++ run.lines := by
            simp only [Session.enteredBy, Session.clearJournal, written, List.append_toArray]
          rw [reported] at journal
          rw [lines, journal]
          exact Ends.of_quiet rfl

/-- A map script that cannot be read ends the run at once. -/
theorem byScript_of_error (scenario : Scenario) (request : GenerationRequest)
    (session : Session language) {message : String}
    (read : readScriptSource language request.script = .error message) :
    (byScript scenario request session).1 =
      .error { code := "SCRIPT_PARSE", message := message } := by
  have cleared := Session.setUp_addScenario_clearJournal session scenario
  simp only [byScript, SessionStep.bind_apply, SessionStep.change, SessionStep.of,
    SessionStep.load_apply cleared, read]

/-- A map script that can be read is linked and run, whatever the session was before.  When
the run ends with a map, the journal is empty. -/
theorem byScript_of_ok (scenario : Scenario) (request : GenerationRequest)
    (session : Session language) {program : language.Program}
    (read : readScriptSource language request.script = .ok program) :
    let run : MapRun language :=
      ⟨⟨session.cached, scenario.constants, session.players, session.teams⟩, request.resolver,
        request.format, program⟩
    Ends (byScript scenario request session) run.outcome := by
  intro run
  have start := Session.setUp_addScenario_clearJournal session scenario
  simp only [byScript, SessionStep.bind_apply, SessionStep.change, SessionStep.of,
    SessionStep.load_apply start, read]
  rcases Session.load_footing run.footing (session.generation + 1)
    (({ system := readable language session.cached } : Engine language).withScript
      (some program) .map) .game emptyGameScript with ⟨loaded, load, cleared⟩
  simp only [run] at load
  simp only [load, SessionStep.link_apply cleared]
  generalize both : ((({ system := readable language session.cached } : Engine language).withScript
    (some program) .map).withScript (readScriptSource language emptyGameScript).toOption .game) =
      engine
  have linking : run.footing.linking engine.program = run.linking := by
    rw [← both]
    cases game : readScriptSource language emptyGameScript <;>
      simp [run, MapRun.linking, Engine.program, Engine.withScript, readable, game,
        Except.toOption]
  rw [linking]
  cases linkFault : SessionStep.firstOfSeveral? run.linking.diagnostics with
  | some message =>
      simp only [MapRun.outcome, linkFault]
      exact Ends.of_error _ _
  | none =>
      have isThere := Session.linkedBy_engine run.footing (session.generation + 1) engine
      have told := Session.linkedBy_setting run.footing (session.generation + 1) engine
      have written := Session.linkedBy_lines run.footing (session.generation + 1) engine
      rw [linking] at isThere told written
      simp only [MapRun.outcome, linkFault]
      exact paintByScript_apply request isThere rfl told.symm written rfl run.entry_painted_fits

end Generation

/-! ## Results of generators -/

/-- A run ends with a map just when no stage stands in its way. -/
theorem MapRun.succeeded_iff (run : MapRun language) :
    (GenerationResult.ofOutcome run.outcome).succeeded = true ↔
      run.linking.diagnostics.length ≤ 1 ∧ run.entry.diagnostics = [] ∧
        run.entry.assents = true := by
  constructor
  · intro succeeded
    have linked : run.linking.diagnostics.length ≤ 1 := by
      match reported : run.linking.diagnostics with
      | [] => exact Nat.zero_le 1
      | [_] => exact Nat.le_refl 1
      | first :: second :: rest =>
          rw [MapRun.outcome_of_link reported] at succeeded
          cases succeeded
    have quiet : run.entry.diagnostics = [] := by
      match reported : run.entry.diagnostics with
      | [] => rfl
      | first :: rest =>
          rw [MapRun.outcome_of_entry linked reported] at succeeded
          cases succeeded
    refine ⟨linked, quiet, ?_⟩
    cases assents : run.entry.assents with
    | true => rfl
    | false =>
        rw [MapRun.outcome_of_dissent linked quiet assents] at succeeded
        cases succeeded
  · rintro ⟨linked, quiet, assents⟩
    rw [MapRun.outcome_of_assent linked quiet assents]
    rfl

namespace Generator

/-- The run of a readable map script that a request asks a generator for. -/
def mapRun (generator : Generator language) (request : GenerationRequest)
    (program : language.Program) : MapRun language where
  footing :=
    { cached := generator.session.cached
      pending := (generator.scenarioFor request).constants
      players := request.players
      teams := request.teams }
  resolver := request.resolver
  format := request.format
  program := program

variable {m : Type -> Type} [Monad m] (openArchive : String -> m (Except Fault Archive))
variable {request : GenerationRequest} (isScript : request.kind = .script)
variable (generator : Generator language)

include isScript in
theorem generate_of_unreadable {message : String}
    (read : readScriptSource language request.script = .error message) :
    Exists fun after =>
      generator.generate openArchive request = pure (.failure message, after) := by
  have outcome := byScript_of_error (generator.scenarioFor request) request
    (generator.session.withCounts request) read
  rcases ran : byScript (generator.scenarioFor request) request
    (generator.session.withCounts request) with ⟨ended, after⟩
  rw [ran] at outcome
  have ends : ended = .error { code := "SCRIPT_PARSE", message := message } := outcome
  have result : GenerationResult.ofOutcome ended = .failure message := by
    rw [ends]
    exact congrArg _ (Fault.report_eq_message (readScriptSource_spoken read))
  simp only [generate, isScript, ran, result]
  exact ⟨_, rfl⟩

include isScript in
theorem generate_of_readable {program : language.Program}
    (read : readScriptSource language request.script = .ok program) :
    Exists fun after =>
      generator.generate openArchive request =
        pure (.ofOutcome (generator.mapRun request program).outcome, after) ∧
      ∀ map, (generator.mapRun request program).outcome = .ok map ->
        after.session.journal = {} := by
  have ends := byScript_of_ok (generator.scenarioFor request) request
    (generator.session.withCounts request) read
  rcases ran : byScript (generator.scenarioFor request) request
    (generator.session.withCounts request) with ⟨ended, after⟩
  rw [ran] at ends
  have outcome : ended = (generator.mapRun request program).outcome := ends.same
  refine ⟨{ generator.withScenarioFor request with session := after }, ?_, ends.quiet⟩
  simp only [generate, isScript, ran, outcome]

include isScript in
/-- **What becomes of a map script.**  The result depends on four conditions, in their order:
the script can be read, the link reports at most one message, the entry point reports none,
and it is there and assents.  The first that fails gives the message, taken from its own stage
alone.  When none fails, the journal is empty and the lines are those of this run. -/
theorem generate_script_outcome :
    Exists fun result => Exists fun after =>
      generator.generate openArchive request = pure (result, after) ∧
      (result.succeeded = true ↔
        Exists fun program => readScriptSource language request.script = .ok program ∧
          (generator.mapRun request program).linking.diagnostics.length ≤ 1 ∧
          (generator.mapRun request program).entry.diagnostics = [] ∧
          (generator.mapRun request program).entry.isDefined = true ∧
          (generator.mapRun request program).entry.call.assents = true) ∧
      (∀ message, readScriptSource language request.script = .error message ->
        result = .failure message) ∧
      ∀ program, readScriptSource language request.script = .ok program ->
        let run := generator.mapRun request program
        (∀ first second rest, run.linking.diagnostics = first :: second :: rest ->
          result = .failure first) ∧
        (run.linking.diagnostics.length ≤ 1 ->
          (∀ first rest, run.entry.diagnostics = first :: rest -> result = .failure first) ∧
          (run.entry.diagnostics = [] -> run.entry.assents = false ->
            result = .failure noEntryPoint.message) ∧
          (run.entry.diagnostics = [] -> run.entry.assents = true ->
            result.scriptOutput = run.lines ∧ after.session.journal.messages = #[])) := by
  cases read : readScriptSource language request.script with
  | error message =>
      rcases generate_of_unreadable openArchive isScript generator read with ⟨after, ran⟩
      refine ⟨.failure message, after, ran, ?_, ?_, ?_⟩
      · constructor
        · intro impossible
          cases impossible
        · rintro ⟨program, impossible, rest⟩
          cases impossible
      · intro other same
        rw [Except.error.inj same]
      · intro program impossible
        cases impossible
  | ok program =>
      rcases generate_of_readable openArchive isScript generator read with ⟨after, ran, journal⟩
      refine ⟨_, after, ran, ?_, ?_, ?_⟩
      · simp only [MapRun.succeeded_iff, EntryRun.assents, Bool.and_eq_true]
        constructor
        · intro conditions
          exact ⟨program, rfl, conditions⟩
        · rintro ⟨other, same, conditions⟩
          rw [Except.ok.inj same]
          exact conditions
      · intro message impossible
        cases impossible
      · intro other same
        rw [← Except.ok.inj same]
        refine ⟨?_, fun linked => ⟨?_, ?_, ?_⟩⟩
        · intro first second rest reported
          have spoken := Footing.linking_spoken _ _ first (reported ▸ List.mem_cons_self)
          rw [MapRun.outcome_of_link reported]
          exact congrArg _ (Fault.report_eq_message spoken)
        · intro first rest reported
          have spoken := EntryRun.diagnostics_spoken _ first (reported ▸ List.mem_cons_self)
          rw [MapRun.outcome_of_entry linked reported]
          exact congrArg _ (Fault.report_eq_message spoken)
        · intro quiet dissents
          rw [MapRun.outcome_of_dissent linked quiet dissents]
          exact congrArg _ (Fault.report_eq_message (by decide +kernel))
        · intro quiet assents
          have made := MapRun.outcome_of_assent linked quiet assents
          rw [made]
          exact ⟨rfl, congrArg Journal.messages (journal _ made)⟩

/-- A map script that throws outside of its functions, and paints all the same. -/
def throwingScript : GenerationRequest where
  kind := .script
  fileName := "Map.c"
  source := "throw 1; fn InitializeMap(map) \x7b print(2); true \x7d"

/-- One message of a link is no hindrance, and what the entry point writes is kept. -/
theorem generate_script_outcome_throwing :
    throwingScript.kind = .script ∧
    Exists fun result => Exists fun after =>
      (bare : Generator interpreter).generate (m := Id) (fun _ => .error default)
        throwingScript = pure (result, after) ∧
      result.succeeded = true ∧ result.scriptOutput = ["2"] ∧
      after.session.journal.messages = #[] := by
  have conditions : (readScriptSource interpreter throwingScript.script).toOption.any
      (fun program =>
        let run := (bare : Generator interpreter).mapRun throwingScript program
        run.linking.diagnostics.length == 1 && run.entry.diagnostics == [] &&
          run.entry.assents && run.lines == ["2"]) = true := by
    decide +kernel
  refine ⟨rfl, ?_⟩
  have isScript : throwingScript.kind = .script := rfl
  rcases generate_script_outcome (m := Id) (fun _ => .error default) isScript
    (bare : Generator interpreter) with ⟨result, after, ran, succeeds, _, readable⟩
  cases read : readScriptSource interpreter throwingScript.script with
  | error message =>
      rw [read] at conditions
      cases conditions
  | ok program =>
      rw [read] at conditions
      simp only [Except.toOption, Option.any_some, Bool.and_eq_true, beq_iff_eq] at conditions
      rcases conditions with ⟨⟨⟨one, quiet⟩, assents⟩, lines⟩
      have linked := Nat.le_of_eq one
      rcases (readable program read).2 linked with ⟨_, _, success⟩
      have answer := Bool.and_eq_true_iff.mp assents
      refine ⟨result, after, ran, succeeds.mpr ⟨program, read, linked, quiet, answer⟩, ?_⟩
      rw [← lines]
      exact success quiet assents

end Generator

end Landform
