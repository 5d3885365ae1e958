import Landform.Generation
import Landform.Proofs.Anatomy

namespace Landform

open Script

variable {language : Language}

/-!
# Linking and calling, apart from the session

What a link reports, writes and leaves depends on very little of a session: on the program
its scripts make up, on the constants it comes to, and on the two counts.  `Linking` holds
just that, and says by exchanges what a link comes to; `Session.link_eq` says that a session
adds this to what it has, and changes nothing else.  `HostCall` does the same for a call, and
`EntryRun` for the call of the entry point.

So the statements about runs need not speak of sessions, and none of them can depend on what
an earlier run has left in one.
-/

/-- The scripts that can be read, in their order. -/
def readable (language : Language) (scripts : List ScriptSource) : List language.Program :=
  scripts.filterMap fun script => (readScriptSource language script).toOption

/-! ## Setting up and loading -/

namespace Session

theorem readAll_programs (scripts : List ScriptSource) (journal : Journal) :
    (readAll language scripts journal).1 = readable language scripts := by
  induction scripts generalizing journal with
  | nil => rfl
  | cons script rest inductionHypothesis =>
      cases read : readScriptSource language script with
      | ok program =>
          simp only [readAll, readable, List.filterMap_cons, read, Except.toOption]
          rw [inductionHypothesis]
          rfl
      | error message =>
          simp only [readAll, readable, List.filterMap_cons, read, Except.toOption]
          exact inductionHypothesis (journal.push message)

theorem addScenario_eq (session : Session language) (scenario : Scenario) :
    session.addScenario scenario =
      { session with pending := session.pending ++ scenario.constants } := by
  have added : ∀ (constants : List NamedConstant) (session : Session language),
      constants.foldl addConstant session =
        { session with pending := session.pending ++ constants } := by
    intro constants
    induction constants with
    | nil =>
        intro session
        simp only [List.foldl_nil, List.append_nil]
    | cons constant rest inductionHypothesis =>
        intro session
        rw [List.foldl_cons, inductionHypothesis]
        simp only [addConstant, List.append_assoc, List.singleton_append]
  exact added scenario.constants session

end Session

/-- What a session that was just set up starts from: its scripts, the constants that wait for
the next link, and its counts. -/
structure Footing where
  cached : List ScriptSource
  pending : List NamedConstant
  players : Int
  teams : Int

/-- The session on a footing whose scripts are in an engine; its journal is empty. -/
def Footing.session (footing : Footing) (generation : Nat) (engine : Engine language) :
    Session language where
  cached := footing.cached
  engine? := some engine
  pending := footing.pending
  constants := Session.builtInConstants
  players := footing.players
  teams := footing.teams
  lines := #[]
  journal := {}
  generation := generation

namespace Session

/-- Setting up leaves nothing of a session but its scripts, its counts and its number. -/
theorem setUp_clearJournal (session : Session language) :
    session.setUp.clearJournal =
      Footing.session ⟨session.cached, [], session.players, session.teams⟩
        (session.generation + 1) { system := readable language session.cached } := by
  simp only [setUp, clearJournal, Journal.clear, Footing.session, readAll_programs]

theorem setUp_addScenario_clearJournal (session : Session language) (scenario : Scenario) :
    (session.setUp.addScenario scenario).clearJournal =
      Footing.session ⟨session.cached, scenario.constants, session.players, session.teams⟩
        (session.generation + 1) { system := readable language session.cached } := by
  rw [addScenario_eq]
  simp only [setUp, clearJournal, Journal.clear, Footing.session, readAll_programs,
    List.nil_append]

theorem load_of_ok {session : Session language} {engine : Engine language}
    (there : session.engine? = some engine) (role : ScriptRole) {script : ScriptSource}
    {program : language.Program} (read : readScriptSource language script = .ok program) :
    session.load role script =
      (.ok (), { session with engine? := some (engine.withScript (some program) role) }) := by
  simp only [load, there, read]

theorem load_of_error {session : Session language} {engine : Engine language}
    (there : session.engine? = some engine) (role : ScriptRole) {script : ScriptSource}
    {message : String} (read : readScriptSource language script = .error message) :
    session.load role script =
      (.ok (),
        { session with
          engine? := some (engine.withScript none role)
          journal := session.journal.push message }) := by
  simp only [load, there, read]

/-- However reading ends, a script that was loaded is in its role or the role is empty. -/
theorem load_footing (footing : Footing) (generation : Nat) (engine : Engine language)
    (role : ScriptRole) (script : ScriptSource) :
    Exists fun after =>
      (footing.session generation engine).load role script = (.ok (), after) ∧
      after.clearJournal =
        footing.session generation
          (engine.withScript (readScriptSource language script).toOption role) := by
  have there : (footing.session generation engine).engine? = some engine := rfl
  cases read : readScriptSource language script with
  | ok program => exact ⟨_, load_of_ok there role read, rfl⟩
  | error message => exact ⟨_, load_of_error there role read, rfl⟩

end Session

/-! ## Words of reports

A run that fails reports its message, and a sentence of its own instead of a blank one.  No
report of a session is blank, so no message is ever replaced. -/

theorem failureText_spoken (context words : String) :
    Text.isBlankText (Session.failureText context words) = false :=
  Text.isBlankText_of_front (Text.isBlankText_of_back context (by decide)) words

theorem readScriptSource_spoken {script : ScriptSource} {message : String}
    (read : readScriptSource language script = .error message) :
    Text.isBlankText message = false := by
  unfold readScriptSource at read
  cases asked : language.read script.fileName script.source with
  | ok program =>
      rw [asked] at read
      cases read
  | error words =>
      rw [asked] at read
      rw [← Except.error.inj read]
      exact failureText_spoken script.fileName words

theorem repeatedConstant_spoken (name : String) :
    Text.isBlankText (Session.repeatedConstant name) = false :=
  Text.isBlankText_of_front (Text.isBlankText_of_front (by decide +kernel) name) _

theorem unknownMaterial_spoken (spec : String) :
    Text.isBlankText (Sheet.unknownMaterial spec) = false :=
  Text.isBlankText_of_front (Text.isBlankText_of_front (by decide +kernel) spec) _

/-! ## Constants -/

/-- What constants come to when they are defined one after another. -/
structure Definitions where
  constants : SortedMap Int
  repeated : List String

/-- Defines constants; of those that there are already the messages are kept. -/
def Definitions.of (pending : List NamedConstant) (constants : SortedMap Int) : Definitions :=
  let (defined, journal) := Session.defineConstants pending constants {}
  ⟨defined, journal.messages.toList⟩

theorem defineConstants_eq (pending : List NamedConstant) (constants : SortedMap Int)
    (journal : Journal) :
    Session.defineConstants pending constants journal =
      ((Definitions.of pending constants).constants,
        journal.append (Definitions.of pending constants).repeated.toArray) := by
  have moved : ∀ (pending : List NamedConstant) (constants : SortedMap Int) (journal : Journal),
      Session.defineConstants pending constants journal =
        ((Session.defineConstants pending constants {}).1,
          journal.append (Session.defineConstants pending constants {}).2.messages) := by
    intro pending
    induction pending with
    | nil =>
        intro constants journal
        simp only [Session.defineConstants, Journal.append_empty]
    | cons constant rest inductionHypothesis =>
        intro constants journal
        simp only [Session.defineConstants]
        by_cases known : constants.contains constant.name = true
        · simp only [known, if_true]
          rw [inductionHypothesis, inductionHypothesis constants (Journal.push {} _)]
          simp only [Journal.append, Journal.push, Array.push_eq_append, Array.append_assoc,
            Array.empty_append]
        · simp only [known, if_false, Bool.false_eq_true]
          exact inductionHypothesis _ journal
  simp only [Definitions.of, Array.toArray_toList]
  exact moved pending constants journal

theorem Definitions.repeated_cons (constant : NamedConstant) (rest : List NamedConstant)
    (constants : SortedMap Int) :
    (Definitions.of (constant :: rest) constants).repeated =
      if constants.contains constant.name then
        Session.repeatedConstant constant.name :: (Definitions.of rest constants).repeated
      else
        (Definitions.of rest (constants.insert constant.name constant.value)).repeated := by
  have unfolded : (Definitions.of (constant :: rest) constants).repeated =
      (Session.defineConstants (constant :: rest) constants {}).2.messages.toList := rfl
  rw [unfolded, Session.defineConstants]
  split
  · rw [defineConstants_eq]
    simp only [Journal.append, Journal.push, Array.toList_append, Array.toList_push,
      List.nil_append, List.singleton_append]
  · rfl

theorem repeated_spoken (pending : List NamedConstant) (constants : SortedMap Int) :
    ∀ message ∈ (Definitions.of pending constants).repeated,
      Text.isBlankText message = false := by
  induction pending generalizing constants with
  | nil =>
      intro message impossible
      cases impossible
  | cons constant rest inductionHypothesis =>
      intro message member
      rw [Definitions.repeated_cons] at member
      split at member
      · rcases List.mem_cons.mp member with now | later
        · rw [now]
          exact repeatedConstant_spoken constant.name
        · exact inductionHypothesis constants message later
      · exact inductionHypothesis _ message member

/-! ## Linking -/

/-- A program that is to be linked, what it is told, and what is reported about its
constants. -/
structure Linking (language : Language) where
  program : language.Program
  setting : Setting
  repeated : List String

namespace Linking

/-- What starting the program comes to. -/
def start (linking : Linking language) : Exchange (Except String Unit × language.Scope) :=
  (language.start linking.program linking.setting).exchange []

/-- The message about a start that has failed. -/
def failure? (linking : Linking language) : Option String :=
  match linking.start.result.1 with
  | .ok () => none
  | .error words => some (Session.failureText "link" words)

/-- All that a link reports, in order. -/
def diagnostics (linking : Linking language) : List String :=
  linking.repeated ++ linking.start.notes ++ linking.failure?.toList

/-- The program when it is linked. -/
def linked (linking : Linking language) : Linked language where
  program := linking.program
  scope := linking.start.result.2
  sheets := []

end Linking

/-- The link of a program on a footing. -/
def Footing.linking (footing : Footing) (program : language.Program) : Linking language :=
  let defined := Definitions.of footing.pending Session.builtInConstants
  { program := program
    setting :=
      { constant? := defined.constants.find?
        players := footing.players
        teams := footing.teams }
    repeated := defined.repeated }

theorem Footing.linking_spoken (footing : Footing) (program : language.Program) :
    ∀ message ∈ (footing.linking program).diagnostics, Text.isBlankText message = false := by
  intro message member
  rcases List.mem_append.mp member with before | failed
  · rcases List.mem_append.mp before with constant | note
    · exact repeated_spoken footing.pending Session.builtInConstants message constant
    · rw [Linking.start, exchange_notes_nil] at note
      cases note
  · rw [Option.mem_toList] at failed
    unfold Linking.failure? at failed
    split at failed
    · cases failed
    · cases failed
      exact failureText_spoken _ _

namespace Session

/-- What there is to link in a session with the given scripts. -/
def linking (session : Session language) (engine : Engine language) : Linking language :=
  let defined := Definitions.of session.pending session.constants
  { program := engine.program
    setting :=
      { constant? := defined.constants.find?
        players := session.players
        teams := session.teams }
    repeated := defined.repeated }

/-- A session after its scripts are linked. -/
def linkedBy (session : Session language) (engine : Engine language) : Session language :=
  let linking := session.linking engine
  { session with
    pending := []
    constants := (Definitions.of session.pending session.constants).constants
    engine? := some { engine with linked? := some linking.linked }
    lines := session.lines ++ linking.start.lines.toArray
    journal := session.journal.append linking.diagnostics.toArray }

section

variable (footing : Footing) (generation : Nat) (engine : Engine language)

theorem linkedBy_engine : ((footing.session generation engine).linkedBy engine).engine? =
    some { engine with linked? := some (footing.linking engine.program).linked } :=
  rfl

theorem linkedBy_setting : ((footing.session generation engine).linkedBy engine).setting =
    (footing.linking engine.program).setting :=
  rfl

theorem linkedBy_lines : ((footing.session generation engine).linkedBy engine).lines =
    (footing.linking engine.program).start.lines.toArray :=
  Array.empty_append

theorem linkedBy_journal : ((footing.session generation engine).linkedBy engine).journal =
    ⟨(footing.linking engine.program).diagnostics.toArray⟩ :=
  congrArg Journal.mk Array.empty_append

end

/-- Linking adds what the link comes to, and its reports, to the session. -/
theorem link_eq {session : Session language} {engine : Engine language}
    (there : session.engine? = some engine) :
    session.link = (.ok (), session.linkedBy engine) := by
  have constants : session.withConstantsDefined =
      { session with
        pending := []
        constants := (Definitions.of session.pending session.constants).constants
        journal := session.journal.append
          (Definitions.of session.pending session.constants).repeated.toArray } := by
    simp only [withConstantsDefined, defineConstants_eq]
  simp only [link, there, constants, setting, Dialogue.conduct_eq, linkedBy, linking,
    Linking.linked, Linking.diagnostics, Linking.failure?, Linking.start, Exchange.bench,
    exchange_sheets_nil, Journal.append_append]
  cases started : ((language.start engine.program
      { constant? := (Definitions.of session.pending session.constants).constants.find?
        players := session.players
        teams := session.teams }).exchange []).result.1 with
  | ok done =>
      simp only [Option.toList_none, List.append_nil, List.append_toArray]
  | error words =>
      simp only [Option.toList_some, Journal.push_eq_append, Journal.append_append,
        List.append_toArray, List.append_assoc]

end Session

/-! ## Calls -/

/-- A call of a function of a linked program, on some sheets. -/
structure HostCall (language : Language) where
  linked : Linked language
  setting : Setting
  function : String
  arguments : List Value
  sheets : List MountedSheet

namespace HostCall

/-- What a call comes to. -/
def exchange (call : HostCall language) : Exchange (Except String Value × language.Scope) :=
  (language.call call.linked.program call.function call.arguments call.setting
    call.linked.scope).exchange call.sheets

/-- The message about a call that has failed. -/
def failure? (call : HostCall language) : Option String :=
  match call.exchange.result.1 with
  | .ok _ => none
  | .error words => some (Session.failureText call.function words)

/-- Whether a call comes to an assent. -/
def assents (call : HostCall language) : Bool :=
  match call.exchange.result.1 with
  | .ok value => value.assents
  | .error _ => false

/-- All that a call reports, in order. -/
def diagnostics (call : HostCall language) : List String :=
  call.exchange.notes ++ call.failure?.toList

/-- The program after a call. -/
def after (call : HostCall language) : Linked language where
  program := call.linked.program
  scope := call.exchange.result.2
  sheets := call.exchange.sheets

end HostCall

namespace HostCall

section

variable (anatomy : Anatomy language) (call : HostCall language)

/-- The function of a program that a call is of. -/
def function? : Option anatomy.Function :=
  anatomy.function? (anatomy.libraryOf call.linked.program) call.function call.arguments.length

/-- What a function comes to when it is run for a call. -/
def run (function : anatomy.Function) : Exchange (Evaluated anatomy.Function anatomy.Content
    anatomy.State (Except String Value)) :=
  (anatomy.invoke function call.arguments (anatomy.libraryOf call.linked.program) call.setting
    (anatomy.opened call.linked.scope)).exchange call.sheets

variable {anatomy}

/-- A call of a function that is found comes to what the function comes to, with as many variables
as there were. -/
theorem exchange_of_found (calls : anatomy.Calls) {function : anatomy.Function}
    (found : call.function? anatomy = some function) :
    call.exchange =
      let run := call.run anatomy function
      { result := (run.result.outcome,
          anatomy.closed (anatomy.rewound (anatomy.visible call.linked.scope).length
            run.result.state))
        sheets := run.sheets
        lines := run.lines
        notes := run.notes } := by
  rw [exchange, Language.call, Language.sessionCall, calls.callWith, Anatomy.callFromOutside]
  rw [function?] at found
  rw [found]
  exact Dialogue.exchange_bind_done _ _ call.sheets

/-- A call of a function that is not found leaves everything as it is. -/
theorem exchange_of_missing (calls : anatomy.Calls) (missing : call.function? anatomy = none) :
    call.exchange =
      { result := (.error (anatomy.missing (anatomy.libraryOf call.linked.program) call.function
          call.arguments), call.linked.scope)
        sheets := call.sheets } := by
  rw [exchange, Language.call, Language.sessionCall, calls.callWith, Anatomy.callFromOutside]
  rw [function?] at missing
  rw [missing]
  rfl

end

end HostCall

theorem HostCall.diagnostics_spoken (call : HostCall language) :
    ∀ message ∈ call.diagnostics, Text.isBlankText message = false := by
  intro message member
  rcases List.mem_append.mp member with note | failed
  · rcases exchange_notes _ _ message note with ⟨spec, same⟩
    rw [same]
    exact unknownMaterial_spoken spec
  · rw [Option.mem_toList] at failed
    unfold HostCall.failure? at failed
    split at failed
    · cases failed
    · cases failed
      exact failureText_spoken _ _

theorem callLinked_eq (session : Session language) (engine : Engine language)
    (linked : Linked language) (function : String) (arguments : List Value)
    (sheets : List MountedSheet) :
    session.callLinked engine linked function arguments sheets =
      let call : HostCall language := ⟨linked, session.setting, function, arguments, sheets⟩
      (call.exchange.result.1,
        { session with
          engine? := some { engine with linked? := some call.after }
          lines := session.lines ++ call.exchange.lines.toArray
          journal := session.journal.append call.exchange.notes.toArray },
        call.exchange.sheets) := by
  simp only [Session.callLinked, Dialogue.conduct_eq, Session.afterCall, Exchange.bench,
    HostCall.exchange, HostCall.after]

/-! ## The entry point -/

/-- A blank sheet of a size, beside the resolver for what is drawn on it. -/
def MountedSheet.blank (resolver : Resolver) (size : Nat × Nat) : MountedSheet where
  resolver := resolver
  sheet := Sheet.blank size.1 size.2

/-- A linked program that is asked to paint a sheet. -/
structure EntryRun (language : Language) where
  linked : Linked language
  setting : Setting
  sheet : MountedSheet

namespace EntryRun

/-- Whether there is an entry point. -/
def isDefined (run : EntryRun language) : Bool :=
  language.defines run.linked.program Session.entryPoint 1

/-- The call of the entry point, which is given the sheet behind all earlier ones. -/
def call (run : EntryRun language) : HostCall language where
  linked := run.linked
  setting := run.setting
  function := Session.entryPoint
  arguments := [.sheet run.linked.sheets.length]
  sheets := run.linked.sheets ++ [run.sheet]

/-- All that the call reports; without an entry point there is nothing to report. -/
def diagnostics (run : EntryRun language) : List String :=
  if run.isDefined then run.call.diagnostics else []

/-- The lines that the call writes. -/
def lines (run : EntryRun language) : List String :=
  if run.isDefined then run.call.exchange.lines else []

/-- Whether there is an entry point and it comes to an assent. -/
def assents (run : EntryRun language) : Bool :=
  run.isDefined && run.call.assents

/-- The program after the call. -/
def after (run : EntryRun language) : Linked language :=
  if run.isDefined then run.call.after else run.linked

/-- The sheets after the call. -/
def left (run : EntryRun language) : List MountedSheet :=
  if run.isDefined then run.call.exchange.sheets else run.call.sheets

/-- The sheet as the call leaves it. -/
def painted (run : EntryRun language) : Sheet :=
  match run.left[run.linked.sheets.length]? with
  | some mounted => mounted.sheet
  | none => run.sheet.sheet

theorem diagnostics_spoken (run : EntryRun language) :
    ∀ message ∈ run.diagnostics, Text.isBlankText message = false := by
  unfold diagnostics
  split
  · exact run.call.diagnostics_spoken
  · intro message impossible
    cases impossible

/-- What every request keeps of a sheet holds of the sheet in the end. -/
theorem painted_keeps (run : EntryRun language) (kept : MountedSheet -> Prop)
    (step : ∀ request resolver sheet, kept ⟨resolver, sheet⟩ ->
      kept ⟨resolver, (sheet.serve resolver request).sheet⟩)
    (earlier : ∀ mounted ∈ run.linked.sheets, kept mounted) (given : kept run.sheet) :
    Exists fun mounted => kept mounted ∧ run.painted = mounted.sheet := by
  have before : ∀ mounted ∈ run.call.sheets, kept mounted := by
    intro mounted member
    rcases List.mem_append.mp member with old | last
    · exact earlier mounted old
    · rw [List.mem_singleton.mp last]
      exact given
  have after : ∀ mounted ∈ run.left, kept mounted := by
    unfold left
    split
    · exact exchange_keeps kept step _ run.call.sheets before
    · exact before
  unfold painted
  split
  · rename_i mounted found
    exact ⟨mounted, after mounted (List.mem_of_getElem? found), rfl⟩
  · exact ⟨run.sheet, given, rfl⟩

/-- A sheet that begins with rasters of one size ends with rasters of one size. -/
theorem painted_fits (run : EntryRun language)
    (earlier : ∀ mounted ∈ run.linked.sheets, mounted.sheet.Fits)
    (fits : run.sheet.sheet.Fits) : run.painted.Fits := by
  rcases run.painted_keeps (fun mounted => mounted.sheet.Fits)
    (fun request resolver sheet before => serve_fits resolver sheet before request) earlier fits
    with ⟨mounted, mountedFits, same⟩
  rw [same]
  exact mountedFits

end EntryRun

namespace Session

/-- A session after its entry point was called. -/
def enteredBy (session : Session language) (engine : Engine language)
    (run : EntryRun language) : Session language :=
  { session with
    engine? := some { engine with linked? := some run.after }
    lines := session.lines ++ run.lines.toArray
    journal := session.journal.append run.diagnostics.toArray }

theorem runEntryPoint_eq {session : Session language} {engine : Engine language}
    {run : EntryRun language} (there : session.engine? = some engine)
    (isLinked : engine.linked? = some run.linked) (told : run.setting = session.setting) :
    session.runEntryPoint engine run.linked run.call.sheets run.linked.sheets.length =
      (run.assents, session.enteredBy engine run, run.left) := by
  have called : (⟨run.linked, session.setting, entryPoint,
      [.sheet run.linked.sheets.length], run.call.sheets⟩ : HostCall language) = run.call := by
    rw [← told]
    rfl
  by_cases defined : language.defines run.linked.program entryPoint 1 = true
  · simp only [runEntryPoint, defined, if_true, callLinked_eq, called, enteredBy,
      EntryRun.assents, EntryRun.isDefined, EntryRun.after, EntryRun.lines,
      EntryRun.diagnostics, EntryRun.left, HostCall.diagnostics, HostCall.failure?,
      HostCall.assents, Bool.true_and]
    cases run.call.exchange.result.1 with
    | ok value =>
        simp only [Option.toList_none, List.append_nil]
    | error words =>
        simp only [report, Option.toList_some, Journal.push_eq_append, Journal.append_append,
          List.append_toArray]
        rfl
  · have same : { engine with linked? := some run.linked } = engine := by
      rw [← isLinked]
    simp only [runEntryPoint, defined, if_false, enteredBy, EntryRun.assents,
      EntryRun.isDefined, EntryRun.after, EntryRun.lines, EntryRun.diagnostics, EntryRun.left,
      Bool.false_eq_true, Bool.false_and, Array.append_empty, Journal.append_empty, same,
      ← there]

/-- Calling the entry point adds what the run comes to, and its reports, to the session. -/
theorem callEntryPoint_eq {session : Session language} {engine : Engine language}
    (run : EntryRun language) (there : session.engine? = some engine)
    (isLinked : engine.linked? = some run.linked) (told : run.setting = session.setting)
    {format : MapFormat} {resolver : Resolver} {players : Nat}
    (blank : run.sheet = MountedSheet.blank resolver (format.sizeFor players)) :
    session.callEntryPoint format resolver players =
      (.ok ⟨run.assents, run.painted.foreground, run.painted.background⟩,
        session.enteredBy engine run) := by
  have ran := runEntryPoint_eq there isLinked told
  simp only [EntryRun.call, blank, MountedSheet.blank] at ran
  cases found : run.left[run.linked.sheets.length]? with
  | none | some _ =>
      simp only [callEntryPoint, there, isLinked, ran, found, EntryRun.painted, blank,
        MountedSheet.blank]

end Session

end Landform
