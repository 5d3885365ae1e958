import Landform.Proofs.Description

namespace Landform

open Script

variable {language : Language}

/-!
# Generators without a past

A generator carries out requests on one session, and between two requests it may be asked for
anything a session can do.  All of this is remembered by the session: constants, linked
programs with their variables, lines, reports and counts.  The next request still ends as it
would with a new generator that was given the same system scripts in the same order.

Two things are needed of a generator with a past, and both are invariants of everything that it
can be asked for.  No two of its system scripts have one file name, so that a new generator can
be given them one after another.  And the scenario that it keeps for requests without one has
no parameters.  Nothing else of the past can matter, because the outcome of a request is a
function of the system scripts, the scenario and the request.
-/

/-! ## System scripts are kept -/

namespace Session

theorem setUp_cached (session : Session language) : session.setUp.cached = session.cached :=
  rfl

theorem load_cached (session : Session language) (role : ScriptRole) (script : ScriptSource) :
    (session.load role script).2.cached = session.cached := by
  unfold load
  split
  · rfl
  · split <;> rfl

theorem link_cached (session : Session language) :
    session.link.2.cached = session.cached := by
  cases there : session.engine? with
  | none => simp only [link, there]
  | some engine =>
      rw [link_eq there]
      rfl

theorem callEntryPoint_cached (session : Session language) (format : MapFormat)
    (resolver : Resolver) (players : Nat) :
    (session.callEntryPoint format resolver players).2.cached = session.cached := by
  cases there : session.engine? with
  | none => simp only [callEntryPoint, there]
  | some engine =>
      cases isLinked : engine.linked? with
      | none => simp only [callEntryPoint, there, isLinked]
      | some linked =>
          let run : EntryRun language :=
            ⟨linked, session.setting, MountedSheet.blank resolver (format.sizeFor players)⟩
          have called := callEntryPoint_eq run there isLinked rfl rfl
          rw [called]
          rfl

theorem callAlgorithm_cached (session : Session language) (function : String) (x y : Int) :
    (session.callAlgorithm function x y).2.cached = session.cached := by
  cases there : session.engine? with
  | none => simp only [callAlgorithm, there]
  | some engine =>
      cases isLinked : engine.linked? with
      | none => simp only [callAlgorithm, there, isLinked]
      | some linked =>
          have called := callLinked_eq session engine linked function [.integer x, .integer y]
            linked.sheets
          simp only [callAlgorithm, there, isLinked, called]
          split
          · cases (HostCall.exchange _).result.1 <;> rfl
          · rfl

end Session

/-- A step of a run that keeps the system scripts. -/
def SessionStep.KeepsScripts {α : Type} (step : SessionStep language α) : Prop :=
  ∀ session, (step session).2.cached = session.cached

namespace SessionStep

variable {α β : Type}

theorem keeps_bind {step : SessionStep language α} {next : α -> SessionStep language β}
    (first : step.KeepsScripts) (later : ∀ value, (next value).KeepsScripts) :
    (step >>= next).KeepsScripts := by
  intro session
  have here := first session
  rw [bind_apply]
  rcases ran : step session with ⟨value | fault, after⟩
  · rw [ran] at here
    exact here
  · rw [ran] at here
    exact (later _ after).trans here

theorem keeps_throw (fault : Fault) : (throw fault : SessionStep language α).KeepsScripts :=
  fun _ => rfl

theorem keeps_change {f : Session language -> Session language}
    (keeps : ∀ session, (f session).cached = session.cached) : (change f).KeepsScripts :=
  keeps

theorem keeps_failOnReport (code : String) :
    (failOnReport code : SessionStep language Unit).KeepsScripts := by
  intro session
  simp only [failOnReport, of]
  split <;> rfl

theorem keeps_failOnReports (code : String) :
    (failOnReports code : SessionStep language Unit).KeepsScripts := by
  intro session
  simp only [failOnReports, of]
  split
  · rfl
  · exact keeps_failOnReport code session

theorem keeps_load (role : ScriptRole) (script : ScriptSource) :
    (load role script : SessionStep language Unit).KeepsScripts :=
  keeps_bind (keeps_change fun _ => rfl) fun _ =>
    keeps_bind (fun session => session.load_cached role script) fun _ =>
      keeps_failOnReport "SCRIPT_PARSE"

theorem keeps_link : (link : SessionStep language Unit).KeepsScripts :=
  keeps_bind (keeps_change fun _ => rfl) fun _ =>
    keeps_bind Session.link_cached fun _ => keeps_failOnReports "SCRIPT_LINK"

theorem keeps_mapOf (foreground background : Raster) (lines : List String) :
    (mapOf foreground background lines : SessionStep language GeneratedMap).KeepsScripts := by
  intro session
  unfold mapOf
  cases GeneratedMap.ofRasters (some foreground) (some background) <;> rfl

end SessionStep

namespace Generation

open SessionStep

theorem keeps_paintByScript (request : GenerationRequest) :
    (paintByScript request : SessionStep language GeneratedMap).KeepsScripts := by
  refine keeps_bind (keeps_change fun _ => rfl) fun _ => ?_
  refine keeps_bind (fun session => session.callEntryPoint_cached _ _ _) fun outcome => ?_
  refine keeps_bind (keeps_failOnReport "SCRIPT_RUNTIME") fun _ => ?_
  split
  · exact keeps_bind (fun _ => rfl) fun lines => keeps_mapOf _ _ lines
  · exact keeps_throw noEntryPoint

theorem keeps_byScript (scenario : Scenario) (request : GenerationRequest) :
    (byScript scenario request : SessionStep language GeneratedMap).KeepsScripts := by
  refine keeps_bind (keeps_change Session.setUp_cached) fun _ => ?_
  refine keeps_bind (keeps_change fun session => ?_) fun _ => ?_
  · rw [Session.addScenario_eq]
  · refine keeps_bind (keeps_load .map request.script) fun _ => ?_
    refine keeps_bind (fun session => session.load_cached .game emptyGameScript) fun _ => ?_
    exact keeps_bind keeps_link fun _ => keeps_paintByScript request

theorem reportAll_cached (messages : List String) (session : Session language) :
    (reportAll messages session).cached = session.cached := by
  rw [reportAll_eq]

theorem keeps_renderAlone (request : GenerationRequest) (map : Landscape.Node) :
    (renderAlone request map : SessionStep language GeneratedMap).KeepsScripts := by
  refine keeps_bind (keeps_change fun _ => rfl) fun _ => ?_
  refine keeps_bind (keeps_change (reportAll_cached _)) fun _ => ?_
  exact keeps_bind (keeps_failOnReport "LANDSCAPE_RENDER") fun _ => keeps_mapOf _ _ []

/-- However often a host asks its session, the system scripts are kept. -/
theorem keeps_paintWithScript (request : GenerationRequest) (map : Landscape.Node) :
    (paintWithScript request map : SessionStep language (Raster × Raster)).KeepsScripts := by
  intro session
  refine Landscape.paint_keeps overlayHost
    (fun state => state.session.cached = session.cached) ?_ request.resolver map _ _ rfl
  rintro ⟨now, failed⟩ kept function x y
  have called := now.callAlgorithm_cached function x y
  simp only [overlayHost]
  split
  · exact kept
  · rcases answered : now.callAlgorithm function x y with ⟨covered | fault, after⟩
    · rw [answered] at called
      exact called.trans kept
    · rw [answered] at called
      exact called.trans kept

theorem keeps_renderWithScript (request : GenerationRequest) (map : Landscape.Node) :
    (renderWithScript request map : SessionStep language GeneratedMap).KeepsScripts := by
  refine keeps_bind (keeps_change fun _ => rfl) fun _ => ?_
  refine keeps_bind (keeps_change (reportAll_cached _)) fun _ => ?_
  refine keeps_bind (keeps_paintWithScript request map) fun rasters => ?_
  refine keeps_bind (keeps_failOnReport "LANDSCAPE_RENDER") fun _ => ?_
  exact keeps_bind (fun _ => rfl) fun lines => keeps_mapOf _ _ lines

theorem keeps_afterOpening (request : GenerationRequest) (map : Landscape.Node)
    (path fileName : String) (opened : Except Fault Archive) :
    (afterOpening request map path fileName opened :
      SessionStep language GeneratedMap).KeepsScripts := by
  refine keeps_bind (fun _ => rfl) fun script => ?_
  refine keeps_bind (keeps_load .game script) fun _ => ?_
  exact keeps_bind keeps_link fun _ => keeps_renderWithScript request map

theorem byLandscape_cached (answers : String -> Except Fault Archive)
    (request : GenerationRequest) (session : Session language) :
    (Id.run (byLandscape (fun path => pure (answers path)) request session)).2.cached =
      session.cached := by
  simp only [byLandscape]
  cases request.map? with
  | error fault => rfl
  | ok map =>
      cases asks : map.asksScript with
      | false =>
          simp only [asks, Bool.false_eq_true, if_false]
          exact keeps_renderAlone request map session
      | true =>
          cases request.scriptPath? with
          | none =>
              simp only [asks, if_true]
              rfl
          | some path =>
              cases named : Path.fileName? path with
              | none =>
                  simp only [asks, named, if_true]
                  rfl
              | some fileName =>
                  simp only [asks, named, if_true, pure_bind]
                  exact keeps_afterOpening request map path fileName
                    (answers (Path.directory path)) session.setUp

end Generation

/-! ## Names of system scripts -/

/-- No two scripts have one file name, up to the case of its letters. -/
def DistinctNames (scripts : List ScriptSource) : Prop :=
  scripts.Pairwise fun first second => Text.sameName first.fileName second.fileName = false

theorem mem_placeScript {script other : ScriptSource} {scripts : List ScriptSource}
    (member : other ∈ Session.placeScript script scripts) :
    other = script ∨ other ∈ scripts := by
  induction scripts with
  | nil => exact Or.inl (List.mem_singleton.mp member)
  | cons old rest inductionHypothesis =>
      unfold Session.placeScript at member
      split at member
      · rcases List.mem_cons.mp member with same | later
        · exact Or.inl same
        · exact Or.inr (List.mem_cons_of_mem old later)
      · rcases List.mem_cons.mp member with same | later
        · exact Or.inr (same ▸ List.mem_cons_self)
        · rcases inductionHypothesis later with placed | kept
          · exact Or.inl placed
          · exact Or.inr (List.mem_cons_of_mem old kept)

theorem placeScript_distinct (script : ScriptSource) {scripts : List ScriptSource}
    (distinct : DistinctNames scripts) : DistinctNames (Session.placeScript script scripts) := by
  induction scripts with
  | nil => exact List.pairwise_singleton _ script
  | cons old rest inductionHypothesis =>
      rcases List.pairwise_cons.mp distinct with ⟨apart, restDistinct⟩
      unfold Session.placeScript
      cases same : Text.sameName old.fileName script.fileName with
      | true =>
          refine List.pairwise_cons.mpr ⟨?_, restDistinct⟩
          intro other member
          have different := apart other member
          apply Bool.eq_false_iff.mpr
          intro alike
          rw [Text.sameName_trans same alike] at different
          cases different
      | false =>
          refine List.pairwise_cons.mpr ⟨?_, inductionHypothesis restDistinct⟩
          intro other member
          rcases mem_placeScript member with placed | kept
          · rw [placed]
            exact same
          · exact apart other kept

theorem placeScript_fresh {script : ScriptSource} {scripts : List ScriptSource}
    (fresh : ∀ old ∈ scripts, Text.sameName old.fileName script.fileName = false) :
    Session.placeScript script scripts = scripts ++ [script] := by
  induction scripts with
  | nil => rfl
  | cons old rest inductionHypothesis =>
      have different := fresh old List.mem_cons_self
      have later := inductionHypothesis fun other member =>
        fresh other (List.mem_cons_of_mem old member)
      simp only [Session.placeScript, different, Bool.false_eq_true, if_false, later,
        List.cons_append]

/-! ## Archives of system scripts -/

/-- Reads entries one after another, up to the first that cannot be read. -/
def Archive.reading (archive : Archive) : List String -> Except Fault Unit × List ScriptSource
  | [] => (.ok (), [])
  | name :: rest =>
      match archive.read name with
      | .ok source =>
          let (outcome, scripts) := archive.reading rest
          (outcome, ⟨name, source⟩ :: scripts)
      | .error fault => (.error fault, [])

namespace Session

/-- Puts scripts in their places, one after another. -/
def placeAll (scripts cached : List ScriptSource) : List ScriptSource :=
  scripts.foldl (fun now script => placeScript script now) cached

/-- A session that keeps other system scripts, and is the same in all else. -/
def withCached (session : Session language) (cached : List ScriptSource) : Session language :=
  { session with cached := cached }

theorem registerEntries_eq (archive : Archive) (names : List String)
    (session : Session language) : registerEntries archive names session =
      ((archive.reading names).1,
        session.withCached (placeAll (archive.reading names).2 session.cached)) := by
  induction names generalizing session with
  | nil => rfl
  | cons name rest inductionHypothesis =>
      cases read : archive.read name with
      | ok source =>
          simp only [registerEntries, Archive.reading, read, inductionHypothesis]
          rfl
      | error fault =>
          simp only [registerEntries, Archive.reading, read]
          rfl

/-- An archive is registered as far as it can be read. -/
theorem registerArchive_eq (archive : Archive) (session : Session language) :
    let names := archive.find scriptPattern
    session.registerArchive archive =
      ((archive.reading names).1.map fun _ => names.length,
        session.withCached (placeAll (archive.reading names).2 session.cached)) := by
  simp only [registerArchive, registerEntries_eq]
  cases (archive.reading (archive.find scriptPattern)).1 <;> rfl

end Session

theorem placeAll_distinct (scripts : List ScriptSource) {cached : List ScriptSource}
    (distinct : DistinctNames cached) : DistinctNames (Session.placeAll scripts cached) := by
  induction scripts generalizing cached with
  | nil => exact distinct
  | cons script rest inductionHypothesis =>
      exact inductionHypothesis (placeScript_distinct script distinct)

/-! ## Histories -/

/-- What the session of a generator can be asked for between two requests. -/
inductive SessionOperation where
  | register (script : ScriptSource)
  | registerArchive (archive : Archive)
  | setUp
  | takeDown
  | addConstant (constant : NamedConstant)
  | load (role : ScriptRole) (script : ScriptSource)
  | link
  | callEntryPoint (format : MapFormat) (resolver : Resolver) (players : Nat)
  | callAlgorithm (function : String) (x y : Int)
  | withPlayers (count : Nat)
  | withTeams (count : Nat)
  | takeLines
  | report (message : String)
  | clearJournal

/-- The session that an operation leaves, whatever the operation answers. -/
def Session.after (session : Session language) : SessionOperation -> Session language
  | .register script => session.register script
  | .registerArchive archive => (session.registerArchive archive).2
  | .setUp => session.setUp
  | .takeDown => session.takeDown
  | .addConstant constant => session.addConstant constant
  | .load role script => (session.load role script).2
  | .link => session.link.2
  | .callEntryPoint format resolver players => (session.callEntryPoint format resolver players).2
  | .callAlgorithm function x y => (session.callAlgorithm function x y).2
  | .withPlayers count => session.withPlayers count
  | .withTeams count => session.withTeams count
  | .takeLines => session.takeLines.2
  | .report message => session.report message
  | .clearJournal => session.clearJournal

namespace SessionOperation

/-- The scripts that an operation registers, in their order. -/
def registrations : SessionOperation -> List ScriptSource
  | .register script => [script]
  | .registerArchive archive => (archive.reading (archive.find Session.scriptPattern)).2
  | _ => []

/-- Whether an operation takes a session down. -/
def takesDown : SessionOperation -> Bool
  | .takeDown => true
  | _ => false

end SessionOperation

namespace Session

/-- The system scripts after an operation. -/
theorem after_cached (session : Session language) (operation : SessionOperation) :
    (session.after operation).cached =
      if operation.takesDown then [] else placeAll operation.registrations session.cached := by
  cases operation with
  | registerArchive archive =>
      rw [after, registerArchive_eq]
      rfl
  | load role script => exact session.load_cached role script
  | link => exact session.link_cached
  | callEntryPoint format resolver players => exact session.callEntryPoint_cached _ _ _
  | callAlgorithm function x y => exact session.callAlgorithm_cached _ _ _
  | _ => rfl

/-- No operation on a session gives two of its system scripts one name. -/
theorem after_distinct {session : Session language}
    (distinct : DistinctNames session.cached) (operation : SessionOperation) :
    DistinctNames (session.after operation).cached := by
  rw [after_cached]
  split
  · exact List.Pairwise.nil
  · exact placeAll_distinct _ distinct

end Session

namespace Generator

open Generation

/-- What a generator can be asked for; a request is carried out with any answers of an opener. -/
inductive Operation where
  | generate (answers : String -> Except Fault Archive) (request : GenerationRequest)
  | onSession (operation : SessionOperation)

/-- The generator that an operation leaves, whatever the operation answers. -/
def after (generator : Generator language) : Operation -> Generator language
  | .generate answers request =>
      (Id.run (generator.generate (fun path => pure (answers path)) request)).2
  | .onSession operation => { generator with session := generator.session.after operation }

/-- A generator that came about by operations, one after another. -/
inductive Reached : Generator language -> Prop where
  | bare : Reached bare
  | withLibrary : Reached withLibrary
  | next {generator : Generator language} (operation : Operation) (before : Reached generator) :
      Reached (generator.after operation)

/-- The generator after it is given one more system script. -/
def giveScript (generator : Generator language) (script : ScriptSource) : Generator language :=
  generator.after (.onSession (.register script))

/-- The new generator that is given some system scripts, one after another. -/
def holding (scripts : List ScriptSource) : Generator language :=
  scripts.foldl giveScript bare

/-- What everything in the past of a generator has left alone. -/
structure Plain (generator : Generator language) : Prop where
  distinct : DistinctNames generator.session.cached
  unparametrised : generator.usualScenario?.getD {} = {}

theorem withScenarioFor_usual (generator : Generator language) (request : GenerationRequest) :
    (generator.withScenarioFor request).usualScenario?.getD {} =
      generator.usualScenario?.getD {} := by
  cases brought : request.scenario? with
  | some scenario => simp only [withScenarioFor, brought]
  | none => simp only [withScenarioFor, scenarioFor, brought, Option.getD_some]

theorem after_generate_cached (generator : Generator language)
    (answers : String -> Except Fault Archive) (request : GenerationRequest) :
    (generator.after (.generate answers request)).session.cached = generator.session.cached := by
  cases kind : request.kind with
  | script =>
      simp only [after, generate, kind]
      exact keeps_byScript _ request (generator.session.withCounts request)
  | landscape =>
      simp only [after, generate, kind]
      exact byLandscape_cached answers request (generator.session.withCounts request)

theorem after_generate_usual (generator : Generator language)
    (answers : String -> Except Fault Archive) (request : GenerationRequest) :
    (generator.after (.generate answers request)).usualScenario?.getD {} =
      generator.usualScenario?.getD {} := by
  cases kind : request.kind with
  | script =>
      simp only [after, generate, kind]
      exact generator.withScenarioFor_usual request
  | landscape =>
      simp only [after, generate, kind]
      rfl

/-- One operation leaves alone what the invariant is about. -/
theorem after_plain {generator : Generator language} (plain : generator.Plain)
    (operation : Operation) : (generator.after operation).Plain := by
  rcases plain with ⟨distinct, unparametrised⟩
  cases operation with
  | generate answers request =>
      constructor
      · rw [after_generate_cached]
        exact distinct
      · rw [after_generate_usual]
        exact unparametrised
  | onSession operation => exact ⟨Session.after_distinct distinct operation, unparametrised⟩

/-- A whole history leaves alone what one operation does. -/
theorem reached_plain {generator : Generator language} (reached : Reached generator) :
    generator.Plain := by
  induction reached with
  | bare => exact ⟨List.Pairwise.nil, rfl⟩
  | withLibrary => exact ⟨List.pairwise_singleton _ _, rfl⟩
  | next operation before inductionHypothesis => exact after_plain inductionHypothesis operation

/-! ## New generators -/

theorem foldl_giveScript_cached {scripts : List ScriptSource} (generator : Generator language)
    (distinct : DistinctNames (generator.session.cached ++ scripts)) :
    (scripts.foldl giveScript generator).session.cached =
      generator.session.cached ++ scripts := by
  induction scripts generalizing generator with
  | nil => exact (List.append_nil _).symm
  | cons script rest inductionHypothesis =>
      have fresh : ∀ old ∈ generator.session.cached,
          Text.sameName old.fileName script.fileName = false := fun old member =>
        (List.pairwise_append.mp distinct).2.2 old member script List.mem_cons_self
      have placed : (generator.giveScript script).session.cached =
          generator.session.cached ++ [script] := placeScript_fresh fresh
      have stillDistinct :
          DistinctNames ((generator.giveScript script).session.cached ++ rest) := by
        rw [placed, List.append_assoc]
        exact distinct
      rw [List.foldl_cons, inductionHypothesis _ stillDistinct, placed, List.append_assoc]
      rfl

/-- A new generator has just the scripts it was given, in their order. -/
theorem holding_cached {scripts : List ScriptSource} (distinct : DistinctNames scripts) :
    (holding scripts : Generator language).session.cached = scripts :=
  foldl_giveScript_cached bare distinct

theorem foldl_giveScript_usual (scripts : List ScriptSource) (generator : Generator language) :
    (scripts.foldl giveScript generator).usualScenario? = generator.usualScenario? := by
  induction scripts generalizing generator with
  | nil => rfl
  | cons script rest inductionHypothesis =>
      rw [List.foldl_cons, inductionHypothesis]
      rfl

theorem holding_usual (scripts : List ScriptSource) :
    (holding scripts : Generator language).usualScenario? = none :=
  foldl_giveScript_usual scripts bare

end Generator

/-! ## Two generators with the same system scripts -/

namespace Generation

variable {session other : Session language}

theorem byScript_alike (scenario : Scenario) (request : GenerationRequest)
    (cached : session.cached = other.cached) (players : session.players = other.players)
    (teams : session.teams = other.teams) :
    (byScript scenario request session).1 = (byScript scenario request other).1 := by
  cases read : readScriptSource language request.script with
  | error message =>
      rw [byScript_of_error scenario request session read,
        byScript_of_error scenario request other read]
  | ok program =>
      have here := (byScript_of_ok scenario request session read).same
      have there := (byScript_of_ok scenario request other read).same
      rw [here, there, cached, players, teams]

theorem afterOpening_alike (request : GenerationRequest) (map : Landscape.Node)
    (path fileName : String) (opened : Except Fault Archive)
    (cached : session.cached = other.cached) (players : session.players = other.players)
    (teams : session.teams = other.teams) :
    (afterOpening request map path fileName opened session.setUp).1 =
      (afterOpening request map path fileName opened other.setUp).1 := by
  have here := (afterOpening_apply request map path fileName opened session).same
  have there := (afterOpening_apply request map path fileName opened other).same
  rw [here, there, cached, players, teams]

theorem renderAlone_alike (request : GenerationRequest) (map : Landscape.Node) :
    (renderAlone request map session).1 = (renderAlone request map other).1 := by
  have here := (renderAlone_apply request map session).same
  have there := (renderAlone_apply request map other).same
  rw [here, there]

theorem byLandscape_alike {m : Type -> Type} [Monad m] [LawfulMonad m]
    (openArchive : String -> m (Except Fault Archive)) (request : GenerationRequest)
    (cached : session.cached = other.cached) (players : session.players = other.players)
    (teams : session.teams = other.teams) :
    Prod.fst <$> byLandscape openArchive request session =
      Prod.fst <$> byLandscape openArchive request other := by
  simp only [byLandscape]
  cases request.map? with
  | error fault => simp only [map_pure]
  | ok map =>
      cases asks : map.asksScript with
      | false =>
          simp only [asks, Bool.false_eq_true, if_false, map_pure]
          rw [renderAlone_alike]
      | true =>
          cases request.scriptPath? with
          | none => simp only [asks, if_true, map_pure]
          | some path =>
              cases named : Path.fileName? path with
              | none => simp only [asks, named, if_true, map_pure]
              | some fileName =>
                  simp only [asks, named, if_true, map_bind, map_pure]
                  refine bind_congr fun opened => ?_
                  rw [afterOpening_alike request map path fileName opened cached players teams]

end Generation

namespace Generator

open Generation

/-- The result of a request, without the generator that is left. -/
def resultOf {m : Type -> Type} [Monad m] (openArchive : String -> m (Except Fault Archive))
    (request : GenerationRequest) (generator : Generator language) : m GenerationResult :=
  Prod.fst <$> generator.generate openArchive request

variable {m : Type -> Type} [Monad m] [LawfulMonad m]
variable (openArchive : String -> m (Except Fault Archive)) (request : GenerationRequest)

/-- A result is a function of the system scripts, the scenario and the request. -/
theorem resultOf_alike {generator other : Generator language}
    (cached : generator.session.cached = other.session.cached)
    (scenario : generator.scenarioFor request = other.scenarioFor request) :
    generator.resultOf openArchive request = other.resultOf openArchive request := by
  have ready : (generator.session.withCounts request).cached =
      (other.session.withCounts request).cached := cached
  cases kind : request.kind with
  | script =>
      have ends := byScript_alike (other.scenarioFor request) request ready rfl rfl
      simp only [resultOf, generate, kind, scenario]
      rcases ran : byScript (other.scenarioFor request) request
        (generator.session.withCounts request) with ⟨outcome, after⟩
      rcases ranOther : byScript (other.scenarioFor request) request
        (other.session.withCounts request) with ⟨otherOutcome, otherAfter⟩
      rw [ran, ranOther] at ends
      have same : outcome = otherOutcome := ends
      simp only [map_pure, same]
  | landscape =>
      have ends := congrArg (fun outcome => GenerationResult.ofOutcome <$> outcome)
        (byLandscape_alike openArchive request ready rfl rfl)
      simpa only [resultOf, generate, kind, map_bind, map_pure, Functor.map_map,
        bind_pure_comp] using ends

/-- **Nothing of the past is seen.**  A generator with any history answers a request as a new
generator with the same system scripts does, if the opener answers alike. -/
theorem generate_independent_of_history {generator : Generator language}
    (reached : Reached generator) :
    (holding generator.session.cached : Generator language).session.cached =
        generator.session.cached ∧
      generator.resultOf openArchive request =
        (holding generator.session.cached : Generator language).resultOf openArchive request := by
  rcases reached_plain reached with ⟨distinct, unparametrised⟩
  have given : (holding generator.session.cached : Generator language).session.cached =
      generator.session.cached := holding_cached distinct
  have scenario : generator.scenarioFor request =
      (holding generator.session.cached : Generator language).scenarioFor request := by
    simp only [scenarioFor, unparametrised, holding_usual, Option.getD_none]
  exact ⟨given, resultOf_alike openArchive request given.symm scenario⟩

/-- A history with a count, a system script, a map script that throws, and a constant. -/
def busy : Generator interpreter :=
  ((((bare.after (.onSession (.withPlayers 4))).giveScript
    ⟨"Past.c", "fn past() \x7b 1 \x7d"⟩).after
      (.generate emptyScriptEverywhere throwingScript)).after
        (.onSession (.addConstant ⟨"PAST", 7⟩))).after (.onSession .link)

/-- A map script that writes a constant. -/
def recallingScript : GenerationRequest where
  kind := .script
  fileName := "Map.c"
  source := "fn InitializeMap(map) \x7b print(PAST); true \x7d"

/-- The constant is there before the request, and the request does not see it. -/
theorem generate_independent_of_history_busy :
    Reached busy ∧ busy.session.constant? "PAST" = some 7 ∧
      (Id.run (busy.resultOf (fun path => pure (emptyScriptEverywhere path))
        recallingScript)).message? =
          some "InitializeMap: Variable not found: PAST (line 1, position 31)" := by
  have reached : Reached busy :=
    .next _ (.next _ (.next _ (.next _ (.next _ .bare))))
  have answersAlike := (generate_independent_of_history (m := Id)
    (fun path => pure (emptyScriptEverywhere path)) recallingScript reached).2
  have present : busy.session.constant? "PAST" = some 7 := by
    decide +kernel
  have evaluated : (Id.run ((holding busy.session.cached : Generator interpreter).resultOf
      (fun path => pure (emptyScriptEverywhere path)) recallingScript)).message? =
        some "InitializeMap: Variable not found: PAST (line 1, position 31)" := by
    decide +kernel
  refine ⟨reached, present, ?_⟩
  rw [answersAlike]
  exact evaluated

end Generator

end Landform
