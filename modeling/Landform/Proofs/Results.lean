import Landform.Proofs.Description
import Landform.Proofs.Indexes

namespace Landform

open Script

variable {language : Language}

/-!
# What a result may be

A result is a map or a failure.  A map has both of its rasters, they have one size, and they
show nothing but the sky and entries of the request's tables.  The size is the one that was
asked for, or the last one that a map script has asked its sheet to take.  A failure has words
and nothing else.

Two rasters could fail to make a map, but those of a run never do: a request never ends with
such a fault, unless the opener of archives has answered it.
-/

/-! ## The size of a sheet -/

namespace Sheet

/-- The sides of a sheet. -/
def size (sheet : Sheet) : Nat × Nat :=
  (sheet.width, sheet.height)

/-- The size that a request gives a sheet: it asks for it, and this is not refused. -/
def Request.granted? : (request : Request) -> request.Answer -> Option (Nat × Nat)
  | .resize columns rows, (.ok () : Except Refusal Unit) => some (columns.toNat, rows.toNat)
  | _, _ => none

/-- No other request changes the size. -/
theorem serve_size (resolver : Resolver) (sheet : Sheet) (request : Request) :
    (sheet.serve resolver request).sheet.size =
      (request.granted? (sheet.serve resolver request).answer).getD sheet.size := by
  cases request with
  | width | height => rfl
  | pixel x y | backPixel x y => rfl
  | resize width height =>
      simp only [serve]
      cases asked : sheet.resize width height with
      | error refusal => rfl
      | ok resized =>
          rw [resize_eq asked]
          rfl
  | draw spec =>
      simp only [serve, draw]
      cases resolver.resolve spec <;> rfl
  | drawShape spec properties =>
      simp only [serve]
      cases Shape.ofProperties sheet (fun name => properties.lookup name) with
      | error refusal => rfl
      | ok shape =>
          simp only [drawShape]
          cases resolver.resolve spec <;> rfl
  | setPixel x y spec =>
      simp only [serve, setPixel]
      cases resolver.resolve spec with
      | none => rfl
      | some material =>
          simp only [Stroke.response, size, width, height, Raster.set_width, Raster.set_height]
          rfl

end Sheet

namespace Script

variable {α : Type}

/-- The sizes that the sheet of a number is given in a dialogue, in order. -/
def Dialogue.resizes (number : Nat) : Dialogue α -> List MountedSheet -> List (Nat × Nat)
  | .done _, _ => []
  | .ask (.write _) next, sheets => (next ()).resizes number sheets
  | .ask (.onSheet target request) next, sheets =>
      let (answer, changed, _) := Workbench.serveSheet request target sheets
      (if target = number then (request.granted? answer).toList else []) ++
        (next answer).resizes number changed

theorem serveSheet_self (request : Sheet.Request) {number : Nat} {sheets : List MountedSheet}
    {mounted : MountedSheet} (there : sheets[number]? = some mounted) :
    (Workbench.serveSheet request number sheets).1 =
        (mounted.sheet.serve mounted.resolver request).answer ∧
      (Workbench.serveSheet request number sheets).2.1[number]? =
        some ⟨mounted.resolver, (mounted.sheet.serve mounted.resolver request).sheet⟩ := by
  induction sheets generalizing number with
  | nil => cases there
  | cons first rest inductionHypothesis =>
      cases number with
      | zero =>
          cases there
          exact ⟨rfl, rfl⟩
      | succ number => exact inductionHypothesis there

theorem serveSheet_other (request : Sheet.Request) {target number : Nat}
    (other : target ≠ number) (sheets : List MountedSheet) :
    (Workbench.serveSheet request target sheets).2.1[number]? = sheets[number]? := by
  induction sheets generalizing target number with
  | nil => rw [serveSheet_nil]
  | cons first rest inductionHypothesis =>
      cases target with
      | zero =>
          cases number with
          | zero => exact absurd rfl other
          | succ number => rfl
      | succ target =>
          cases number with
          | zero => rfl
          | succ number => exact inductionHypothesis fun same => other (congrArg Nat.succ same)

theorem getLast_getD_append (first later : List (Nat × Nat)) (size : Nat × Nat) :
    (first ++ later).getLast?.getD size = later.getLast?.getD (first.getLast?.getD size) := by
  rw [List.getLast?_append]
  cases later.getLast? <;> rfl

/-- A sheet ends with the last size it was given, or with the size it had. -/
theorem exchange_size (dialogue : Dialogue α) {number : Nat} {sheets : List MountedSheet}
    {mounted : MountedSheet} (there : sheets[number]? = some mounted) :
    Exists fun left => (dialogue.exchange sheets).sheets[number]? = some left ∧
      left.sheet.size = (dialogue.resizes number sheets).getLast?.getD mounted.sheet.size := by
  induction dialogue generalizing sheets mounted with
  | done result => exact ⟨mounted, there, rfl⟩
  | ask request next inductionHypothesis =>
      cases request with
      | write line => exact inductionHypothesis () there
      | onSheet target request =>
          simp only [Dialogue.exchange, Dialogue.resizes, getLast_getD_append]
          by_cases same : target = number
          · subst same
            have served := serveSheet_self request there
            rcases inductionHypothesis _ served.2 with ⟨left, found, size⟩
            refine ⟨left, found, ?_⟩
            rw [if_pos rfl, size, Sheet.serve_size, served.1]
            cases request.granted? (mounted.sheet.serve mounted.resolver request).answer <;> rfl
          · -- Another sheet was served; this one is where it was, and as it was.
            have still := (serveSheet_other request same sheets).trans there
            rw [if_neg same]
            exact inductionHypothesis _ still

end Script

namespace EntryRun

/-- The sizes that a run gives its sheet, in order. -/
def resizes (run : EntryRun language) : List (Nat × Nat) :=
  if run.isDefined then
    (language.call run.call.linked.program run.call.function run.call.arguments run.call.setting
      run.call.linked.scope).resizes run.linked.sheets.length run.call.sheets
  else []

/-- A sheet ends with the last size that a run has given it. -/
theorem painted_size (run : EntryRun language) :
    run.painted.size = run.resizes.getLast?.getD run.sheet.sheet.size := by
  have there : run.call.sheets[run.linked.sheets.length]? = some run.sheet :=
    List.getElem?_concat_length
  unfold painted resizes left
  by_cases defined : run.isDefined = true
  · rcases exchange_size (language.call run.call.linked.program run.call.function
      run.call.arguments run.call.setting run.call.linked.scope) there with ⟨left, found, size⟩
    rw [if_pos defined, if_pos defined, HostCall.exchange, found]
    exact size
  · rw [if_neg defined, if_neg defined, there]
    rfl

end EntryRun

/-! ## What runs come to -/

/-- The codes of the faults of rasters. -/
def rasterCodes : List String :=
  ["RASTER_SIZE", "RASTER_MISSING"]

/-- What a run may come to: a map of a size that keeps to a rule, or a fault.  Faults of
rasters have to come from elsewhere. -/
inductive IsOrderly (shown : UInt8 -> Prop) (size : Nat × Nat) (elsewhere : Fault -> Prop) :
    Except Fault GeneratedMap -> Prop where
  | map {foreground background : Raster} (lines : List String)
      (fore : (foreground.width, foreground.height) = size)
      (back : (background.width, background.height) = size)
      (foreShows : foreground.Shows shown) (backShows : background.Shows shown) :
      IsOrderly shown size elsewhere (.ok (SessionStep.mapWith foreground background lines))
  | fault {fault : Fault} (allowed : fault.code ∈ rasterCodes -> elsewhere fault) :
      IsOrderly shown size elsewhere (.error fault)

namespace IsOrderly

variable {shown : UInt8 -> Prop} {size : Nat × Nat} {elsewhere : Fault -> Prop}

theorem of_code {fault : Fault} (code : String) (other : code ∉ rasterCodes)
    (same : fault.code = code) : IsOrderly shown size elsewhere (.error fault) :=
  .fault fun impossible => absurd (same ▸ impossible) other

theorem of_failure {code : String} (other : code ∉ rasterCodes) (message? : Option String)
    {rest : Except Fault GeneratedMap} (orderly : IsOrderly shown size elsewhere rest) :
    IsOrderly shown size elsewhere (do
      SessionStep.failure code message?
      rest) := by
  cases message? with
  | none => exact orderly
  | some message => exact of_code code other rfl

end IsOrderly

theorem fixed_sizeFor (width height players : Nat) :
    (MapFormat.fixed width height).sizeFor players = (width, height) := by
  have side (value : Nat) : (SideRange.fixed value).evaluate = value := by
    simp only [SideRange.evaluate, SideRange.fixed, Nat.max_self, Nat.min_self]
  simp only [MapFormat.sizeFor, MapFormat.widthFor, MapFormat.fixed, if_true, side]

section

variable {elsewhere : Fault -> Prop}

/-- A map script comes to a map of the last size that it has given its sheet. -/
theorem MapRun.outcome_orderly (run : MapRun language) {shown : UInt8 -> Prop} (sky : shown 0)
    (lays : run.resolver.Lays shown) :
    IsOrderly shown
      (run.entry.resizes.getLast?.getD (run.format.sizeFor Generation.renderedPlayers))
      elsewhere run.outcome := by
  unfold outcome EntryRun.outcome
  refine .of_failure (by decide) _ (.of_failure (by decide) _ ?_)
  split
  · have fits := run.entry_painted_fits
    have size := run.entry.painted_size
    have noSheets : ∀ mounted ∈ run.entry.linked.sheets, mounted.Shows shown :=
      fun _ impossible => nomatch impossible
    rcases run.entry.painted_keeps (fun mounted => mounted.Shows shown)
      (fun request _ _ shows => ⟨shows.1, Sheet.serve_shows shows.1 shows.2 sky request⟩) noSheets
      ⟨lays, Raster.blank_shows sky _ _, Raster.blank_shows sky _ _⟩ with ⟨mounted, shows, same⟩
    rw [same] at fits size ⊢
    -- The size is known of the foreground, and the background fits it.
    refine .map _ size ?_ shows.2.1 shows.2.2
    rw [← fits.1, ← fits.2]
    exact size
  · exact .of_code "SCRIPT_NO_ENTRY_POINT" (by decide) rfl

section

variable (request : GenerationRequest) (map : Landscape.Node)

theorem resolver_lays : request.resolver.Lays request.textures.Shown :=
  Resolver.ofTables_lays request.materials request.textures

theorem canvas_orderly {σ : Type} (host : Landscape.ScriptHost σ) (state : σ)
    (lines : List String) :
    let size := request.format.sizeFor Generation.renderedPlayers
    let canvas := Landscape.paint host request.resolver map size.1 size.2 state
    IsOrderly request.textures.Shown (request.width, request.height) elsewhere
      (.ok (SessionStep.mapWith canvas.foreground canvas.background lines)) := by
  intro size canvas
  have asked : size = (request.width, request.height) := fixed_sizeFor _ _ _
  have sides := Landscape.paint_sides host request.resolver map size.1 size.2 state
  have shows := Landscape.paint_shows host (resolver_lays request) (Or.inl rfl) map size.1 size.2
    state
  rw [← asked]
  exact .map lines (Prod.ext sides.1 sides.2.1) (Prod.ext sides.2.2.1 sides.2.2.2) shows.1 shows.2

theorem aloneOutcome_orderly :
    IsOrderly request.textures.Shown (request.width, request.height) elsewhere
      (Generation.aloneOutcome request map) :=
  .of_failure (by decide) _ (canvas_orderly request map Landscape.ScriptHost.absent none [])

theorem OverlayRun.outcome_orderly (footing : Footing) (program : language.Program) :
    IsOrderly request.textures.Shown (request.width, request.height) elsewhere
      (OverlayRun.mk footing request.resolver request.format map program).outcome :=
  .of_failure (by decide) _ (.of_failure (by decide) _ (canvas_orderly request map _ _ _))

end

/-- A fault that the opener of archives has answered, or the reading of an opened archive. -/
def IsForeign (answers : String -> Except Fault Archive) (fault : Fault) : Prop :=
  (Exists fun path => answers path = .error fault) ∨
    Exists fun path => Exists fun archive => Exists fun name =>
      answers path = .ok archive ∧ archive.read name = .error fault

theorem openedOutcome_orderly (request : GenerationRequest) (map : Landscape.Node)
    (footing : Footing) {answers : String -> Except Fault Archive} (path fileName : String) :
    IsOrderly request.textures.Shown (request.width, request.height) (IsForeign answers)
      (Generation.openedOutcome language footing request map path fileName
        (answers (Path.directory path))) := by
  cases opened : answers (Path.directory path) with
  | error fault =>
      rw [Generation.openedOutcome_of_error rfl]
      exact .fault fun _ => Or.inl ⟨_, opened⟩
  | ok archive =>
      cases found : Generation.scriptIn archive path fileName with
      | error fault =>
          have without : ((.ok archive : Except Fault Archive).bind fun archive =>
              Generation.scriptIn archive path fileName) = .error fault := found
          rw [Generation.openedOutcome_of_error without]
          by_cases entry : archive.find fileName = []
          · rw [Generation.scriptIn_of_missing entry] at found
            cases found
            exact .of_code "ARCHIVE_ENTRY_MISSING" (by decide) rfl
          · cases text : archive.read fileName with
            | error unread =>
                rw [Generation.scriptIn_of_error entry text] at found
                cases found
                exact .fault fun _ => Or.inr ⟨_, archive, fileName, opened, text⟩
            | ok source =>
                rw [Generation.scriptIn_of_ok entry text] at found
                cases found
      | ok script =>
          rw [Generation.openedOutcome_of_ok found]
          cases readScriptSource language script with
          | error message => exact .of_code "SCRIPT_PARSE" (by decide) rfl
          | ok program => exact OverlayRun.outcome_orderly request map footing program

/-- A description comes to a map of the size that was asked for. -/
theorem Describing.outcome_orderly (describing : Describing) :
    IsOrderly describing.request.textures.Shown
      (describing.request.width, describing.request.height) (IsForeign describing.answers)
      (describing.outcome language) := by
  unfold outcome
  cases first : describing.request.map? with
  | error fault =>
      unfold GenerationRequest.map? at first
      split at first
      · cases first
        exact .of_code "LANDSCAPE_PARSE" (by decide) rfl
      · split at first
        · cases first
        · cases first
          exact .of_code "LANDSCAPE_NO_MAP" (by decide) rfl
  | ok map =>
      change IsOrderly _ _ _ (describing.outcomeOf language map)
      unfold outcomeOf
      split
      · cases saved : describing.request.scriptPath? with
        | none => exact .of_code "SCRIPT_PATH_MISSING" (by decide) rfl
        | some path =>
            cases named : Path.fileName? path with
            | none =>
                simp only [named]
                exact .of_code "SCRIPT_PATH_MISSING" (by decide) rfl
            | some fileName =>
                simp only [named]
                exact openedOutcome_orderly describing.request map describing.footing path fileName
      · exact aloneOutcome_orderly describing.request map

end

/-! ## Results -/

namespace GenerationResult

/-- A result is a map of a size that keeps to a rule about indexes. -/
structure IsMap (result : GenerationResult) (shown : UInt8 -> Prop) (size : Nat × Nat) :
    Prop where
  rasters : Exists fun foreground => Exists fun background =>
    result.foreground? = some foreground ∧ result.background? = some background ∧
      (foreground.width, foreground.height) = size ∧
      (background.width, background.height) = size ∧
      foreground.cells.size = size.1 * size.2 ∧ background.cells.size = size.1 * size.2 ∧
      foreground.Shows shown ∧ background.Shows shown
  sides : (result.width, result.height) = size
  rowstride : result.rowstride = size.1
  unfailed : result.message? = none

/-- A result is a failure, with words and nothing else. -/
structure IsFailure (result : GenerationResult) : Prop where
  words : Exists fun message =>
    result.message? = some message ∧ Text.isBlankText message = false
  rasters : result.foreground? = none ∧ result.background? = none
  sides : (result.width, result.height) = (0, 0)
  rowstride : result.rowstride = 0
  scriptOutput : result.scriptOutput = []

theorem report_spoken (fault : Fault) : Text.isBlankText fault.report = false := by
  unfold Fault.report
  split
  · exact Text.isBlankText_of_front (Text.isBlankText_of_front (by decide +kernel) _) _
  · rename_i spoken
    exact Bool.eq_false_iff.mpr spoken

/-- A run that is orderly has one of the two kinds of results. -/
theorem of_orderly {shown : UInt8 -> Prop} {size : Nat × Nat} {elsewhere : Fault -> Prop}
    {outcome : Except Fault GeneratedMap} (orderly : IsOrderly shown size elsewhere outcome) :
    (ofOutcome outcome).IsMap shown size ∨ (ofOutcome outcome).IsFailure := by
  cases orderly with
  | @map foreground background lines fore back foreShows backShows =>
      subst fore
      refine Or.inl ⟨⟨foreground, background, rfl, rfl, rfl, back, foreground.size_cells, ?_,
        foreShows, backShows⟩, rfl, rfl, rfl⟩
      rw [background.size_cells, ← back]
  | @fault fault allowed =>
      exact Or.inr ⟨⟨fault.report, rfl, report_spoken fault⟩, ⟨rfl, rfl⟩, rfl, rfl, rfl⟩

end GenerationResult

namespace Generator

/-- Carries out a request and answers its outcome, of whose faults a result shows the words. -/
def carryOut {m : Type -> Type} [Monad m] (openArchive : String -> m (Except Fault Archive))
    (request : GenerationRequest) (generator : Generator language) :
    m (Except Fault GeneratedMap × Generator language) :=
  let ready := generator.session.withCounts request
  match request.kind with
  | .script =>
      let (outcome, after) :=
        Generation.byScript (generator.scenarioFor request) request ready
      pure (outcome, { generator.withScenarioFor request with session := after })
  | .landscape => do
      let (outcome, after) ← Generation.byLandscape openArchive request ready
      return (outcome, { generator with session := after })

theorem generate_eq_carryOut {m : Type -> Type} [Monad m] [LawfulMonad m]
    (openArchive : String -> m (Except Fault Archive)) (request : GenerationRequest)
    (generator : Generator language) :
    generator.generate openArchive request = (do
      let (outcome, after) ← generator.carryOut openArchive request
      return (GenerationResult.ofOutcome outcome, after)) := by
  unfold generate carryOut
  cases request.kind with
  | script =>
      rcases ran : Generation.byScript (generator.scenarioFor request) request
        (generator.session.withCounts request) with ⟨outcome, after⟩
      simp only [ran, pure_bind]
  | landscape => simp only [bind_assoc, pure_bind]

/-- The sizes that a map script gives its sheet while a request is carried out, in order. -/
def resizes (generator : Generator language) (request : GenerationRequest) : List (Nat × Nat) :=
  match request.kind, readScriptSource language request.script with
  | .script, .ok program => (generator.mapRun request program).entry.resizes
  | _, _ => []

/-- The size of the map that a request may come to. -/
def mapSize (generator : Generator language) (request : GenerationRequest) : Nat × Nat :=
  (generator.resizes request).getLast?.getD (request.width, request.height)

variable {m : Type -> Type} [Monad m] [LawfulMonad m]

section

variable {request : GenerationRequest} (generator : Generator language)
variable (answers : String -> Except Fault Archive)

omit [LawfulMonad m] in
theorem carryOut_script (isScript : request.kind = .script) :
    Exists fun outcome => Exists fun after =>
      generator.carryOut (fun path => (pure (answers path) : m (Except Fault Archive))) request =
        pure (outcome, after) ∧
      IsOrderly request.textures.Shown (generator.mapSize request) (IsForeign answers)
        outcome := by
  rcases ran : Generation.byScript (generator.scenarioFor request) request
    (generator.session.withCounts request) with ⟨ended, after⟩
  refine ⟨ended, { generator.withScenarioFor request with session := after }, ?_, ?_⟩
  · simp only [carryOut, isScript, ran]
  · cases read : readScriptSource language request.script with
    | error message =>
        have ends := Generation.byScript_of_error (generator.scenarioFor request) request
          (generator.session.withCounts request) read
        rw [ran] at ends
        have same : ended = .error { code := "SCRIPT_PARSE", message := message } := ends
        rw [same]
        exact .of_code "SCRIPT_PARSE" (by decide) rfl
    | ok program =>
        have ends := Generation.byScript_of_ok (generator.scenarioFor request) request
          (generator.session.withCounts request) read
        rw [ran] at ends
        have same : ended = (generator.mapRun request program).outcome := ends.same
        have asked : (generator.mapRun request program).format.sizeFor
            Generation.renderedPlayers = (request.width, request.height) := fixed_sizeFor _ _ _
        have orderly : IsOrderly request.textures.Shown
            ((generator.mapRun request program).entry.resizes.getLast?.getD
              ((generator.mapRun request program).format.sizeFor Generation.renderedPlayers))
            (IsForeign answers) (generator.mapRun request program).outcome :=
          MapRun.outcome_orderly _ (Or.inl rfl) (resolver_lays request)
        simp only [mapSize, resizes, isScript, read, same, ← asked]
        exact orderly

theorem carryOut_landscape (isLandscape : request.kind = .landscape) :
    Exists fun outcome => Exists fun after =>
      generator.carryOut (fun path => (pure (answers path) : m (Except Fault Archive))) request =
        pure (outcome, after) ∧
      IsOrderly request.textures.Shown (generator.mapSize request) (IsForeign answers)
        outcome := by
  rcases Generation.byLandscape_apply (m := m) answers request
    (generator.session.withCounts request) with ⟨⟨ended, after⟩, ran, ends⟩
  have same : ended = (generator.describing answers request).outcome language := ends.same
  refine ⟨ended, { generator with session := after }, ?_, ?_⟩
  · simp only [carryOut, isLandscape, ran, pure_bind]
  · simp only [mapSize, resizes, isLandscape, same]
    exact Describing.outcome_orderly (generator.describing answers request)

end

/--
**What a result may be.**  A request comes to a map of the size that was asked for, or that its
script has given its sheet last, which shows nothing but the sky and entries of the tables; or
it comes to a failure with words and nothing else.  It never fails for its rasters.
-/
theorem generate_wellFormed (answers : String -> Except Fault Archive)
    (request : GenerationRequest) (generator : Generator language) :
    Exists fun outcome => Exists fun after =>
      generator.carryOut (fun path => (pure (answers path) : m (Except Fault Archive))) request =
        pure (outcome, after) ∧
      generator.generate (fun path => (pure (answers path) : m (Except Fault Archive))) request =
        pure (GenerationResult.ofOutcome outcome, after) ∧
      ((GenerationResult.ofOutcome outcome).IsMap request.textures.Shown
          (generator.mapSize request) ∨
        (GenerationResult.ofOutcome outcome).IsFailure) ∧
      ∀ fault, outcome = .error fault -> fault.code ∈ rasterCodes -> IsForeign answers fault := by
  have carried : Exists fun outcome => Exists fun after =>
      generator.carryOut (fun path => (pure (answers path) : m (Except Fault Archive))) request =
        pure (outcome, after) ∧
      IsOrderly request.textures.Shown (generator.mapSize request) (IsForeign answers)
        outcome := by
    cases kind : request.kind with
    | script => exact carryOut_script generator answers kind
    | landscape => exact carryOut_landscape generator answers kind
  rcases carried with ⟨outcome, after, ran, orderly⟩
  refine ⟨outcome, after, ran, ?_, GenerationResult.of_orderly orderly, ?_⟩
  · rw [generate_eq_carryOut, ran, pure_bind]
  · rintro fault same coded
    rw [same] at orderly
    cases orderly with
    | fault allowed => exact allowed coded

/-- A map script that resizes its sheet twice and draws in between. -/
def resizingScript : GenerationRequest where
  kind := .script
  fileName := "Map.c"
  source :=
    "fn InitializeMap(map) \x7b map.Resize(3, 1); map.Draw(\"Earth\"); " ++
      "map.Resize(2, 2); true \x7d"
  textures := { entries := [⟨7, "Earth", "earth"⟩] }

/-- The map has the last size, and the sky fills what the drawing had no room for. -/
theorem generate_wellFormed_resizing :
    Exists fun outcome => Exists fun after =>
      (bare : Generator interpreter).generate (m := Id) (fun _ => .error default)
        resizingScript = pure (GenerationResult.ofOutcome outcome, after) ∧
      (GenerationResult.ofOutcome outcome).IsMap resizingScript.textures.Shown (2, 2) ∧
      (GenerationResult.ofOutcome outcome).foreground?.map Raster.cells = some #[7, 7, 0, 0] := by
  have evaluated : (Id.run ((bare : Generator interpreter).generate (m := Id)
      (fun _ => .error default) resizingScript)).1.foreground?.map Raster.cells =
        some #[7, 7, 0, 0] := by
    decide +kernel
  have size : (bare : Generator interpreter).mapSize resizingScript = (2, 2) := by
    decide +kernel
  rcases generate_wellFormed (m := Id) (fun _ => .error default) resizingScript
    (bare : Generator interpreter) with ⟨outcome, after, _, ran, kinds, _⟩
  have same : (Id.run ((bare : Generator interpreter).generate (m := Id)
      (fun _ => .error default) resizingScript)).1 = GenerationResult.ofOutcome outcome :=
    congrArg (fun answer => (Id.run answer).1) ran
  rw [same] at evaluated
  rw [size] at kinds
  refine ⟨outcome, after, ran, ?_, evaluated⟩
  rcases kinds with made | failed
  · exact made
  · rw [failed.rasters.1] at evaluated
    cases evaluated

end Generator

end Landform
