import Landform.Proofs.History

namespace Landform

open Script

variable {language : Language}

/-!
# The life of a session

A session may be asked for anything at any time, in whatever order.  Some things hold all the
same.  Its number counts how often it was set up, and the constants of every session keep their
values, whatever is defined beside them.  A program is linked and a script is loaded only where
a session is set up, and loading a script undoes the link.

Asked for something too early, a session answers a fault and stays as it was; not even its
journal shows that it was asked.

Only setting up, taking down and linking touch the constants.  Every other operation leaves
them and the number alone, and the frames below say so once for each operation that asks
scripts for something.
-/

namespace Session

/-- The session in which nothing has been done, on a journal that may have been used before. -/
def new (journal : Journal) : Session language :=
  { fresh with journal := journal }

/-- The session that operations leave when they are carried out one after another. -/
def afterAll (session : Session language) (operations : List SessionOperation) :
    Session language :=
  operations.foldl after session

/-! ## Too early -/

/-- The fault of a call in a session whose scripts are not linked. -/
def missing (session : Session language) : Fault :=
  if session.isSetUp then notLinked else notSetUp

theorem missing_code (session : Session language) :
    session.missing.code = "SCRIPT_ENGINE_STATE" := by
  unfold missing
  split <;> rfl

section

variable {session : Session language}

theorem engine_of_notSetUp (early : session.isSetUp = false) : session.engine? = none := by
  unfold isSetUp at early
  cases there : session.engine? with
  | none => rfl
  | some engine =>
      rw [there] at early
      cases early

theorem load_early (early : session.isSetUp = false) (role : ScriptRole)
    (script : ScriptSource) : session.load role script = (.error notSetUp, session) := by
  simp only [load, engine_of_notSetUp early]

theorem link_early (early : session.isSetUp = false) :
    session.link = (.error notSetUp, session) := by
  simp only [link, engine_of_notSetUp early]

/-- There is no engine, or there is one without a linked program. -/
theorem engine_of_unlinked (early : session.isLinked = false) :
    (session.engine? = none ∧ session.missing = notSetUp) ∨
      Exists fun engine => session.engine? = some engine ∧ engine.linked? = none ∧
        session.missing = notLinked := by
  unfold isLinked linked? at early
  unfold missing isSetUp
  cases there : session.engine? with
  | none => exact Or.inl ⟨rfl, rfl⟩
  | some engine =>
      rw [there] at early
      exact Or.inr ⟨engine, rfl, Option.isNone_iff_eq_none.mp (by simpa using early), rfl⟩

theorem callEntryPoint_early (early : session.isLinked = false) (format : MapFormat)
    (resolver : Resolver) (players : Nat) :
    session.callEntryPoint format resolver players = (.error session.missing, session) := by
  rcases engine_of_unlinked early with ⟨nothing, fault⟩ | ⟨engine, there, unlinked, fault⟩
  · simp only [callEntryPoint, nothing, fault]
  · simp only [callEntryPoint, there, unlinked, fault]

theorem callAlgorithm_early (early : session.isLinked = false) (function : String) (x y : Int) :
    session.callAlgorithm function x y = (.error session.missing, session) := by
  rcases engine_of_unlinked early with ⟨nothing, fault⟩ | ⟨engine, there, unlinked, fault⟩
  · simp only [callAlgorithm, nothing, fault]
  · simp only [callAlgorithm, there, unlinked, fault]

theorem engine_of_isLinked (isLinked : session.isLinked = true) :
    Exists fun engine => Exists fun linked =>
      session.engine? = some engine ∧ engine.linked? = some linked := by
  unfold Session.isLinked linked? at isLinked
  rcases Option.isSome_iff_exists.mp isLinked with ⟨linked, found⟩
  rcases Option.bind_eq_some_iff.mp found with ⟨engine, there, has⟩
  exact ⟨engine, linked, there, has⟩

end

/-! ## Frames -/

/-- An archive adds to the system scripts and to nothing else. -/
theorem registerArchive_frame (session : Session language) (archive : Archive) :
    Exists fun cached =>
      (session.registerArchive archive).2 = { session with cached := cached } := by
  rw [registerArchive_eq]
  exact ⟨_, rfl⟩

/-- Loading a script changes what is loaded, and may report. -/
theorem load_frame (session : Session language) (role : ScriptRole) (script : ScriptSource) :
    Exists fun engine? => Exists fun journal =>
      (session.load role script).2 = { session with engine? := engine?, journal := journal } := by
  unfold load
  split
  · exact ⟨_, _, rfl⟩
  · split <;> exact ⟨_, _, rfl⟩

/-- The call of the entry point changes the linked program, and may write and report. -/
theorem callEntryPoint_frame (session : Session language) (format : MapFormat)
    (resolver : Resolver) (players : Nat) :
    Exists fun engine? => Exists fun lines => Exists fun journal =>
      (session.callEntryPoint format resolver players).2 =
        { session with engine? := engine?, lines := lines, journal := journal } := by
  cases isLinked : session.isLinked with
  | false => exact ⟨_, _, _, by rw [callEntryPoint_early isLinked]⟩
  | true =>
      rcases engine_of_isLinked isLinked with ⟨engine, linked, there, has⟩
      let run : EntryRun language :=
        ⟨linked, session.setting, MountedSheet.blank resolver (format.sizeFor players)⟩
      rw [callEntryPoint_eq run there has rfl rfl]
      exact ⟨_, _, _, rfl⟩

/-- A call of a script algorithm may change what a call of the entry point may. -/
theorem callAlgorithm_frame (session : Session language) (function : String) (x y : Int) :
    Exists fun engine? => Exists fun lines => Exists fun journal =>
      (session.callAlgorithm function x y).2 =
        { session with engine? := engine?, lines := lines, journal := journal } := by
  cases isLinked : session.isLinked with
  | false => exact ⟨_, _, _, by rw [callAlgorithm_early isLinked]⟩
  | true =>
      rcases engine_of_isLinked isLinked with ⟨engine, linked, there, has⟩
      simp only [callAlgorithm, there, has, callLinked_eq]
      split
      · cases (HostCall.exchange _).result.1 <;> exact ⟨_, _, _, rfl⟩
      · exact ⟨_, _, _, rfl⟩

end Session

/-! ## The number and the constants of a session -/

/-- Whether an operation sets a session up. -/
def SessionOperation.setsUp : SessionOperation -> Bool
  | .setUp => true
  | _ => false

namespace Session

/-- What an operation may do to the constants of a session: nothing, or forget all but those of
every session, or define some more. -/
inductive Redefines (before : SortedMap Int) : SortedMap Int -> Prop where
  | same : Redefines before before
  | builtIn : Redefines before builtInConstants
  | defined (pending : List NamedConstant) (journal : Journal) :
      Redefines before (defineConstants pending before journal).1

/-- What an operation does to the number and the constants of a session. -/
structure Turns (session : Session language) (operation : SessionOperation)
    (next : Session language) : Prop where
  generation : next.generation = session.generation + [operation].countP SessionOperation.setsUp
  constants : Redefines session.constants next.constants

theorem after_turns (session : Session language) (operation : SessionOperation) :
    session.Turns operation (session.after operation) := by
  cases operation with
  | registerArchive archive =>
      rcases session.registerArchive_frame archive with ⟨cached, frame⟩
      rw [after, frame]
      exact ⟨rfl, .same⟩
  | setUp => exact ⟨rfl, .builtIn⟩
  | takeDown => exact ⟨rfl, .builtIn⟩
  | load role script =>
      rcases session.load_frame role script with ⟨engine?, journal, frame⟩
      rw [after, frame]
      exact ⟨rfl, .same⟩
  | link =>
      rw [after]
      cases there : session.engine? with
      | none =>
          simp only [link, there]
          exact ⟨rfl, .same⟩
      | some engine =>
          rw [link_eq there]
          exact ⟨rfl, .defined session.pending {}⟩
  | callEntryPoint format resolver players =>
      rcases session.callEntryPoint_frame format resolver players with
        ⟨engine?, lines, journal, frame⟩
      rw [after, frame]
      exact ⟨rfl, .same⟩
  | callAlgorithm function x y =>
      rcases session.callAlgorithm_frame function x y with ⟨engine?, lines, journal, frame⟩
      rw [after, frame]
      exact ⟨rfl, .same⟩
  | _ => exact ⟨rfl, .same⟩

/-- The number of a session grows by one whenever it is set up. -/
theorem afterAll_generation (session : Session language) (operations : List SessionOperation) :
    (session.afterAll operations).generation =
      session.generation + operations.countP SessionOperation.setsUp := by
  induction operations generalizing session with
  | nil => rfl
  | cons operation rest inductionHypothesis =>
      have later := inductionHypothesis (session.after operation)
      rw [(session.after_turns operation).generation, Nat.add_assoc, ← List.countP_append,
        List.singleton_append] at later
      exact later

/-- The constants of every session have their values in this one. -/
def KeepsBuiltIn (session : Session language) : Prop :=
  ∀ name value, builtInConstants.find? name = some value -> session.constant? name = some value

/-- A constant that there is already keeps its value, whatever is defined. -/
theorem defineConstants_keeps {name : String} {value : Int} (pending : List NamedConstant)
    (constants : SortedMap Int) (journal : Journal)
    (known : constants.find? name = some value) :
    (defineConstants pending constants journal).1.find? name = some value := by
  induction pending generalizing constants journal with
  | nil => exact known
  | cons constant rest inductionHypothesis =>
      rw [defineConstants]
      split
      · exact inductionHypothesis constants _ known
      · rename_i free
        refine inductionHypothesis _ journal ?_
        -- The name is taken by the constant that is known, so the new one has another.
        have different : (name == constant.name) = false := by
          apply Bool.eq_false_iff.mpr
          intro same
          rw [beq_iff_eq] at same
          rw [SortedMap.contains, ← same, known] at free
          exact free rfl
        rw [SortedMap.find?_insert, different]
        exact known

theorem after_keepsBuiltIn {session : Session language} (keeps : session.KeepsBuiltIn)
    (operation : SessionOperation) : (session.after operation).KeepsBuiltIn := by
  intro name value known
  have before : session.constants.find? name = some value := keeps name value known
  have turns := (session.after_turns operation).constants
  unfold constant?
  generalize (session.after operation).constants = constants at turns
  cases turns with
  | same => exact before
  | builtIn => exact known
  | defined pending journal => exact defineConstants_keeps pending _ journal before

theorem afterAll_keepsBuiltIn {session : Session language} (keeps : session.KeepsBuiltIn)
    (operations : List SessionOperation) : (session.afterAll operations).KeepsBuiltIn := by
  induction operations generalizing session with
  | nil => exact keeps
  | cons operation rest inductionHypothesis =>
      exact inductionHypothesis (after_keepsBuiltIn keeps operation)

/-! ## Scripts and links -/

section

variable {session : Session language}

theorem isSetUp_of_isLinked (isLinked : session.isLinked = true) : session.isSetUp = true := by
  rcases engine_of_isLinked isLinked with ⟨engine, linked, there, has⟩
  rw [isSetUp, there]
  rfl

theorem isSetUp_of_hasScript {role : ScriptRole} (loaded : session.hasScript role = true) :
    session.isSetUp = true := by
  unfold hasScript at loaded
  unfold isSetUp
  cases there : session.engine? with
  | none =>
      rw [there] at loaded
      cases loaded
  | some engine => rfl

/-- Loading undoes the link, and the role has a script just when the text can be read. -/
theorem load_unlinks (isSetUp : session.isSetUp = true) (role : ScriptRole)
    (script : ScriptSource) :
    (session.load role script).1 = .ok () ∧
      (session.load role script).2.isLinked = false ∧
      (session.load role script).2.hasScript role =
        (language.read script.fileName script.source).toOption.isSome := by
  cases there : session.engine? with
  | none =>
      rw [Session.isSetUp, there] at isSetUp
      cases isSetUp
  | some engine =>
      cases read : language.read script.fileName script.source with
      | ok program =>
          have given : readScriptSource language script = .ok program := by
            simp only [readScriptSource, read]
          rw [load_of_ok there role given]
          cases role <;> exact ⟨rfl, rfl, rfl⟩
      | error words =>
          have given : readScriptSource language script =
              .error (script.fileName ++ ": " ++ words) := by
            simp only [readScriptSource, read]
          rw [load_of_error there role given]
          cases role <;> exact ⟨rfl, rfl, rfl⟩

end

/-- **The life of a session.**  Whatever is done with a new session, in whatever order, a program
is linked and a script is loaded only while it is set up, its number counts how often it was set
up, and the two constants of every session have their values.  Loading a script in a session
that is set up undoes the link, and leaves the role empty if the script cannot be read.  Asked
for something too early, the session answers a fault of its state and stays as it was, with its
pending constants and its journal. -/
theorem lifecycle (journal : Journal) (operations : List SessionOperation) :
    let session : Session language := (new journal).afterAll operations
    (session.isLinked = true -> session.isSetUp = true) ∧
      (∀ role, session.hasScript role = true -> session.isSetUp = true) ∧
      session.generation = operations.countP SessionOperation.setsUp ∧
      (∀ role script, session.isSetUp = true ->
        (session.load role script).1 = .ok () ∧
          (session.load role script).2.isLinked = false ∧
          (session.load role script).2.hasScript role =
            (language.read script.fileName script.source).toOption.isSome) ∧
      session.constant? "MAPALGO_Rect" = some Sheet.rectangleNumber ∧
      session.constant? "MAPALGO_Ellipse" = some Sheet.ellipseNumber ∧
      (session.isSetUp = false ->
        (∀ role script, session.load role script = (.error notSetUp, session)) ∧
          session.link = (.error notSetUp, session)) ∧
      (session.isLinked = false ->
        (∀ format resolver players,
          session.callEntryPoint format resolver players = (.error session.missing, session)) ∧
        ∀ function x y,
          session.callAlgorithm function x y = (.error session.missing, session)) ∧
      notSetUp.code = "SCRIPT_ENGINE_STATE" ∧ session.missing.code = "SCRIPT_ENGINE_STATE" := by
  intro session
  have start : (new journal : Session language).KeepsBuiltIn := fun _ _ known => known
  have keeps : session.KeepsBuiltIn := afterAll_keepsBuiltIn start operations
  have number : session.generation = operations.countP SessionOperation.setsUp := by
    have counted := afterAll_generation (new journal : Session language) operations
    exact counted.trans (Nat.zero_add _)
  exact ⟨isSetUp_of_isLinked, fun _ => isSetUp_of_hasScript, number,
    fun role script isSetUp => load_unlinks isSetUp role script,
    keeps _ _ (by decide +kernel), keeps _ _ (by decide +kernel),
    fun early => ⟨load_early early, link_early early⟩,
    fun early => ⟨callEntryPoint_early early, callAlgorithm_early early⟩, rfl,
    session.missing_code⟩

/-- A life in which a constant of every session is defined once more, and a script is linked. -/
def redefining : List SessionOperation :=
  [.setUp, .addConstant ⟨"MAPALGO_Rect", 7⟩,
    .load .map ⟨"Map.c", "fn InitializeMap(map) \x7b true \x7d"⟩, .link]

/-- The constant keeps its value, and a script that cannot be read undoes the link. -/
theorem lifecycle_redefining :
    let session : Session interpreter := (new {}).afterAll redefining
    let reloaded := (session.load .map ⟨"Map.c", "fn InitializeMap("⟩).2
    session.isLinked = true ∧ session.isSetUp = true ∧ session.generation = 1 ∧
      session.journal.messages = #["constant \"MAPALGO_Rect\" is already defined"] ∧
      session.constant? "MAPALGO_Rect" = some Sheet.rectangleNumber ∧
      reloaded.isLinked = false ∧ reloaded.hasScript .map = false := by
  intro session reloaded
  rcases @lifecycle interpreter {} redefining with
    ⟨setUp, _, number, loads, rectangle, _⟩
  have linked : session.isLinked = true := by decide +kernel
  have isSetUp := setUp linked
  rcases loads .map ⟨"Map.c", "fn InitializeMap("⟩ isSetUp with ⟨_, unlinked, emptied⟩
  refine ⟨linked, isSetUp, number, by decide +kernel, rectangle, unlinked, ?_⟩
  rw [emptied]
  decide +kernel

end Session

end Landform
