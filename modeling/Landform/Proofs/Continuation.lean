import Landform.Proofs.Lifecycle

namespace Landform

open Script

variable {language : Language}

/-!
# Going on with a session

Between two settings up of a session its scripts change in one way only: by loading.  The system
scripts are those it was set up with, a role has the script that was last loaded in it, if that
one could be read, and what is linked is the program that these scripts make up.  Calls, links,
constants and reports leave all of this as it is, however they end.

This is said of one operation by `after_continues`, which takes the operations one by one, and
of any number of them by `afterAll_continues`.
-/

namespace SessionOperation

/-- Whether an operation goes on with what is set up, and neither sets up nor takes down. -/
def goesOn : SessionOperation -> Bool
  | .setUp | .takeDown => false
  | _ => true

/-- The script that an operation loads in a role. -/
def loads? (role : ScriptRole) : SessionOperation -> Option ScriptSource
  | .load other script => if other = role then some script else none
  | _ => none

/-- The script that was last loaded in a role. -/
def lastLoaded? (role : ScriptRole) : List SessionOperation -> Option ScriptSource
  | [] => none
  | operation :: rest => (lastLoaded? role rest).or (operation.loads? role)

end SessionOperation

open SessionOperation

namespace Engine

/-- What is linked is the program that the scripts make up. -/
def LinksItsScripts (engine : Engine language) : Prop :=
  ∀ linked, engine.linked? = some linked -> linked.program = engine.program

/-- The scripts after something was loaded, or not, in each role. -/
structure Continues (engine : Engine language) (loaded? : ScriptRole -> Option ScriptSource)
    (next : Engine language) : Prop where
  system : next.system = engine.system
  script? : ∀ role, next.script? role = (loaded? role).elim (engine.script? role)
    fun script => (readScriptSource language script).toOption
  links : engine.LinksItsScripts -> next.LinksItsScripts

theorem Continues.refl (engine : Engine language) : engine.Continues (fun _ => none) engine where
  system := rfl
  script? _ := rfl
  links same := same

theorem Continues.trans {engine middle next : Engine language}
    {earlier? later? : ScriptRole -> Option ScriptSource}
    (first : engine.Continues earlier? middle) (second : middle.Continues later? next) :
    engine.Continues (fun role => (later? role).or (earlier? role)) next where
  system := second.system.trans first.system
  script? role := by
    rw [second.script? role]
    cases later? role with
    | none => exact first.script? role
    | some script => rfl
  links same := second.links (first.links same)

/-- Linking, and calling what is linked, leaves the scripts as they are. -/
theorem Continues.relinked (engine : Engine language) (linked : Linked language)
    (same : engine.LinksItsScripts -> linked.program = engine.program) :
    engine.Continues (fun _ => none) { engine with linked? := some linked } where
  system := rfl
  script? role := by cases role <;> rfl
  links before := by
    rintro other ⟨⟩
    exact same before

/-- A script that is loaded takes its role, and nothing is linked then. -/
theorem Continues.loaded (engine : Engine language) (role : ScriptRole)
    (script : ScriptSource) :
    engine.Continues (fun other => (SessionOperation.load role script).loads? other)
      (engine.withScript (readScriptSource language script).toOption role) where
  system := by cases role <;> rfl
  script? other := by cases role <;> cases other <;> rfl
  links _ := by
    intro linked impossible
    cases role <;> cases impossible

end Engine

namespace Session

/-- An operation that goes on changes no scripts but those it loads. -/
theorem after_continues {session : Session language} {engine : Engine language}
    (there : session.engine? = some engine) {operation : SessionOperation}
    (goesOn : operation.goesOn = true) : Exists fun next =>
      (session.after operation).engine? = some next ∧
        engine.Continues (fun role => operation.loads? role) next := by
  cases operation with
  | setUp | takeDown => cases goesOn
  | register script => exact ⟨engine, there, .refl engine⟩
  | addConstant constant => exact ⟨engine, there, .refl engine⟩
  | withPlayers count => exact ⟨engine, there, .refl engine⟩
  | withTeams count => exact ⟨engine, there, .refl engine⟩
  | takeLines => exact ⟨engine, there, .refl engine⟩
  | report message => exact ⟨engine, there, .refl engine⟩
  | clearJournal => exact ⟨engine, there, .refl engine⟩
  | registerArchive archive =>
      rcases session.registerArchive_frame archive with ⟨cached, frame⟩
      rw [after, frame]
      exact ⟨engine, there, .refl engine⟩
  | load role script =>
      have continues := Engine.Continues.loaded engine role script
      cases read : readScriptSource language script with
      | ok program =>
          rw [read] at continues
          rw [after, load_of_ok there role read]
          exact ⟨_, rfl, continues⟩
      | error message =>
          rw [read] at continues
          rw [after, load_of_error there role read]
          exact ⟨_, rfl, continues⟩
  | link =>
      rw [after, link_eq there]
      exact ⟨_, rfl, .relinked engine _ fun _ => rfl⟩
  | callEntryPoint format resolver players =>
      cases has : engine.linked? with
      | none =>
          rw [after]
          simp only [callEntryPoint, there, has]
          exact ⟨engine, rfl, .refl engine⟩
      | some linked =>
          let run : EntryRun language :=
            ⟨linked, session.setting, MountedSheet.blank resolver (format.sizeFor players)⟩
          have kept : run.after.program = linked.program := by
            unfold EntryRun.after
            split <;> rfl
          rw [after, callEntryPoint_eq run there has rfl rfl]
          exact ⟨_, rfl, .relinked engine run.after fun before => kept.trans (before linked has)⟩
  | callAlgorithm function x y =>
      cases has : engine.linked? with
      | none =>
          rw [after]
          simp only [callAlgorithm, there, has]
          exact ⟨engine, rfl, .refl engine⟩
      | some linked =>
          rw [after]
          simp only [callAlgorithm, there, has, callLinked_eq]
          split
          · -- However the call ends, it leaves the same engine.
            cases (HostCall.exchange _).result.1 <;>
              exact ⟨_, rfl, .relinked engine _ fun before => before linked has⟩
          · exact ⟨engine, there, .refl engine⟩

/-- Operations that go on change no scripts but those they load. -/
theorem afterAll_continues {session : Session language} {engine : Engine language}
    (there : session.engine? = some engine) {operations : List SessionOperation}
    (goesOn : ∀ operation ∈ operations, operation.goesOn = true) : Exists fun next =>
      (session.afterAll operations).engine? = some next ∧
        engine.Continues (fun role => lastLoaded? role operations) next := by
  induction operations generalizing session engine with
  | nil => exact ⟨engine, there, .refl engine⟩
  | cons operation rest inductionHypothesis =>
      rcases after_continues there (goesOn operation List.mem_cons_self) with
        ⟨middle, here, first⟩
      rcases inductionHypothesis here fun other member =>
        goesOn other (List.mem_cons_of_mem operation member) with ⟨next, last, later⟩
      exact ⟨next, last, first.trans later⟩

end Session

end Landform
