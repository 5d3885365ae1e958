import Landform.Generation
import Landform.MapLibrary

namespace Landform

/-!
Generators.  A generator carries out requests one after another on its one session, and may
be asked for anything its session can do in between.  Besides the session it keeps the
scenario of requests that bring none; there is none until it is needed, and nobody gives it
any parameters.
-/

open Script (Language)

variable {language : Language}

/-- A session that tells its scripts the counts of a request. -/
def Session.withCounts (session : Session language) (request : GenerationRequest) :
    Session language :=
  (session.withPlayers request.players).withTeams request.teams

/-- A generator. -/
structure Generator (language : Language) where
  session : Session language
  usualScenario? : Option Scenario := none

namespace Generator

/-- The generator that has no system scripts yet. -/
def bare : Generator language where
  session := Session.fresh

/-- The generator whose scripts have the script library. -/
def withLibrary : Generator language where
  session := Session.fresh.register MapLibrary.script

instance : Inhabited (Generator language) :=
  ⟨bare⟩

/-- The scenario a request is carried out with. -/
def scenarioFor (generator : Generator language) (request : GenerationRequest) : Scenario :=
  match request.scenario? with
  | some scenario => scenario
  | none => generator.usualScenario?.getD {}

/-- The generator after its scenario was needed, if the request brings none. -/
def withScenarioFor (generator : Generator language) (request : GenerationRequest) :
    Generator language :=
  match request.scenario? with
  | some _ => generator
  | none => { generator with usualScenario? := some (generator.scenarioFor request) }

/-- Carries out a request and answers its result and the generator it leaves. -/
def generate {m : Type -> Type} [Monad m] (openArchive : String -> m (Except Fault Archive))
    (request : GenerationRequest) (generator : Generator language) :
    m (GenerationResult × Generator language) :=
  let ready := generator.session.withCounts request
  match request.kind with
  | .script =>
      let (outcome, after) :=
        Generation.byScript (generator.scenarioFor request) request ready
      pure (GenerationResult.ofOutcome outcome,
        { generator.withScenarioFor request with session := after })
  | .landscape => do
      let (outcome, after) ← Generation.byLandscape openArchive request ready
      return (GenerationResult.ofOutcome outcome, { generator with session := after })

end Generator

end Landform
