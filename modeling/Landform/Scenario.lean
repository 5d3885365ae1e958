import Landform.SortedMap

namespace Landform

/-!
Scenario parameters: the parameters a scenario offers, and the values chosen for them.
Scripts see every offered parameter as a constant whose name is the parameter's id behind
a common mark.
-/

/-- A parameter a scenario offers. -/
structure Parameter where
  id : String
  name : String := ""
  default : Int := 0
  least : Option Int := none
  most : Option Int := none
  deriving DecidableEq, Inhabited

/-- The offered parameters and the chosen values. -/
structure Scenario where
  parameters : List Parameter := []
  values : SortedMap Int := SortedMap.empty
  deriving Inhabited

/-- A named integer that scripts may read. -/
structure NamedConstant where
  name : String
  value : Int
  deriving DecidableEq, Inhabited

namespace Scenario

/-- Puts a parameter in the place of the one with its id, or behind all others. -/
def place (parameter : Parameter) : List Parameter -> List Parameter
  | [] => [parameter]
  | old :: rest =>
      if old.id == parameter.id then parameter :: rest else old :: place parameter rest

/-- Offers a parameter; one of the same id gives up its place to it. -/
def define (scenario : Scenario) (parameter : Parameter) : Scenario :=
  { scenario with parameters := place parameter scenario.parameters }

/-- The value chosen for an id, or else the given one. -/
def get (scenario : Scenario) (id : String) (default : Int) : Int :=
  (scenario.values.find? id).getD default

/-- Whether a choice is refused because the value chosen before is as large. -/
def keepsValue (scenario : Scenario) (id : String) (value : Int) (onlyIfLarger : Bool) : Bool :=
  onlyIfLarger &&
    match scenario.values.find? id with
    | some current => decide (value ≤ current)
    | none => false

/-- Chooses a value; on request only if it exceeds the one chosen before. -/
def set (scenario : Scenario) (id : String) (value : Int) (onlyIfLarger : Bool) : Scenario :=
  if scenario.keepsValue id value onlyIfLarger then scenario
  else { scenario with values := scenario.values.insert id value }

/-- What the name of every parameter's constant begins with. -/
def constantMark : String := "SCENPAR_"

/-- The constants scripts see: one for every offered parameter, in order. -/
def constants (scenario : Scenario) : List NamedConstant :=
  scenario.parameters.map fun parameter =>
    ⟨constantMark ++ parameter.id, scenario.get parameter.id parameter.default⟩

end Scenario

end Landform
