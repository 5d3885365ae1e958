import Landform.Fault
import Landform.Number.Decimal
import Landform.Material.Resolver
import Landform.Scenario

namespace Landform
namespace Scenario

/-!
The text form in which a scenario offers its parameters.  A text is a sequence of
sections.  The section `[ParameterDef]` starts a parameter with the keys `ID`, `Name` and
`Default`; the sections `[Options]` and `[Option]` after it belong to it, and each `Value`
in an `[Option]` widens the range of the parameter.  Any other section ends the parameter.
Blank lines and lines starting with `;` or `//` say nothing, and unknown keys are skipped.
-/

/-- What is wrong with a line. -/
inductive DefinitionsCause where
  | notASetting (line : String)
  | notANumber (key value : String)
  | noId

/-- An offending line of the text. -/
structure DefinitionsFault where
  line : Nat
  cause : DefinitionsCause

namespace DefinitionsCause

/-- The wording of a cause. -/
def message : DefinitionsCause -> String
  | .notASetting line => "expected 'key=value', found '" ++ line ++ "'"
  | .notANumber key value => "invalid value '" ++ value ++ "' for '" ++ key ++ "'"
  | .noId => "parameter definition without ID"

end DefinitionsCause

/-- The offending line as a fault of the named file. -/
def DefinitionsFault.fault (file : String) (offence : DefinitionsFault) : Fault where
  code := "SCENARIO_DEFS"
  message := file ++ s!":{offence.line}: " ++ offence.cause.message
  stretch := some (Stretch.at offence.line 1)

/-- What a line says. -/
inductive DefinitionsLine where
  | nothing
  | heading (name : String)
  | setting (key value : String)
  | unreadable (text : String)

/-- The text between brackets that fill a line. -/
def bracketed? (line : List Char) : Option (List Char) :=
  match line with
  | '[' :: rest =>
      match rest.reverse with
      | ']' :: inner => some inner.reverse
      | _ => none
  | _ => none

/-- Reads one line. -/
def DefinitionsLine.read (raw : String) : DefinitionsLine :=
  let line := Text.trimChars raw.toList
  match line with
  | [] | ';' :: _ | '/' :: '/' :: _ => .nothing
  | _ =>
      match bracketed? line with
      | some inner => .heading (String.ofList (Text.trimChars inner))
      | none =>
          match cutAt '=' line with
          | some (key, value) =>
              .setting (String.ofList (Text.trimChars key))
                (String.ofList (Text.trimChars value))
          | none => .unreadable (String.ofList line)

/-- The part of a parameter that the lines being read belong to. -/
inductive DefinitionsPart where
  | definition
  | option
  deriving DecidableEq

/-- A parameter that is not complete yet, with the line of its section header. -/
structure OpenParameter where
  parameter : Parameter
  headerLine : Nat
  part : DefinitionsPart

/-- The parameters completed so far, and the one being read. -/
structure DefinitionsState where
  scenario : Scenario
  current : Option OpenParameter

namespace DefinitionsState

/-- The state before the first line. -/
def start : DefinitionsState :=
  ⟨{}, none⟩

/-- Completes the parameter being read; it must have an id by now. -/
def close (state : DefinitionsState) : Except DefinitionsFault DefinitionsState :=
  match state.current with
  | none => .ok state
  | some current =>
      if current.parameter.id.isEmpty then .error ⟨current.headerLine, .noId⟩
      else .ok ⟨state.scenario.define current.parameter, none⟩

/-- Moves on to a section. -/
def enter (state : DefinitionsState) (line : Nat) (name : String) :
    Except DefinitionsFault DefinitionsState :=
  if name == "ParameterDef" then
    state.close.map fun closed =>
      { closed with current := some ⟨{ id := "" }, line, .definition⟩ }
  else
    match state.current with
    | none => .ok state
    | some current =>
        if name == "Option" then
          .ok { state with current := some { current with part := .option } }
        else if name == "Options" then .ok state
        else state.close

/-- Widens a parameter's range to hold a value. -/
def widen (parameter : Parameter) (value : Int) : Parameter :=
  { parameter with
    least := some ((parameter.least.map fun least => min least value).getD value)
    most := some ((parameter.most.map fun most => max most value).getD value) }

/-- Applies a setting to the parameter being read. -/
def apply (state : DefinitionsState) (line : Nat) (key value : String) :
    Except DefinitionsFault DefinitionsState :=
  match state.current with
  | none => .ok state
  | some current =>
      let keep (parameter : Parameter) : DefinitionsState :=
        { state with current := some { current with parameter := parameter } }
      let number : Except DefinitionsFault Int :=
        match Number.readDecimal? Number.int32 value with
        | some n => .ok n
        | none => .error ⟨line, .notANumber key value⟩
      match current.part with
      | .definition =>
          if key == "ID" then .ok (keep { current.parameter with id := value })
          else if key == "Name" then .ok (keep { current.parameter with name := value })
          else if key == "Default" then
            number.map fun n => keep { current.parameter with default := n }
          else .ok state
      | .option =>
          if key == "Value" then number.map fun n => keep (widen current.parameter n)
          else .ok state

/-- Takes in one line of the text. -/
def step (state : DefinitionsState) (line : Nat) (raw : String) :
    Except DefinitionsFault DefinitionsState :=
  match DefinitionsLine.read raw with
  | .nothing => .ok state
  | .heading name => state.enter line name
  | .setting key value => state.apply line key value
  | .unreadable text => .error ⟨line, .notASetting text⟩

/-- Takes in lines one after another, the first of them having the given number. -/
def run (state : DefinitionsState) : Nat -> List String -> Except DefinitionsFault DefinitionsState
  | _, [] => .ok state
  | line, raw :: rest =>
      match state.step line raw with
      | .ok next => next.run (line + 1) rest
      | .error offence => .error offence

end DefinitionsState

/-- The parameters a text offers. -/
def ofDefinitions (text : String) : Except DefinitionsFault Scenario :=
  match DefinitionsState.start.run 1 (Text.lines text) with
  | .error offence => .error offence
  | .ok state => state.close.map DefinitionsState.scenario

end Scenario
end Landform
