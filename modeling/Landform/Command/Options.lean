import Landform.Number.Decimal

namespace Landform

/-!
The command line.  A command is the word `render` and then, in any order, two operands and
options.  An option stands as `--name value` or `--name=value`; in the first form the value
must not look like an option itself.  Behind a `--` everything is an operand.  Nothing may
be said twice, and whatever is not understood refuses the whole command.
-/

/-- The options that take a value. -/
inductive ValueOption where
  | width
  | height
  | players
  | teams
  | root
  | scriptPath
  | materials
  | scenario
  | mapType
  | backgroundOutput
  deriving DecidableEq, Inhabited

namespace ValueOption

/-- The option with a name. -/
def ofName? : String -> Option ValueOption
  | "width" => some .width
  | "height" => some .height
  | "players" => some .players
  | "teams" => some .teams
  | "root" => some .root
  | "script-path" => some .scriptPath
  | "materials" => some .materials
  | "scenario" => some .scenario
  | "map-type" => some .mapType
  | "bg-out" => some .backgroundOutput
  | _ => none

end ValueOption

/-- One thing that a command line says. -/
inductive Remark where
  | operand (text : String)
  | option (name : ValueOption) (value : String)
  | watch
  deriving DecidableEq, Inhabited

namespace Remark

/-- The text of an operand. -/
def operand? : Remark -> Option String
  | .operand text => some text
  | _ => none

/-- The value a remark gives to an option. -/
def valueOf? (name : ValueOption) : Remark -> Option String
  | .option other value => if other = name then some value else none
  | _ => none

/-- Whether a word looks like an option; a lone dash does not. -/
def looksLikeOption (word : String) : Bool :=
  word.toList.head? == some '-' && word != "-"

/-- The name of a word that begins with two dashes, and the value attached to it. -/
def longName? (word : String) : Option (String × Option String) :=
  match word.toList with
  | '-' :: '-' :: name =>
      match name.dropWhile fun c => c != '=' with
      | [] => some (String.ofList name, none)
      | _ :: value =>
          some (String.ofList (name.takeWhile fun c => c != '='), some (String.ofList value))
  | _ => none

/-- What the words of a command line say. -/
def ofWords? : List String -> Option (List Remark)
  | [] => some []
  | word :: rest =>
      if word == "--" then some (rest.map Remark.operand)
      else if !looksLikeOption word then (ofWords? rest).map (.operand word :: ·)
      else
        match longName? word with
        | none => none
        | some ("watch", none) => (ofWords? rest).map (.watch :: ·)
        | some (name, some value) =>
            match ValueOption.ofName? name with
            | none => none
            | some known => (ofWords? rest).map (.option known value :: ·)
        | some (name, none) =>
            match ValueOption.ofName? name with
            | none => none
            | some known =>
                match rest with
                | [] => none
                | value :: more =>
                    if looksLikeOption value then none
                    else (ofWords? more).map (.option known value :: ·)

end Remark

/-- What a render command asks for. -/
structure RenderOptions where
  input : String
  output : String
  width : Nat := 200
  height : Nat := 200
  players : Nat := 1
  teams : Nat := 1
  root? : Option String := none
  scriptPath? : Option String := none
  materials? : Option String := none
  scenario? : Option String := none
  mapType? : Option String := none
  backgroundOutput? : Option String := none
  watch : Bool := false
  deriving Inhabited

namespace RenderOptions

/-- The value of an option, if it is given; nothing is said of one that is given twice. -/
def value? (remarks : List Remark) (name : ValueOption) : Option (Option String) :=
  match remarks.filterMap (Remark.valueOf? name) with
  | [] => some none
  | [value] => some (some value)
  | _ => none

/-- A path; the empty text is none. -/
def path? (text : String) : Option String :=
  if text == "" then none else some text

/-- The path an option gives, if it is given. -/
def pathValue? (remarks : List Remark) (name : ValueOption) : Option (Option String) :=
  match value? remarks name with
  | none => none
  | some none => some none
  | some (some text) => (path? text).map some

/-- A whole number of 32 bits without sign, read with an optional sign in front. -/
def natural? (text : String) : Option Nat :=
  match Number.readDecimal? Number.int64 text with
  | some n => if Number.nat32.contains n then some n.toNat else none
  | none => none

/-- The number an option gives, or its usual one. -/
def number? (remarks : List Remark) (name : ValueOption) (usual : Nat) : Option Nat :=
  match value? remarks name with
  | none => none
  | some none => some usual
  | some (some text) => natural? text

/-- Whether the file is to be watched; nothing is said if that is asked twice. -/
def watch? (remarks : List Remark) : Option Bool :=
  match remarks.count .watch with
  | 0 => some false
  | 1 => some true
  | _ => none

/-- The input and the output. -/
def operands? (remarks : List Remark) : Option (String × String) :=
  match remarks.filterMap Remark.operand? with
  | [input, output] => do return (← path? input, ← path? output)
  | _ => none

/-- The options that some remarks give. -/
def ofRemarks? (remarks : List Remark) : Option RenderOptions := do
  let (input, output) ← operands? remarks
  return {
    input := input
    output := output
    width := ← number? remarks .width 200
    height := ← number? remarks .height 200
    players := ← number? remarks .players 1
    teams := ← number? remarks .teams 1
    root? := ← pathValue? remarks .root
    scriptPath? := ← pathValue? remarks .scriptPath
    materials? := ← pathValue? remarks .materials
    scenario? := ← pathValue? remarks .scenario
    mapType? := ← value? remarks .mapType
    backgroundOutput? := ← pathValue? remarks .backgroundOutput
    watch := ← watch? remarks }

/-- The options of a command line. -/
def ofWords? : List String -> Option RenderOptions
  | "render" :: words => (Remark.ofWords? words).bind ofRemarks?
  | _ => none

end RenderOptions

end Landform
