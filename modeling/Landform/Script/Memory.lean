import Landform.Script.Dialogue
import Landform.Script.Failure

namespace Landform
namespace Script

/-!
What a script is evaluated with, and what its evaluation may do.

The surroundings stay the same during an evaluation: the functions of the script, the
constants of the host, and the counts that scripts may ask for.  The memory changes: it
holds the variables that can be seen, and the cells that several variables share.

A constant of the host comes before every variable of its name, and a variable that is
assigned one becomes a constant itself.  A variable is distant where
the text around a function does not show that it is there: the variables outside of
functions, and those a closure has taken.  A function comes before a distant variable of its
name.

While the steps of a chain work on what a cell holds, the cell is held: a closure that has
taken it cannot be called in the meantime.
-/

/-- What stays the same while a script is evaluated. -/
structure Surroundings where
  program : Program
  constant? : String -> Option Int
  players : Int
  teams : Int

/-- A variable, or a name for a value that never changes. -/
structure Variable where
  name : String
  constant : Bool
  value : Value
  distant : Bool := false
  deriving Inhabited

/-- A value that several variables share; that of a constant never changes. -/
structure Cell where
  value : Value
  constant : Bool := false
  deriving Inhabited

/-- The value that a function is a method of; that of a constant is not to be changed. -/
structure Subject where
  value : Value
  fixed : Bool := false
  deriving Inhabited

/--
The variables that can be seen, the innermost first, and all else that may change; `globals`
are the constants outside of functions, the last first, as long as what is outside of
functions is evaluated, and `held` are the cells that chains are working on.
-/
structure Memory where
  visible : List Variable := []
  cells : Array Cell := #[]
  globals : List (String × Value) := []
  held : List Nat := []
  self? : Option Subject := none
  depth : Nat := 0
  deriving Inhabited

/-- Why an evaluation does not come to a value where it stands. -/
inductive Stop where
  | failed (failure : Failure)
  | leftLoop (value : Value)
  | nextRound
  | gaveBack (value : Value)
  deriving Inhabited

/-- A part of the evaluation of a script. -/
def Run (α : Type) :=
  Surroundings -> Memory -> Dialogue (Except Stop α × Memory)

namespace Run

/-- Comes to a value at once. -/
def value {α : Type} (result : α) : Run α :=
  fun _ memory => .done (.ok result, memory)

/-- Goes on with the value of a part, if it comes to one. -/
def andThen {α β : Type} (first : Run α) (next : α -> Run β) : Run β :=
  fun surroundings memory =>
    (first surroundings memory).bind fun
      | (.ok result, after) => next result surroundings after
      | (.error stop, after) => .done (.error stop, after)

instance : Monad Run where
  pure := value
  bind := andThen

/-- Stops. -/
def stop {α : Type} (reason : Stop) : Run α :=
  fun _ memory => .done (.error reason, memory)

/-- Fails at a place. -/
def fail {α : Type} (cause : FailureCause) (place : Place) : Run α :=
  stop (.failed (.of cause place))

/-- What stays the same. -/
def surroundings : Run Surroundings :=
  fun given memory => .done (.ok given, memory)

/-- The memory as it is. -/
def memory : Run Memory :=
  fun _ memory => .done (.ok memory, memory)

/-- Changes the memory. -/
def change (f : Memory -> Memory) : Run Unit :=
  fun _ memory => .done (.ok (), f memory)

/-- Puts a request. -/
def put (request : Request) : Run request.Answer :=
  fun _ memory => .ask request fun answer => .done (.ok answer, memory)

/-- How a part ends, whether it comes to a value or not. -/
def ending {α : Type} (part : Run α) : Run (Except Stop α) :=
  fun surroundings memory =>
    (part surroundings memory).bind fun (result, after) => .done (.ok result, after)

/-- Ends as another part has ended. -/
def resume {α : Type} : Except Stop α -> Run α
  | .ok result => value result
  | .error reason => stop reason

/-- The innermost variables of a list are left out until it has the given length. -/
def outermost (count : Nat) (visible : List Variable) : List Variable :=
  visible.drop (visible.length - count)

/-- Evaluates a part; the names it introduces are forgotten however it ends. -/
def inBlock {α : Type} (part : Run α) : Run α := do
  let count := (← memory).visible.length
  let result ← ending part
  change fun memory => { memory with visible := outermost count memory.visible }
  resume result

/-- Evaluates a part that works on what a cell holds, if it is a cell that holds it. -/
def holding {α : Type} (cell? : Option Nat) (part : Run α) : Run α :=
  match cell? with
  | none => part
  | some cell => do
      let before := (← memory).held
      change fun memory => { memory with held := cell :: before }
      let result ← ending part
      change fun memory => { memory with held := before }
      resume result

/--
Repeats a part until it comes to a result; `rounds` bounds how often.  A round that puts no
request is followed by the next one at once, so repeating takes no more room than one round.
-/
def repeatFrom {σ β : Type} (round : σ -> Run (Except β σ)) (surroundings : Surroundings) :
    (rounds : Nat) -> σ -> Memory -> Dialogue (Except Stop β × Memory)
  | 0, _, memory => .done (.error (.failed { cause := .tooLong }), memory)
  | rounds + 1, state, memory =>
      match round state surroundings memory with
      | .done (.ok (.ok next), after) => repeatFrom round surroundings rounds next after
      | .done (.ok (.error result), after) => .done (.ok result, after)
      | .done (.error stop, after) => .done (.error stop, after)
      | .ask request answer => .ask request fun given =>
          (answer given).bind fun
            | (.ok (.ok next), after) => repeatFrom round surroundings rounds next after
            | (.ok (.error result), after) => .done (.ok result, after)
            | (.error stop, after) => .done (.error stop, after)

/-- Repeats a part until it comes to a result. -/
def repeating {σ β : Type} (rounds : Nat) (state : σ) (round : σ -> Run (Except β σ)) :
    Run β :=
  fun surroundings memory => repeatFrom round surroundings rounds state memory

end Run

/-! ## Names -/

/-- The first variable of a name. -/
def findVariable (name : String) (visible : List Variable) : Option Variable :=
  visible.find? fun known => known.name == name

/-- Gives the first variable of a name another value. -/
def setVariable (name : String) (value : Value) : List Variable -> List Variable
  | [] => []
  | first :: rest =>
      if first.name == name then { first with value := value } :: rest
      else first :: setVariable name value rest

/-- Makes the first variable of a name a constant. -/
def fixVariable (name : String) : List Variable -> List Variable
  | [] => []
  | first :: rest =>
      if first.name == name then { first with constant := true } :: rest
      else first :: fixVariable name rest

/-- The outermost variables of those that a call has left: as many as there were before it, and
each as near as it was. -/
def rewound (before left : List Variable) : List Variable :=
  List.zipWith (fun (known now : Variable) => { now with distant := known.distant }) before
    (Run.outermost before.length left)

/-- Variables as they are seen from inside of a function. -/
def fromAfar (visible : List Variable) : List Variable :=
  visible.map fun known => { known with distant := true }

namespace Memory

/-- The value behind a value: what a cell holds. -/
def behind (memory : Memory) : Value -> Value
  | .cell number => (memory.cells[number]?.map Cell.value).getD .unit
  | value => value

/-- Whether a value is a cell that never changes. -/
def isFixedCell (memory : Memory) : Value -> Bool
  | .cell number => (memory.cells[number]?.map Cell.constant).getD false
  | _ => false

/-- Whether a value is a cell that is held. -/
def isHeldCell (memory : Memory) : Value -> Bool
  | .cell number => memory.held.contains number
  | _ => false

/-- Gives a variable another value; a variable on a shared cell changes the cell. -/
def write (memory : Memory) (name : String) (value : Value) : Memory :=
  match (findVariable name memory.visible).map Variable.value with
  | some (.cell number) =>
      { memory with cells := memory.cells.modify number fun cell => { cell with value := value } }
  | _ => { memory with visible := setVariable name value memory.visible }

/-- Makes the first variable of a name a constant. -/
def fix (memory : Memory) (name : String) : Memory :=
  match (findVariable name memory.visible).map Variable.value with
  | some (.cell number) =>
      { memory with
        cells := memory.cells.modify number fun cell => { cell with constant := true } }
  | _ => { memory with visible := fixVariable name memory.visible }

/-- Introduces a name. -/
def declare (memory : Memory) (name : String) (constant : Bool) (value : Value) : Memory :=
  { memory with visible := { name, constant, value } :: memory.visible }

/-- Moves the value of a variable to a cell, unless it is there; answers the cell. -/
def share (memory : Memory) (shared : Variable) : Value × Memory :=
  match shared.value with
  | .cell number => (.cell number, memory)
  | value =>
      let cell := Value.cell memory.cells.size
      (cell,
        { memory with
          cells := memory.cells.push ⟨value, shared.constant⟩
          visible := setVariable shared.name cell memory.visible })

end Memory

/-- What a name stands for. -/
inductive Meaning where
  | function
  | constant (value : Int)
  | held (known : Variable)

/-- What a name stands for, if it stands for anything. -/
def meaningOf? (name : String) : Run (Option Meaning) := do
  let given ← Run.surroundings
  let found := findVariable name (← Run.memory).visible
  let isNear := (found.map fun known => !known.distant).getD false
  if !isNear && given.program.functions.any fun function => function.name == name then
    return some .function
  else
    match given.constant? name with
    | some value => return some (.constant value)
    | none => return found.map .held

/-- The value of a name, or the cell that holds it if it is shared. -/
def readShared (name : String) (place : Place) : Run Value := do
  match ← meaningOf? name with
  | some .function => return .callable (.linked name) []
  | some (.constant value) => return .integer value
  | some (.held known) => return known.value
  | none => Run.fail (.noVariable name) place

/-- The value of a name. -/
def readName (name : String) (place : Place) : Run Value := do
  let value ← readShared name place
  return (← Run.memory).behind value

/-- The value that a name behind the path of a module stands for. -/
def readForeignName (path name : String) (origin : Place) : Run Value := do
  if path == "global" then
    match (← Run.memory).globals.lookup name with
    | some value => return value
    | none => Run.fail (.noVariable ("global::" ++ name)) origin
  else Run.fail (.noModule path) origin

/--
Takes a name into a closure: its variable, which there has to be, becomes a shared one.  What
is known of a constant is handed over by itself.
-/
def capture (taken : Capture) : Run Value := do
  let used := taken.used
  let memory ← Run.memory
  match findVariable used.name memory.visible with
  | none => Run.fail (.noVariable used.name) used.place
  | some known => do
      Run.change fun memory => (memory.share known).2
      match taken.known? with
      | some literal => return literal.toValue
      | none => readShared used.name used.place

/-- Whether an expression names a constant of the host. -/
def namesConstant (e : Expr) : Run Bool := do
  match e with
  | .named name _ =>
      match ← meaningOf? name with
      | some (.constant _) => return true
      | _ => return false
  | _ => return false

/--
A value that is being worked on, with the cell that holds it if it is shared, and what
becomes of changes to it, which are made at a place.
-/
structure Target where
  value : Value
  fixed : Bool := false
  cell? : Option Nat := none
  store : Value -> Place -> Run Unit := fun _ _ => Run.value ()

/-- The target a name stands for. -/
def nameTarget (name : String) (place : Place) : Run Target := do
  let value ← readName name place
  let memory ← Run.memory
  match ← meaningOf? name with
  | some (.held known) =>
      return {
        value := value
        fixed := known.constant || memory.isFixedCell known.value
        cell? := match known.value with
          | .cell number => some number
          | _ => none
        store := fun value _ => Run.change fun memory => memory.write name value }
  | _ => return { value := value, fixed := true }

/-- The target that a method works on. -/
def selfTarget (place : Place) : Run Target := do
  match (← Run.memory).self? with
  | some subject =>
      return {
        value := subject.value
        fixed := subject.fixed
        store := fun value _ =>
          Run.change fun memory => { memory with self? := some ⟨value, subject.fixed⟩ } }
  | none => Run.fail .noSelf place

end Script
end Landform
