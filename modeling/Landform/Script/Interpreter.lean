import Landform.Script.Evaluation
import Landform.Script.Language
import Landform.Script.Reader
import Landform.Script.Simplification

namespace Landform
namespace Script

/-!
The language of map scripts: programs are simplified when they are read, and evaluated by
the evaluator.  The scope of a program is what its memory holds between two calls.

It is one language among others.  A session knows a language only by what `Language` tells of it,
and this one is there for programs to be run with.  It does without modules, without evaluating
texts, and without those functions of lists that are given functions.
-/

/-- What an evaluation in a setting is done with. -/
def Setting.surroundings (setting : Setting) (program : Program) : Surroundings where
  program := program
  constant? := setting.constant?
  players := setting.players
  teams := setting.teams

namespace Interpreter

/-- Reads a script. -/
def read (fileName source : String) : Except String Program :=
  match Program.ofText fileName source with
  | .ok program => .ok program.simplified
  | .error fault => .error fault.message

/-- Runs the statements of a program that are outside of functions. -/
def run (program : Program) (setting : Setting) (memory : Memory) :
    Dialogue (Except String Unit × Memory) :=
  (Program.run (setting.surroundings program) memory).bind fun
    | (.ok _, left) => .done (.ok (), left)
    | (.error failure, left) => .done (.error (failure.message program.fileName), left)

/-- Calls a function of a program. -/
def call (rewinds : Bool) (program : Program) (name : String) (arguments : List Value)
    (setting : Setting) (memory : Memory) : Dialogue (Except String Value × Memory) :=
  match program.function? name arguments.length with
  | none =>
      let failure : Failure := { cause := .noFunction (Value.signatureText name arguments) }
      .done (.error (failure.message program.fileName), memory)
  | some function =>
      (function.callFromOutside rewinds arguments (setting.surroundings program) memory).bind fun
        | (.ok value, left) => .done (.ok value, left)
        | (.error failure, left) => .done (.error (failure.message program.fileName), left)

/-- Calls a function of a program, after its statements if they are to be evaluated first. -/
def callWith (options : CallOptions) (program : Program) (name : String)
    (arguments : List Value) (setting : Setting) (memory : Memory) :
    Dialogue (Except String Value × Memory) :=
  if options.evaluatesFirst then
    (run program setting memory).bind fun
      | (.ok _, ready) => call options.rewindsScope program name arguments setting ready
      | (.error words, left) => .done (.error words, left)
  else call options.rewindsScope program name arguments setting memory

end Interpreter

/-- The language of map scripts. -/
def interpreter : Language where
  Program := Program
  Scope := Memory
  read := Interpreter.read
  empty := Program.empty
  merge := Program.followedBy
  defines := fun program name arity => (program.function? name arity).isSome
  newScope := {}
  run := Interpreter.run
  callWith := Interpreter.callWith

end Script
end Landform
