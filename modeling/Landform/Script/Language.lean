import Landform.Script.Dialogue
import Landform.Script.Value

namespace Landform
namespace Script

/-!
Languages that scripts are written in, as far as a session has to do with them.

A session reads scripts, merges them to one program, runs the statements of the program, and
calls its functions.  How a language does this is its own affair: a run and a call are
dialogues, so whatever a script does to its surroundings, it does by requests.  What a program
leaves for the next call is a scope, which nobody but the language looks into.

What a session does by itself is said here once: it merges scripts in their order, runs a
program in a new scope, and calls functions without evaluating the statements outside of them
and without leaving anything of its own in the scope.
-/

/-- What a session tells a program while it is evaluated. -/
structure Setting where
  constant? : String -> Option Int
  players : Int
  teams : Int

/--
How a function is called: whether the statements of its program are evaluated before it, and
whether the scope is wound back behind it.
-/
structure CallOptions where
  evaluatesFirst : Bool
  rewindsScope : Bool
  deriving DecidableEq, Inhabited

/--
A language of scripts.  A script is read from the name of its file and its text; what goes
wrong, in reading or in evaluation, is told in words.
-/
structure Language where
  Program : Type
  Scope : Type
  read : String -> String -> Except String Program
  empty : Program
  merge : Program -> Program -> Program
  defines : Program -> String -> Nat -> Bool
  newScope : Scope
  run : Program -> Setting -> Scope -> Dialogue (Except String Unit × Scope)
  callWith : CallOptions -> Program -> String -> List Value -> Setting -> Scope ->
    Dialogue (Except String Value × Scope)

namespace Language

variable (language : Language)

/-- Several programs merged to one, each into those before it. -/
def inSequence (programs : List language.Program) : language.Program :=
  programs.foldl language.merge language.empty

/-- Runs a program in a new scope. -/
def start (program : language.Program) (setting : Setting) :
    Dialogue (Except String Unit × language.Scope) :=
  language.run program setting language.newScope

/-- The way a session calls functions. -/
def sessionCall : CallOptions where
  evaluatesFirst := false
  rewindsScope := true

/-- Calls a function the way a session does. -/
def call (program : language.Program) (name : String) (arguments : List Value)
    (setting : Setting) (scope : language.Scope) :
    Dialogue (Except String Value × language.Scope) :=
  language.callWith sessionCall program name arguments setting scope

end Language

end Script
end Landform
