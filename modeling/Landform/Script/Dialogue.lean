import Landform.Journal
import Landform.Sheet.Request

namespace Landform
namespace Script

/-!
Dialogues between a script and its surroundings.

The evaluation of a script does nothing by itself.  It is a dialogue that either is done
or puts a request and goes on in a way that depends on the answer.  A workbench answers
requests: it holds the sheets that scripts paint on, the lines they have written, and what
has been noted.

What is proved of all dialogues on a workbench therefore holds of every script, whatever
it does.
-/

/-- A request of a script: to write a line, or a request to one of the sheets. -/
inductive Request where
  | write (line : String)
  | onSheet (number : Nat) (request : Sheet.Request)

/-- What a request is answered by. -/
def Request.Answer : Request -> Type
  | write _ => Unit
  | onSheet _ request => request.Answer

/-- A computation that may put requests before it is done. -/
inductive Dialogue (α : Type) where
  | done (result : α)
  | ask (request : Request) (next : request.Answer -> Dialogue α)

namespace Dialogue

variable {α β : Type}

/-- Goes on after a dialogue with its result. -/
def bind : Dialogue α -> (α -> Dialogue β) -> Dialogue β
  | done result, next => next result
  | ask request answer, next => .ask request fun given => (answer given).bind next

end Dialogue

/-- A sheet, and the tables by which materials are laid on it. -/
structure MountedSheet where
  resolver : Resolver
  sheet : Sheet

/-- What scripts work with: sheets, the lines written, and the journal of what is noted. -/
structure Workbench where
  sheets : List MountedSheet := []
  lines : Array String := #[]
  journal : Journal := {}

namespace Workbench

/-- Puts a request to the sheet of a number. -/
def serveSheet (request : Sheet.Request) :
    (number : Nat) -> List MountedSheet -> request.Answer × List MountedSheet × List String
  | _, [] => (request.absent, [], [])
  | 0, ⟨resolver, sheet⟩ :: rest =>
      let ⟨answer, changed, notes⟩ := sheet.serve resolver request
      (answer, ⟨resolver, changed⟩ :: rest, notes)
  | number + 1, first :: rest =>
      let (answer, changed, notes) := serveSheet request number rest
      (answer, first :: changed, notes)

/-- Answers a request. -/
def serve (bench : Workbench) : (request : Request) -> request.Answer × Workbench
  | .write line => ((), { bench with lines := bench.lines.push line })
  | .onSheet number request =>
      let ⟨sheets, lines, journal⟩ := bench
      let (answer, changed, noted) := serveSheet request number sheets
      (answer, ⟨changed, lines, journal.append noted.toArray⟩)

end Workbench

/-- Conducts a dialogue at a workbench. -/
def Dialogue.conduct {α : Type} : Dialogue α -> Workbench -> α × Workbench
  | .done result, bench => (result, bench)
  | .ask request next, bench =>
      let (answer, after) := bench.serve request
      (next answer).conduct after

end Script
end Landform
