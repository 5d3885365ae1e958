namespace Landform

/-!
Journals: the diagnostics of a run in the order they were reported.  A journal may be
read and written through several handles; all handles on one journal see the same
messages, whichever of them was used to write.
-/

/-- Reported messages, the oldest first. -/
structure Journal where
  messages : Array String := #[]
  deriving Inhabited

namespace Journal

/-- Reports a message. -/
def push (journal : Journal) (message : String) : Journal :=
  ⟨journal.messages.push message⟩

/-- Reports several messages in order. -/
def append (journal : Journal) (messages : Array String) : Journal :=
  ⟨journal.messages ++ messages⟩

theorem append_empty (journal : Journal) : journal.append #[] = journal := by
  simp only [append, Array.append_empty]

theorem append_append (journal : Journal) (first second : Array String) :
    (journal.append first).append second = journal.append (first ++ second) := by
  simp only [append, Array.append_assoc]

theorem push_eq_append (journal : Journal) (message : String) :
    journal.push message = journal.append #[message] := by
  simp only [push, append, Array.push_eq_append]

/-- Forgets all messages. -/
def clear (_ : Journal) : Journal :=
  ⟨#[]⟩

/-- The oldest message. -/
def first? (journal : Journal) : Option String :=
  journal.messages[0]?

/-- The number of messages. -/
def count (journal : Journal) : Nat :=
  journal.messages.size

/-- Whether nothing has been reported. -/
def isEmpty (journal : Journal) : Bool :=
  journal.messages.isEmpty

end Journal

/-- Journals together with the handles given out on them. -/
structure JournalShelf where
  journals : Array Journal
  handles : Array Nat

namespace JournalShelf

/-- A shelf with one journal and one handle on it. -/
def start : JournalShelf :=
  ⟨#[{}], #[0]⟩

/-- Applies an operation to the journal behind a handle. -/
def onHandle (shelf : JournalShelf) (handle : Nat) (f : Journal -> Journal) : JournalShelf :=
  match shelf.handles[handle]? with
  | some journal => { shelf with journals := shelf.journals.modify journal f }
  | none => shelf

/-- Reports a message through a handle. -/
def push (shelf : JournalShelf) (handle : Nat) (message : String) : JournalShelf :=
  shelf.onHandle handle fun journal => journal.push message

/-- Clears the journal behind a handle. -/
def clear (shelf : JournalShelf) (handle : Nat) : JournalShelf :=
  shelf.onHandle handle Journal.clear

/-- Gives out another handle on the journal behind a handle. -/
def share (shelf : JournalShelf) (handle : Nat) : JournalShelf :=
  match shelf.handles[handle]? with
  | some journal => { shelf with handles := shelf.handles.push journal }
  | none => shelf

/-- Adds an empty journal and a handle on it. -/
def add (shelf : JournalShelf) : JournalShelf :=
  ⟨shelf.journals.push {}, shelf.handles.push shelf.journals.size⟩

/-- The journal behind each handle, in the order the handles were given out. -/
def views (shelf : JournalShelf) : List Journal :=
  shelf.handles.toList.map fun journal => (shelf.journals[journal]?).getD {}

end JournalShelf

end Landform
