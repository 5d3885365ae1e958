import Landform.Json.Fault

namespace Landform
namespace Json

/-!
Reading a text from the left.  A cursor is what is still to be read together with its
place.  A reading takes a cursor to a cursor and either a result or a fault; also a failed
reading tells how far it has come, because a fault whose place is not yet known is placed
where the value around it is left.
-/

/-- What is still to be read, and where it starts. -/
structure Cursor where
  rest : List Char
  spot : Spot

/-- A step of reading. -/
abbrev Reading (α : Type) := EStateM ReadFault Cursor α

namespace Spot

/-- The start of a text. -/
def start : Spot :=
  ⟨1, 0⟩

/-- The place behind a character. -/
def after (spot : Spot) (c : Char) : Spot :=
  if c == '\n' then ⟨spot.line + 1, 0⟩ else ⟨spot.line, spot.column + c.utf8Size⟩

/-- The place a number of bytes further in the given text. -/
def afterBytes (spot : Spot) : Nat -> List Char -> Spot
  | 0, _ | _, [] => spot
  | count, c :: rest =>
      if c.utf8Size ≤ count then (spot.after c).afterBytes (count - c.utf8Size) rest
      else ⟨spot.line, spot.column + count⟩
termination_by _ cs => cs.length

end Spot

namespace Cursor

/-- The cursor at the start of a text. -/
def ofText (s : String) : Cursor :=
  ⟨s.toList, Spot.start⟩

/-- The place behind the next byte. -/
def peekSpot (cursor : Cursor) : Spot :=
  cursor.spot.afterBytes 1 cursor.rest

end Cursor

/-- The character ahead. -/
def peek : Reading (Option Char) := fun cursor =>
  .ok cursor.rest.head? cursor

/-- Passes the character ahead. -/
def advance : Reading Unit := fun cursor =>
  match cursor.rest with
  | c :: rest => .ok () ⟨rest, cursor.spot.after c⟩
  | [] => .ok () cursor

/-- Passes the character ahead and gives it. -/
def next : Reading (Option Char) := fun cursor =>
  match cursor.rest with
  | c :: rest => .ok (some c) ⟨rest, cursor.spot.after c⟩
  | [] => .ok none cursor

/-- Fails here. -/
def fail {α : Type} (cause : SyntaxCause) : Reading α := fun cursor =>
  .error ⟨.syntactic cause, some cursor.spot⟩ cursor

/-- Fails at the byte ahead. -/
def failAhead {α : Type} (cause : SyntaxCause) : Reading α := fun cursor =>
  .error ⟨.syntactic cause, some cursor.peekSpot⟩ cursor

/-- Fails behind a number of bytes. -/
def failAfter {α : Type} (count : Nat) (cause : SyntaxCause) : Reading α := fun cursor =>
  .error ⟨.syntactic cause, some (cursor.spot.afterBytes count cursor.rest)⟩ cursor

/-- Fails at a place that is not known yet. -/
def misfit {α : Type} (cause : ShapeCause) : Reading α := fun cursor =>
  .error ⟨.shape cause, none⟩ cursor

/-- Places a fault of a reading, if it has no place yet, where the reading stopped. -/
def located {α : Type} (reading : Reading α) : Reading α := fun cursor =>
  match reading cursor with
  | .ok a after => .ok a after
  | .error fault after =>
      .error { fault with spot := some (fault.spot.getD after.spot) } after

/--
Reads the inside of a list or object and then its end.  The end is also looked for when
the inside has failed, which then moves the place of a fault that has none yet.
-/
def enclosed {α : Type} (inside : Reading α) (close : Reading Unit) : Reading α := fun cursor =>
  match inside cursor with
  | .ok a after =>
      match close after with
      | .ok _ done => .ok a done
      | .error fault done => .error fault done
  | .error fault after =>
      match close after with
      | .ok _ done | .error _ done => .error fault done

/-- Whether a character is blank between values. -/
def isBlankHere (c : Char) : Bool :=
  c == ' ' || c == '\n' || c == '\t' || c == '\r'

/-- The cursor behind the blanks ahead. -/
def Cursor.pastBlanks : Spot -> List Char -> Cursor
  | spot, [] => ⟨[], spot⟩
  | spot, c :: rest =>
      if isBlankHere c then Cursor.pastBlanks (spot.after c) rest else ⟨c :: rest, spot⟩

/-- Passes the blanks ahead and gives the character behind them. -/
def peekPastBlanks : Reading (Option Char) := fun cursor =>
  let past := Cursor.pastBlanks cursor.spot cursor.rest
  .ok past.rest.head? past

/-- The number of characters still to be read. -/
def remaining : Reading Nat := fun cursor =>
  .ok cursor.rest.length cursor

end Json
end Landform
