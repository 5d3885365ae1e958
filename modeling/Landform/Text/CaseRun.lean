namespace Landform
namespace Text

/-!
Runs of characters that a case mapping moves alike.  The tables of case mappings are short
because neighbouring letters of a script are mostly mapped by the same offset, either all of
them or every second one.
-/

/-- A run of code points `first, first + stride, … , last` that are mapped by adding `offset`. -/
structure CaseRun where
  first : Nat
  last : Nat
  stride : Nat
  offset : Int

namespace CaseRun

/-- Whether a code point belongs to the run. -/
def covers (run : CaseRun) (code : Nat) : Bool :=
  run.first ≤ code && code ≤ run.last && (code - run.first) % run.stride == 0

/-- The character that the runs map a character to; one outside of them is kept. -/
def image (runs : Array CaseRun) (c : Char) : Char :=
  match runs.find? fun run => run.covers c.toNat with
  | some run => Char.ofNat (Int.ofNat c.toNat + run.offset).toNat
  | none => c

end CaseRun

end Text
end Landform
