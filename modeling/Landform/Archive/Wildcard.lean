import Landform.Text.Folding

namespace Landform

/-!
Wildcard patterns over the names of archive entries.  In a pattern `*` stands for any run
of characters, the empty one included, and `?` for any single character; neither stands
for a line feed.  Every other character stands for itself, up to its case.  A pattern has
to cover the whole name.

Matching goes through the pattern from its end.  For the part already seen it keeps, for
every end piece of the name, whether the part covers that piece, so the work is bounded by
the product of the two lengths.
-/

/-- One part of a pattern. -/
inductive WildcardPart where
  | run
  | single
  | literal (character : Char)
  deriving DecidableEq

/-- A wildcard pattern. -/
structure Wildcard where
  parts : List WildcardPart
  deriving DecidableEq

namespace WildcardPart

/-- The part a character of a pattern is. -/
def ofChar : Char -> WildcardPart
  | '*' => .run
  | '?' => .single
  | c => .literal c

/-- Whether a part that takes one character takes the given one. -/
def takes : WildcardPart -> Char -> Bool
  | .run, c | .single, c => c != '\n'
  | .literal expected, c => Text.sameFolded expected c

end WildcardPart

namespace Wildcard

/-- The pattern a text spells out. -/
def ofText (text : String) : Wildcard :=
  ⟨text.toList.map WildcardPart.ofChar⟩

/--
Puts a part that takes one character in front of what covers the end pieces: the new part
covers a piece when it takes its first character and what follows is covered.
-/
def takeOne (part : WildcardPart) : List Char -> List Bool -> List Bool
  | c :: rest, _ :: covered =>
      (part.takes c && covered.headD false) :: takeOne part rest covered
  | _, _ => [false]

/-- Puts a run in front of what covers the end pieces. -/
def takeRun : List Char -> List Bool -> List Bool
  | c :: rest, here :: covered =>
      let later := takeRun rest covered
      (here || (c != '\n' && later.headD false)) :: later
  | _, covered => covered

/-- For a text and every end piece of it, whether the parts cover that piece. -/
def coverage (name : List Char) : List WildcardPart -> List Bool
  | [] => (name.map fun _ => false) ++ [true]
  | .run :: rest => takeRun name (coverage name rest)
  | part :: rest => takeOne part name (coverage name rest)

/-- Whether a pattern covers a name. -/
def covers (pattern : Wildcard) (name : String) : Bool :=
  (coverage name.toList pattern.parts).headD false

end Wildcard

end Landform
