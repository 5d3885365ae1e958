import Landform.Disk.Path
import Landform.Text.Ascii

namespace Landform

/-!
The two kinds of map sources: map scripts and landscape descriptions.  A kind may be named
by a user, or told by the extension of a file.  Case does not matter for either.
-/

/-- What a map is made from. -/
inductive MapKind where
  | script
  | landscape
  deriving DecidableEq, Inhabited

namespace MapKind

/-- The name of a kind. -/
def name : MapKind -> String
  | .script => "script"
  | .landscape => "landscape"

/-- The kind of a name. -/
def ofName? (name : String) : Option MapKind :=
  match Text.asciiLower name with
  | "script" => some .script
  | "landscape" => some .landscape
  | _ => none

/-- The kind of a file. -/
def ofFileName? (fileName : String) : Option MapKind :=
  match (Path.extension? fileName).map Text.asciiLower with
  | some "c" => some .script
  | some "txt" => some .landscape
  | _ => none

end MapKind

end Landform
