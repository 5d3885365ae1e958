namespace Landform
namespace Path

/-!
Paths as texts.  A path is a sequence of pieces separated by slashes.  Empty pieces, and
dots anywhere but at the very start, say nothing; the remaining pieces are the path's
steps.
-/

/-- The pieces between the slashes; a text without a slash is one piece. -/
def piecesOf : List Char -> List (List Char)
  | [] => [[]]
  | '/' :: rest => [] :: piecesOf rest
  | c :: rest =>
      match piecesOf rest with
      | piece :: more => (c :: piece) :: more
      | [] => [[c]]

/-- The pieces of a path. -/
def pieces (path : String) : List String :=
  (piecesOf path.toList).map String.ofList

/-- The path with the given pieces. -/
def ofPieces (pieces : List String) : String :=
  String.intercalate "/" pieces

/-- Whether a path starts from the root of the disk. -/
def isAbsolute (path : String) : Bool :=
  path.toList.head? == some '/'

/-- Whether a piece is a step, given whether it is the first piece of its path. -/
def isStep (first : Bool) (piece : String) : Bool :=
  piece != "" && (piece != "." || first)

/-- The pieces of a path up to its last step, and that step. -/
def lastStep? (path : String) : Option (List String × String) :=
  match (pieces path).reverse.dropWhile fun piece => !isStep false piece with
  | step :: before => some (before.reverse, step)
  | [] =>
      match pieces path with
      | "." :: _ => some ([], ".")
      | _ => none

/-- The last step, when it names something. -/
def fileName? (path : String) : Option String :=
  match lastStep? path with
  | some (_, step) => if step == "." || step == ".." then none else some step
  | none => none

/-- Drops trailing pieces that are no steps; the first piece is judged as such. -/
def dropIdle : List String -> List String
  | [] => []
  | first :: rest =>
      let kept := (rest.reverse.dropWhile fun piece => !isStep false piece).reverse
      if kept.isEmpty && !isStep true first then [] else first :: kept

/-- The path without its last step; a path without steps has no parent. -/
def parent? (path : String) : Option String :=
  match lastStep? path with
  | some (before, _) =>
      match dropIdle before with
      | [] => some (if isAbsolute path then "/" else "")
      | kept => some (ofPieces kept)
  | none => none

/-- The directory a path lies in; a path of one step lies in the current directory. -/
def directory (path : String) : String :=
  match parent? path with
  | some parent => if parent == "" then "." else parent
  | none => "."

/-- A path continued by a name. -/
def join (path name : String) : String :=
  if isAbsolute name then name
  else if path == "" || path.toList.getLast? == some '/' then path ++ name
  else path ++ "/" ++ name

/-- What stands behind the last dot of the last step, unless that dot is its first character. -/
def extension? (path : String) : Option String :=
  match fileName? path with
  | none => none
  | some name =>
      let backwards := name.toList.reverse
      match backwards.dropWhile fun c => c != '.' with
      | [] | ['.'] => none
      | _ :: _ => some (String.ofList (backwards.takeWhile fun c => c != '.').reverse)

end Path
end Landform
