import Landform.Disk.Path
import Landform.Archive
import Landform.Picture.Format

namespace Landform

/-!
The files a run may read and write, as a value: a tree of directories below the current
directory.  Files hold bytes or pictures; a picture is kept by its colours and its format,
not by the bytes that encode it.

Paths are followed step by step from the current directory.  Nothing exists outside of it.
-/

/-- What a file holds. -/
inductive FileContent where
  | bytes (bytes : ByteArray)
  | picture (format : PictureFormat) (picture : Picture)

/-- A directory with what it holds, or a file. -/
inductive FileTree where
  | file (content : FileContent)
  | directory (entries : List (String × FileTree))

/-- Why a file cannot be opened or read. -/
inductive DiskFault where
  | missing
  | notDirectory
  | isDirectory
  | notText
  | other (message : String)
  deriving DecidableEq

namespace DiskFault

/-- The wording of a fault. -/
def message : DiskFault -> String
  | .missing => "No such file or directory (os error 2)"
  | .notDirectory => "Not a directory (os error 20)"
  | .isDirectory => "Is a directory (os error 21)"
  | .notText => "stream did not contain valid UTF-8"
  | .other message => message

end DiskFault

namespace FileTree

/-- The tree without files. -/
def empty : FileTree :=
  .directory []

instance : Inhabited FileTree :=
  ⟨empty⟩

/-- What lies at the given names, each a step down from the directory before. -/
def find? : FileTree -> List String -> Option FileTree
  | tree, [] => some tree
  | .file _, _ :: _ => none
  | .directory entries, name :: rest =>
      match entries.lookup name with
      | some child => child.find? rest
      | none => none

mutual

/-- Puts a tree at the given names and makes the directories that are missing. -/
def put (new : FileTree) : List String -> FileTree -> FileTree
  | [], _ => new
  | name :: rest, .directory entries => .directory (putInside new name rest entries)
  | name :: rest, .file _ => .directory (putInside new name rest [])
termination_by names tree => (names.length, 1, sizeOf tree)

/-- Puts a tree below an entry of a directory. -/
def putInside (new : FileTree) (name : String) (rest : List String) :
    List (String × FileTree) -> List (String × FileTree)
  | [] => [(name, put new rest empty)]
  | (other, tree) :: more =>
      if other == name then (other, put new rest tree) :: more
      else (other, tree) :: putInside new name rest more
termination_by entries => (rest.length + 1, 0, sizeOf entries)

end

/-- Takes one more step from the directory at the given names, the last name first. -/
def step (tree : FileTree) (here : List String) (piece : String) :
    Except DiskFault (List String) :=
  match tree.find? here.reverse with
  | some (.directory entries) =>
      if piece == "" || piece == "." then .ok here
      else if piece == ".." then
        match here with
        | [] => .error .missing
        | _ :: up => .ok up
      else if (entries.lookup piece).isSome then .ok (piece :: here)
      else .error .missing
  | some (.file _) => .error .notDirectory
  | none => .error .missing

/-- Takes steps one after another. -/
def walk (tree : FileTree) : List String -> List String -> Except DiskFault (List String)
  | here, [] => .ok here
  | here, piece :: rest =>
      match tree.step here piece with
      | .ok next => tree.walk next rest
      | .error fault => .error fault

/-- The names, the last first, that a path comes to. -/
def follow (tree : FileTree) (path : String) : Except DiskFault (List String) :=
  if path == "" || Path.isAbsolute path then .error .missing
  else tree.walk [] (Path.pieces path)

/-- What a path comes to. -/
def open? (tree : FileTree) (path : String) : Except DiskFault FileTree :=
  match tree.follow path with
  | .error fault => .error fault
  | .ok names =>
      match tree.find? names.reverse with
      | some found => .ok found
      | none => .error .missing

/-- Whether a path comes to a file. -/
def isFile (tree : FileTree) (path : String) : Bool :=
  match tree.open? path with
  | .ok (.file _) => true
  | _ => false

/-- The text some content holds. -/
def textOf : FileContent -> Except DiskFault String
  | .bytes bytes =>
      match String.fromUTF8? bytes with
      | some text => .ok text
      | none => .error .notText
  | .picture .. => .error .notText

/-- The text of the file at a path. -/
def readText (tree : FileTree) (path : String) : Except DiskFault String :=
  match tree.open? path with
  | .ok (.file content) => textOf content
  | .ok (.directory _) => .error .isDirectory
  | .error fault => .error fault

/-- The picture at a path. -/
def picture? (tree : FileTree) (path : String) : Option Picture :=
  match tree.open? path with
  | .ok (.file (.picture _ picture)) => some picture
  | _ => none

/-- Puts content into a file of the directory at the given names, the last name first. -/
def writeIn (tree : FileTree) (here : List String) (name : String) (content : FileContent) :
    Except DiskFault FileTree :=
  match tree.find? here.reverse with
  | some (.directory entries) =>
      if name == "." || name == ".." then .error .isDirectory
      else
        match entries.lookup name with
        | some (.directory _) => .error .isDirectory
        | _ => .ok (put (.file content) (here.reverse ++ [name]) tree)
  | some (.file _) => .error .notDirectory
  | none => .error .missing

/--
Puts content into the file at a path; the directory around has to exist.  A path that ends
with a slash says that it is a directory's.
-/
def write (tree : FileTree) (path : String) (content : FileContent) :
    Except DiskFault FileTree :=
  if path == "" || Path.isAbsolute path then .error .missing
  else
    let backwards := (Path.pieces path).reverse
    match backwards.dropWhile fun piece => piece == "" with
    | [] => .error .missing
    | name :: before =>
        match tree.walk [] before.reverse with
        | .error fault => .error fault
        | .ok here =>
            if backwards.head? == some "" then
              match tree.find? here.reverse with
              | some (.directory _) => .error .isDirectory
              | _ => .error .notDirectory
            else tree.writeIn here name content

/-- The names of a path that says where to put something in a new tree. -/
def placeOf (path : String) : List String :=
  (Path.pieces path).filter fun piece => piece != "" && piece != "."

/-- The tree with the given directories and files. -/
def ofFiles (directories : List String) (files : List (String × ByteArray)) : FileTree :=
  let started :=
    directories.foldl
      (fun tree path =>
        if (tree.find? (placeOf path)).isSome then tree else put empty (placeOf path) tree)
      empty
  files.foldl (fun tree file => put (.file (.bytes file.2)) (placeOf file.1) tree) started

/-- The fault of opening something as an archive that is none. -/
def notAnArchive (path reason : String) : Fault where
  code := "ARCHIVE_OPEN"
  message := "Failed to open directory '" ++ path ++ "': " ++ reason

/-- A file of a directory as an entry of an archive; what it cannot be read for is told when it is
asked for. -/
def entryOf (path name : String) (text : Except DiskFault String) : ArchiveEntry where
  name := name
  content :=
    match text with
    | .ok text => .ok text
    | .error fault =>
        .error
          { code := "ARCHIVE_READ"
            message := "Failed to read '" ++ Path.join path name ++ "': " ++ fault.message }

/-- The fault of an entry that cannot be read says so. -/
theorem entryOf_fault {path name : String} {text : Except DiskFault String} {fault : Fault}
    (unreadable : (entryOf path name text).content = .error fault) :
    fault.code = "ARCHIVE_READ" := by
  cases text with
  | ok text => cases unreadable
  | error reason =>
      cases unreadable
      rfl

/-- An entry of a directory as an entry of an archive; directories are no entries. -/
def fileEntryOf (path : String) : String × FileTree -> Option ArchiveEntry
  | (_, .directory _) => none
  | (name, .file content) => some (entryOf path name (textOf content))

/-- An archive of the directory at a path, its entries sorted by their names. -/
def sortedArchive (path : String) (entries : List ArchiveEntry) : Archive where
  name := path
  entries := entries.mergeSort fun a b => a.name ≤ b.name

/-- Some entries of the directory at a path as an archive. -/
def archiveOf (path : String) (entries : List (String × FileTree)) : Archive :=
  sortedArchive path (entries.filterMap (fileEntryOf path))

/-- The directory at a path as an archive of the files directly in it. -/
def openArchive (tree : FileTree) (path : String) : Except Fault Archive :=
  match tree.open? path with
  | .ok (.directory entries) => .ok (archiveOf path entries)
  | .ok (.file _) => .error (notAnArchive path "Not a directory")
  | .error _ => .error (notAnArchive path "No such file or directory")

end FileTree

end Landform
