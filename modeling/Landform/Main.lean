import Landform.Command.Rendering
import Landform.Picture.Encoding
import Landform.Script.Interpreter

namespace Landform
namespace Program

/-!
The program: the render command on the files of this machine.  A watched input is looked
at ten times a second and rendered again whenever its text has changed.
-/

/-- A failed access as a fault. -/
def diskFault : IO.Error -> DiskFault
  | .noFileOrDirectory .. | .noSuchThing .. => .missing
  | .inappropriateType _ 21 _ => .isDirectory
  | .inappropriateType .. => .notDirectory
  | error => .other (toString error)

/-- Carries out an access; what it throws is answered as a fault. -/
def guarded {α : Type} (access : IO α) : IO (Except DiskFault α) := do
  try
    return .ok (← access)
  catch error =>
    return .error (diskFault error)

/-- What lies at a path. -/
def kindAt (path : String) : IO (Except DiskFault IO.FS.FileType) :=
  guarded do return (← ((← IO.currentDir) / path).metadata).type

/-- Whether a path comes to a file. -/
def isFileAt (path : String) : IO Bool := do
  match ← kindAt path with
  | .ok .file => return true
  | _ => return false

/-- The text of the file at a path. -/
def readTextAt (path : String) : IO (Except DiskFault String) := do
  match ← kindAt path with
  | .error fault => return .error fault
  | .ok .dir => return .error .isDirectory
  | .ok _ =>
      let bytes ← guarded (IO.FS.readBinFile path)
      return bytes.bind fun bytes => FileTree.textOf (.bytes bytes)

/-- The names in the directory at a path. -/
def namesAt (path : String) : IO (Except DiskFault (List String)) :=
  guarded do
    return (← ((← IO.currentDir) / path).readDir).toList.map IO.FS.DirEntry.fileName

/-- The directory at a path as an archive of the files directly in it. -/
def openArchiveAt (path : String) : IO (Except Fault Archive) := do
  match ← kindAt path with
  | .error _ => return .error (FileTree.notAnArchive path "No such file or directory")
  | .ok .dir =>
      match ← namesAt path with
      | .error fault => return .error (FileTree.notAnArchive path fault.message)
      | .ok names =>
          let mut entries : List ArchiveEntry := []
          for name in names do
            let member := Path.join path name
            if ← isFileAt member then
              entries := FileTree.entryOf path name (← readTextAt member) :: entries
          return .ok (FileTree.sortedArchive path entries)
  | .ok _ => return .error (FileTree.notAnArchive path "Not a directory")

/-- The bytes of some content. -/
def bytesIn : FileContent -> ByteArray
  | .bytes bytes => bytes
  | .picture format picture => picture.encode format

/-- The files of this machine. -/
def disk : DiskAccess IO where
  isFile := isFileAt
  readText := readTextAt
  openArchive := openArchiveAt
  write := fun path content => guarded (IO.FS.writeBinFile path (bytesIn content))

/-- Prints the lines of an outcome. -/
def printLines (outcome : CommandOutcome) : IO Unit := do
  for line in outcome.lines do
    IO.println line
  (← IO.getStdout).flush

/-- Renders again whenever the text of the input has changed. -/
partial def watch (workplace : Workplace Script.interpreter)
    (text : Except DiskFault String) : IO Unit := do
  IO.sleep 100
  let now ← disk.readText workplace.options.input
  let same :=
    match text, now with
    | .ok before, .ok after => before == after
    | _, .error _ => true
    | .error _, .ok _ => false
  if same then watch workplace text
  else
    IO.println "WATCH:CHANGED"
    let (outcome, after) ← workplace.render disk
    printLines (.ofRendering workplace outcome)
    watch after now

/-- Carries out the command line of the program. -/
def run (words : List String) : IO UInt32 := do
  match RenderOptions.ofWords? words with
  | none =>
      IO.eprintln "usage: mapgen render INPUT OUTPUT [OPTIONS]"
      return CommandOutcome.refused.exitCode.toUInt32
  | some options =>
      let text ← disk.readText options.input
      let (outcome, workplace?) ← options.carryOut disk
      printLines outcome
      match workplace? with
      | some workplace =>
          if options.watch && outcome.exitCode == 0 then
            IO.println "WATCH:READY"
            (← IO.getStdout).flush
            watch workplace text
      | none => pure ()
      return outcome.exitCode.toUInt32

end Program
end Landform

/-- The program. -/
def main (words : List String) : IO UInt32 :=
  Landform.Program.run words
