import Landform.Archive.Wildcard
import Landform.Fault
import Landform.SortedMap
import Landform.Text.Ascii

namespace Landform

/-!
Archives: named text entries in the order of their names.  Entries are found by wildcard
patterns and read by name; a name is read up to the case of ASCII letters, and of several
entries that differ in case only the first is read.
-/

/-- An entry of an archive: its text, or why it cannot be read. -/
structure ArchiveEntry where
  name : String
  content : Except Fault String

/-- Entries in the order of their names. -/
structure Archive where
  name : String
  entries : List ArchiveEntry

namespace Archive

/-- The fault of reading a name that no entry has. -/
def missingEntry (name : String) : Fault where
  code := "ARCHIVE_ENTRY_MISSING"
  message := "Failed to load '" ++ name ++ "': No such file"

/-- The archive of the given texts; a later text of a name replaces an earlier one. -/
def ofTexts (name : String) (texts : List (String × String)) : Archive where
  name := name
  entries := (SortedMap.ofList texts).entries.map fun entry => ⟨entry.1, .ok entry.2⟩

/-- The names that a pattern covers. -/
def find (archive : Archive) (pattern : String) : List String :=
  (archive.entries.map ArchiveEntry.name).filter (Wildcard.ofText pattern).covers

/-- The entry that a name reads. -/
def entry? (archive : Archive) (name : String) : Option ArchiveEntry :=
  archive.entries.find? fun entry => Text.sameName entry.name name

/-- The text of the entry that a name reads. -/
def read (archive : Archive) (name : String) : Except Fault String :=
  match archive.entry? name with
  | some entry => entry.content
  | none => .error (missingEntry name)

end Archive

end Landform
