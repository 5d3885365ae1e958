import Landform.Disk.FileTree

namespace Landform

/-!
What a run needs of the disk.  The same run can be carried out on real files and on a tree
of files, and everything proved about it on trees speaks about its logic, not about a
particular disk.
-/

/-- The operations of a disk. -/
structure DiskAccess (m : Type -> Type) where
  isFile : String -> m Bool
  readText : String -> m (Except DiskFault String)
  openArchive : String -> m (Except Fault Archive)
  write : String -> FileContent -> m (Except DiskFault Unit)

/-- The operations on a tree of files. -/
def FileTree.access : DiskAccess (StateM FileTree) where
  isFile := fun path => do return (← get).isFile path
  readText := fun path => do return (← get).readText path
  openArchive := fun path => do return (← get).openArchive path
  write := fun path content => do
    match (← get).write path content with
    | .ok tree => do
        set tree
        return .ok ()
    | .error fault => return .error fault

end Landform
