import Landform.Disk.Access

namespace Landform

/-!
Saving pictures.  A file is begun before its picture is looked at: a format that refuses
the picture leaves an empty file behind, while an unknown format leaves none.
-/

namespace Picture

/-- The fault of a picture that cannot be saved. -/
def notSaved (path reason : String) : Fault where
  code := "RASTER_SAVE"
  message := "Failed to save '" ++ path ++ "': " ++ reason

/-- The fault of a picture without pixels. -/
def nothingToSave (path : String) : Fault where
  code := "RASTER_SAVE"
  message := "Cannot save empty raster to '" ++ path ++ "'"

/-- What a file of a format holds once a picture is put into it, refused pictures included. -/
def content (picture : Picture) (format : PictureFormat) : FileContent :=
  match format.refusal? picture.width picture.height with
  | none => .picture format picture
  | some _ => .bytes ByteArray.empty

/-- Saves a picture. -/
def save {m : Type -> Type} [Monad m] (disk : DiskAccess m) (path : String)
    (picture : Picture) : ExceptT Fault m Unit := do
  if picture.isEmpty then throw (nothingToSave path)
  match PictureFormat.ofPath path with
  | .error fault => throw (notSaved path fault.message)
  | .ok format =>
      match ← disk.write path (picture.content format) with
      | .error fault => throw (notSaved path fault.message)
      | .ok () =>
          match format.refusal? picture.width picture.height with
          | some fault => throw (notSaved path fault.message)
          | none => return ()

end Picture

end Landform
