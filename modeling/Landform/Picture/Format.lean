import Landform.Disk.Path
import Landform.Picture
import Landform.Text.Ascii
import Landform.Text.Quoted

namespace Landform

/-!
The formats of picture files.  The extension of a file tells its format, whatever the case
of its letters.  Not every known format can hold a map: some are only known by name, some
hold other colours than pictures have, and some hold pictures of bounded sides only.
-/

/-- The formats that are told apart. -/
inductive PictureFormat where
  | png
  | bmp
  | gif
  | ico
  | tga
  | tiff
  | qoi
  | webp
  | pixmap
  | arbitraryMap
  | graymap
  | bitmap
  | jpeg
  | avif
  | dds
  | hdr
  | openExr
  | farbfeld
  deriving DecidableEq, Inhabited

/-- Why a picture cannot be put into a file. -/
inductive PictureFault where
  | noExtension
  | unknownExtension (extension : String)
  | unsupportedFormat (name : String)
  | unsupportedColors (name : String)
  | unwritableColors (name : String)
  | wrongSides
  | malformed (message : String)

namespace PictureFault

/-- The wording of a fault. -/
def message : PictureFault -> String
  | .noExtension => "The image format could not be determined"
  | .unknownExtension extension =>
      "The file extension `." ++ Text.quoted extension ++
        "` was not recognized as an image format"
  | .unsupportedFormat name => "The image format `" ++ name ++ "` is not supported"
  | .unsupportedColors name =>
      "The decoder for " ++ name ++ " does not support the color type `Rgb8`"
  | .unwritableColors name =>
      "Format error encoding " ++ name ++ ":\nwriting color type Rgb8 not yet supported"
  | .wrongSides => "The Image's dimensions are either too small or too large"
  | .malformed message => "The parameter is malformed: " ++ message

end PictureFault

namespace PictureFormat

/-- The format of an extension. -/
def ofExtension? (extension : String) : Option PictureFormat :=
  match Text.asciiLower extension with
  | "png" => some .png
  | "bmp" => some .bmp
  | "gif" => some .gif
  | "ico" => some .ico
  | "tga" => some .tga
  | "tif" | "tiff" => some .tiff
  | "qoi" => some .qoi
  | "webp" => some .webp
  | "ppm" => some .pixmap
  | "pam" => some .arbitraryMap
  | "pgm" => some .graymap
  | "pbm" => some .bitmap
  | "jpg" | "jpeg" => some .jpeg
  | "avif" => some .avif
  | "dds" => some .dds
  | "hdr" => some .hdr
  | "exr" => some .openExr
  | "ff" | "farbfeld" => some .farbfeld
  | _ => none

/-- The format a file has by its name. -/
def ofPath (path : String) : Except PictureFault PictureFormat :=
  match Path.extension? path with
  | none => .error .noExtension
  | some extension =>
      match ofExtension? extension with
      | some format => .ok format
      | none => .error (.unknownExtension extension)

/-- The largest sides of a picture in icons. -/
def largestIconSide : Nat := 256

/-- The refusal of a side that icons cannot have. -/
def iconSide (side : String) (length : Nat) : PictureFault :=
  .malformed
    ("the image " ++ side ++ " must be `1..=256`, instead " ++ side ++ " " ++ toString length ++
      " was provided")

/-- Why a picture of the given sides cannot be put into a file of a format. -/
def refusal? (format : PictureFormat) (width height : Nat) : Option PictureFault :=
  match format with
  | .png | .bmp | .tga | .tiff | .qoi | .pixmap | .arbitraryMap => none
  | .gif => if width > 65535 || height > 65535 then some .wrongSides else none
  | .webp => if width > 16384 || height > 16384 then some .wrongSides else none
  | .ico =>
      if width > largestIconSide then some (iconSide "width" width)
      else if height > largestIconSide then some (iconSide "height" height)
      else none
  | .graymap | .bitmap =>
      some (.malformed "Color type can not be represented in the chosen format")
  | .jpeg => some (.unsupportedFormat "Jpeg")
  | .avif => some (.unsupportedFormat "Avif")
  | .dds => some (.unsupportedFormat "Dds")
  | .hdr => some (.unsupportedFormat "Hdr")
  | .openExr => some (.unwritableColors "OpenExr")
  | .farbfeld => some (.unsupportedColors "Farbfeld")

end PictureFormat

end Landform
