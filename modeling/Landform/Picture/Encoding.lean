import Landform.Picture.Bytes
import Landform.Picture.Format

namespace Landform
namespace Picture

/-!
The bytes of picture files.  The colours are stored as they are; where a format can pack
them, the plainest packing is used, so that every file shows exactly its picture.
-/

/-- The bytes of a picture's colours in the order red, green, blue. -/
def colorBytes (picture : Picture) : ByteArray :=
  picture.colors.foldl (fun bytes c => ((bytes.push c.red).push c.green).push c.blue)
    ByteArray.empty

/-- The bytes of a row of colours in the order blue, green, red. -/
def reversedBytes (row : Array Color) : ByteArray :=
  row.foldl (fun bytes c => ((bytes.push c.blue).push c.green).push c.red) ByteArray.empty

/-! ## Portable network graphics -/

/-- Some bytes as blocks of stored bytes, each of a bounded length. -/
def storedBlocks (bytes : ByteArray) : ByteArray :=
  let count := (bytes.size + 65534) / 65535
  (List.range count).foldl
    (fun blocks i =>
      let block := bytes.extract (i * 65535) ((i + 1) * 65535)
      let last : Nat := if i + 1 = count then 1 else 0
      blocks ++
        bytesOf (last.toUInt8 :: lowFirst 2 block.size ++ lowFirst 2 (65535 - block.size)) ++ block)
    ByteArray.empty

/-- A chunk of a network graphic. -/
def chunk (name : String) (content : ByteArray) : ByteArray :=
  let body := bytesOf (asciiBytes name) ++ content
  bytesOf (highFirst 4 content.size) ++ body ++ bytesOf (highFirst 4 (cyclicSum body).toNat)

/-- The rows of a picture, each behind the mark of a row that is stored as it is. -/
def markedRows (picture : Picture) : ByteArray :=
  picture.rows.foldl
    (fun bytes row =>
      row.foldl (fun bytes c => ((bytes.push c.red).push c.green).push c.blue) (bytes.push 0))
    ByteArray.empty

/-- A portable network graphic. -/
def networkGraphic (picture : Picture) : ByteArray :=
  let rows := picture.markedRows
  bytesOf [137, 80, 78, 71, 13, 10, 26, 10] ++
    chunk "IHDR"
      (bytesOf (highFirst 4 picture.width ++ highFirst 4 picture.height ++ [8, 2, 0, 0, 0])) ++
    chunk "IDAT"
      (bytesOf [120, 1] ++ storedBlocks rows ++ bytesOf (highFirst 4 (runningSum rows))) ++
    chunk "IEND" ByteArray.empty

/-- An icon that holds one network graphic; a side of 256 is written as zero. -/
def icon (picture : Picture) : ByteArray :=
  let graphic := picture.networkGraphic
  bytesOf
      ([0, 0, 1, 0, 1, 0, picture.width.toUInt8, picture.height.toUInt8, 0, 0, 0, 0, 24, 0] ++
        lowFirst 4 graphic.size ++ lowFirst 4 22) ++ graphic

/-! ## Formats of plain rows -/

/-- A device independent bitmap: rows from the bottom, each filled up to whole words. -/
def deviceBitmap (picture : Picture) : ByteArray :=
  let padding := ByteArray.mk (Array.replicate ((4 - picture.width * 3 % 4) % 4) 0)
  let rows :=
    picture.rows.reverse.foldl (fun bytes row => bytes ++ reversedBytes row ++ padding)
      ByteArray.empty
  bytesOf
      (asciiBytes "BM" ++ lowFirst 4 (54 + rows.size) ++ lowFirst 4 0 ++ lowFirst 4 54 ++
        lowFirst 4 40 ++ lowFirst 4 picture.width ++ lowFirst 4 picture.height ++ lowFirst 2 1 ++
        lowFirst 2 24 ++ lowFirst 4 0 ++ lowFirst 4 rows.size ++ lowFirst 4 0 ++ lowFirst 4 0 ++
        lowFirst 4 0 ++ lowFirst 4 0) ++ rows

/-- A raster graphic of unpacked true colours, from the top. -/
def rasterGraphic (picture : Picture) : ByteArray :=
  bytesOf
      ([0, 0, 2, 0, 0, 0, 0, 0, 0, 0, 0, 0] ++ lowFirst 2 picture.width ++
        lowFirst 2 picture.height ++ [24, 32]) ++ reversedBytes picture.colors

/-- A portable pixmap. -/
def pixmapFile (picture : Picture) : ByteArray :=
  (s!"P6\n{picture.width} {picture.height}\n255\n").toUTF8 ++ picture.colorBytes

/-- A portable map of any kind, here of red, green and blue. -/
def arbitraryMapFile (picture : Picture) : ByteArray :=
  (s!"P7\nWIDTH {picture.width}\nHEIGHT {picture.height}\nDEPTH 3\nMAXVAL 255\n" ++
      "TUPLTYPE RGB\nENDHDR\n").toUTF8 ++ picture.colorBytes

/-- A picture of whole colours in the quite simple format. -/
def simplePicture (picture : Picture) : ByteArray :=
  bytesOf
      (asciiBytes "qoif" ++ highFirst 4 picture.width ++ highFirst 4 picture.height ++ [3, 0]) ++
    picture.colors.foldl
      (fun bytes c => (((bytes.push 254).push c.red).push c.green).push c.blue)
      ByteArray.empty ++
    bytesOf [0, 0, 0, 0, 0, 0, 0, 1]

/-- A field of a tagged file: its tag, its kind, how many values, and the value. -/
def taggedField (tag kind count value : Nat) : List UInt8 :=
  lowFirst 2 tag ++ lowFirst 2 kind ++ lowFirst 4 count ++ lowFirst 4 value

/-- A tagged file with one strip of unpacked colours. -/
def taggedFile (picture : Picture) : ByteArray :=
  let fields :=
    [taggedField 256 4 1 picture.width, taggedField 257 4 1 picture.height,
      taggedField 258 3 3 134, taggedField 259 3 1 1, taggedField 262 3 1 2,
      taggedField 273 4 1 140, taggedField 277 3 1 3, taggedField 278 4 1 picture.height,
      taggedField 279 4 1 (picture.width * picture.height * 3), taggedField 284 3 1 1]
  bytesOf
      (asciiBytes "II" ++ lowFirst 2 42 ++ lowFirst 4 8 ++ lowFirst 2 10 ++ fields.flatten ++
        lowFirst 4 0 ++ lowFirst 2 8 ++ lowFirst 2 8 ++ lowFirst 2 8) ++ picture.colorBytes

/-! ## Formats of codes -/

/-- The different colours of a picture. -/
def differentColors (picture : Picture) : Array Color :=
  picture.colors.foldl (fun seen c => if seen.contains c then seen else seen.push c) #[]

/-- The codes of a picture's pixels; the dictionary is cleared before its codes grow. -/
def pixelCodes (picture : Picture) (colors : Array Color) : List BitField :=
  picture.colors.toList.zipIdx.flatMap fun (c, i) =>
    let code : BitField := ⟨9, (colors.idxOf? c).getD 0⟩
    if i % 250 = 0 then [⟨9, 256⟩, code] else [code]

/-- Some bytes as blocks behind their lengths, closed by an empty block. -/
def shortBlocks (bytes : ByteArray) : ByteArray :=
  (List.range ((bytes.size + 254) / 255)).foldl
    (fun blocks i =>
      let block := bytes.extract (i * 255) ((i + 1) * 255)
      blocks.push block.size.toUInt8 ++ block)
    ByteArray.empty |>.push 0

/-- A file for interchange of pictures of at most 256 colours. -/
def interchangeFile (picture : Picture) : ByteArray :=
  let colors := picture.differentColors
  let table := (colors.toList.flatMap fun c => [c.red, c.green, c.blue]).take 768
  bytesOf
      (asciiBytes "GIF89a" ++ lowFirst 2 picture.width ++ lowFirst 2 picture.height ++
        [247, 0, 0] ++ table ++ List.replicate (768 - table.length) 0 ++ [44, 0, 0, 0, 0] ++
        lowFirst 2 picture.width ++ lowFirst 2 picture.height ++ [0, 8]) ++
    shortBlocks (packed (picture.pixelCodes colors ++ [⟨9, 257⟩])) ++ bytesOf [59]

/-- A code of 256 symbols of eight bits each. -/
def evenCode : List BitField :=
  [⟨1, 0⟩, ⟨4, 8⟩] ++ List.replicate 11 ⟨3, 0⟩ ++ [⟨3, 1⟩, ⟨1, 1⟩, ⟨3, 3⟩, ⟨8, 254⟩]

/-- The fields of a picture without packing: how it is coded, and its pixels. -/
def webFields (picture : Picture) : List BitField :=
  [⟨8, 47⟩, ⟨14, picture.width - 1⟩, ⟨14, picture.height - 1⟩, ⟨1, 0⟩, ⟨3, 0⟩, ⟨1, 0⟩, ⟨1, 0⟩,
      ⟨1, 0⟩] ++
    evenCode ++ evenCode ++ evenCode ++ [⟨1, 1⟩, ⟨1, 0⟩, ⟨1, 1⟩, ⟨8, 255⟩] ++
    [⟨1, 1⟩, ⟨1, 0⟩, ⟨1, 0⟩, ⟨1, 0⟩] ++
    picture.colors.toList.flatMap fun c =>
      [⟨8, mirrored c.green.toNat⟩, ⟨8, mirrored c.red.toNat⟩, ⟨8, mirrored c.blue.toNat⟩]

/-- A picture for the web that loses nothing. -/
def webPicture (picture : Picture) : ByteArray :=
  let content := packed picture.webFields
  let even := if content.size % 2 = 0 then content else content.push 0
  bytesOf (asciiBytes "RIFF" ++ lowFirst 4 (even.size + 12) ++ asciiBytes "WEBPVP8L" ++
    lowFirst 4 content.size) ++ even

/-- The bytes of a picture's file; a format that holds no such picture has none. -/
def encode (picture : Picture) : PictureFormat -> ByteArray
  | .png => picture.networkGraphic
  | .bmp => picture.deviceBitmap
  | .gif => picture.interchangeFile
  | .ico => picture.icon
  | .tga => picture.rasterGraphic
  | .tiff => picture.taggedFile
  | .qoi => picture.simplePicture
  | .webp => picture.webPicture
  | .pixmap => picture.pixmapFile
  | .arbitraryMap => picture.arbitraryMapFile
  | .graymap | .bitmap | .jpeg | .avif | .dds | .hdr | .openExr | .farbfeld => ByteArray.empty

end Picture
end Landform
