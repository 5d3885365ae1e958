import Landform.Fault
import Landform.Text.Ascii

namespace Landform

/-!
The tables that give material indexes a meaning: the materials with the texture each of
them usually shows, the textures with their average colours, and the entries that tie an
index to a material and a texture.  Names are compared up to the case of ASCII letters.
-/

/-- A material and the texture it shows when a description names no texture; may be empty. -/
structure Material where
  name : String
  overlay : String
  deriving DecidableEq, Inhabited

/-- Materials in the order they were first added. -/
structure MaterialTable where
  materials : List Material := []
  deriving DecidableEq, Inhabited

/-- A texture and its average colour, packed as red, green and blue bytes. -/
structure Texture where
  name : String
  averageColor : Nat
  deriving DecidableEq, Inhabited

/-- What an index stands for. -/
structure IndexEntry where
  index : UInt8
  material : String
  texture : String
  deriving DecidableEq, Inhabited

/-- Textures, and the meaning of the indexes. -/
structure TextureTable where
  textures : List Texture := []
  entries : List IndexEntry := []
  deriving DecidableEq, Inhabited

/-- An entry for the index that belongs to the sky. -/
structure SkyIndexReserved where
  material : String
  texture : String

/-- The refusal as a fault. -/
def SkyIndexReserved.fault (refusal : SkyIndexReserved) : Fault where
  code := "TEXMAP_INDEX_RESERVED"
  message :=
    "Index 0 is reserved for sky, cannot map \"" ++ refusal.material ++ "-" ++
      refusal.texture ++ "\"."

/--
Replaces the first element that satisfies a test, or adds the new element at the end
when none does.
-/
def replaceOrAdd {α : Type u} (test : α -> Bool) (new : α) : List α -> List α
  | [] => [new]
  | old :: rest => if test old then new :: rest else old :: replaceOrAdd test new rest

namespace MaterialTable

/-- Adds a material; one of the same name gives up its place to it. -/
def add (table : MaterialTable) (name overlay : String) : MaterialTable :=
  ⟨replaceOrAdd (fun old => Text.sameName old.name name) ⟨name, overlay⟩ table.materials⟩

/-- The material of a name. -/
def find? (table : MaterialTable) (name : String) : Option Material :=
  table.materials.find? fun material => Text.sameName material.name name

/-- The material at a position of the table. -/
def at? (table : MaterialTable) (position : Nat) : Option Material :=
  table.materials[position]?

/-- The number of materials. -/
def size (table : MaterialTable) : Nat :=
  table.materials.length

/-- Whether the table holds no material. -/
def isEmpty (table : MaterialTable) : Bool :=
  table.materials.isEmpty

end MaterialTable

namespace TextureTable

/-- The texture of a name. -/
def texture? (table : TextureTable) (name : String) : Option Texture :=
  table.textures.find? fun texture => Text.sameName texture.name name

/-- Adds a texture unless its name is known already; says whether it was added. -/
def addTexture (table : TextureTable) (name : String) (averageColor : Nat) :
    TextureTable × Bool :=
  if (table.texture? name).isSome then (table, false)
  else ({ table with textures := table.textures ++ [⟨name, averageColor⟩] }, true)

/-- Gives an index its meaning, replacing an earlier one; index 0 is refused. -/
def addEntry (table : TextureTable) (index : UInt8) (material texture : String) :
    Except SkyIndexReserved TextureTable :=
  if index = 0 then .error ⟨material, texture⟩
  else
    .ok { table with
      entries :=
        replaceOrAdd (fun old => old.index == index) ⟨index, material, texture⟩ table.entries }

/-- The meaning of an index. -/
def entry? (table : TextureTable) (index : UInt8) : Option IndexEntry :=
  table.entries.find? fun entry => entry.index == index

end TextureTable

end Landform
