import Landform.Material.Resolver

namespace Landform

/-!
The colours in which rasters are shown.  An index shows the average colour of the texture
its entry names; a texture may list several names joined by `-`, of which the first is
shown.  If there is no such texture, the usual texture of the entry's material is shown,
and failing that the sky.
-/

/-- A colour as red, green and blue bytes. -/
structure Color where
  red : UInt8
  green : UInt8
  blue : UInt8
  deriving DecidableEq, Inhabited

namespace Color

/-- The colour of the sky. -/
def sky : Color :=
  ⟨100, 100, 255⟩

/-- Unpacks a colour; the bytes above the lowest three are ignored. -/
def ofPacked (packed : Nat) : Color :=
  ⟨(packed / 65536).toUInt8, (packed / 256).toUInt8, packed.toUInt8⟩

end Color

/-- A colour for every index. -/
structure Palette where
  color : UInt8 -> Color

namespace Palette

/-- The texture shown for an entry. -/
def shownTexture? (materials : MaterialTable) (textures : TextureTable)
    (entry : IndexEntry) : Option Texture :=
  let first := ((splitOnce '-' entry.texture).map Prod.fst).getD entry.texture
  match textures.texture? first with
  | some texture => some texture
  | none =>
      match materials.materials.reverse.find? fun material =>
          Text.sameName material.name entry.material with
      | some material => textures.texture? material.overlay
      | none => none

/-- The colours set by the entries, one after another. -/
def colorTable (materials : MaterialTable) (textures : TextureTable) : Array Color :=
  textures.entries.foldl
    (fun colors entry =>
      if entry.index = 0 then colors
      else
        match shownTexture? materials textures entry with
        | some texture =>
            colors.setIfInBounds entry.index.toNat (Color.ofPacked texture.averageColor)
        | none => colors)
    (Array.replicate 256 Color.sky)

/-- The palette of the given tables. -/
def ofTables (materials : MaterialTable) (textures : TextureTable) : Palette :=
  let colors := colorTable materials textures
  ⟨fun index => (colors[index.toNat]?).getD Color.sky⟩

end Palette

end Landform
