import Landform.Json.Reader
import Landform.Material.Table

namespace Landform

/-!
The interchange form of the material tables.  A usual texture may be left out, and so may
every list; names, colours and entries may not.
-/

/-- Whole numbers of eight bits without sign. -/
def Json.Shape.byte : Json.Shape :=
  .integer Number.nat8 "u8"

/-- Whole numbers of 32 bits without sign. -/
def Json.Shape.natural : Json.Shape :=
  .integer Number.nat32 "u32"

/-- Whole numbers of 32 bits with sign. -/
def Json.Shape.number : Json.Shape :=
  .integer Number.int32 "i32"

namespace Material

/-- The shape of a material. -/
def shape : Json.Shape :=
  .record "struct Material"
    (.cons "name" none .text (.cons "textureOverlay" (some (.text "")) .text .nil))

/-- A material's interchange form. -/
def toJson (material : Material) : Json :=
  .object [("name", .text material.name), ("textureOverlay", .text material.overlay)]

/-- The material of a full form. -/
def ofJson (value : Json) : Material :=
  ⟨value.textAt "name", value.textAt "textureOverlay"⟩

end Material

namespace MaterialTable

/-- The shape of a material table. -/
def shape : Json.Shape :=
  .record "struct MaterialMap"
    (.cons "materials" (some (.list [])) (.list Material.shape) .nil)

/-- A material table's interchange form. -/
def toJson (table : MaterialTable) : Json :=
  .object [("materials", .list (table.materials.map Material.toJson))]

/-- The material table of a full form. -/
def ofJson (value : Json) : MaterialTable :=
  ⟨(((value.member? "materials").map Json.items).getD []).map Material.ofJson⟩

/-- The material table a text holds. -/
def ofText (s : String) : Except Json.ReadFault MaterialTable :=
  (shape.ofText s).map ofJson

/-- The material table a value holds. -/
def ofValue (value : Json) : Except Json.ReadFault MaterialTable :=
  (shape.ofValue value).map ofJson

end MaterialTable

namespace Texture

/-- The shape of a texture. -/
def shape : Json.Shape :=
  .record "struct Texture"
    (.cons "name" none .text (.cons "averageColor" none .natural .nil))

/-- A texture's interchange form. -/
def toJson (texture : Texture) : Json :=
  .object [("name", .text texture.name), ("averageColor", .whole texture.averageColor)]

/-- The texture of a full form. -/
def ofJson (value : Json) : Texture :=
  ⟨value.textAt "name", ((value.wholeAt? "averageColor").getD 0).toNat⟩

end Texture

namespace IndexEntry

/-- The shape of an entry. -/
def shape : Json.Shape :=
  .record "struct TexMapEntry"
    (.cons "index" none .byte
      (.cons "material" none .text (.cons "texture" none .text .nil)))

/-- An entry's interchange form. -/
def toJson (entry : IndexEntry) : Json :=
  .object
    [("index", .whole entry.index.toNat), ("material", .text entry.material),
      ("texture", .text entry.texture)]

/-- The entry of a full form. -/
def ofJson (value : Json) : IndexEntry :=
  ⟨((value.wholeAt? "index").getD 0).toNat.toUInt8, value.textAt "material",
    value.textAt "texture"⟩

end IndexEntry

namespace TextureTable

/-- The shape of a texture table. -/
def shape : Json.Shape :=
  .record "struct TextureMap"
    (.cons "textures" (some (.list [])) (.list Texture.shape)
      (.cons "entries" (some (.list [])) (.list IndexEntry.shape) .nil))

/-- A texture table's interchange form. -/
def toJson (table : TextureTable) : Json :=
  .object
    [("textures", .list (table.textures.map Texture.toJson)),
      ("entries", .list (table.entries.map IndexEntry.toJson))]

/-- The texture table of a full form. -/
def ofJson (value : Json) : TextureTable :=
  ⟨(((value.member? "textures").map Json.items).getD []).map Texture.ofJson,
    (((value.member? "entries").map Json.items).getD []).map IndexEntry.ofJson⟩

/-- The texture table a text holds. -/
def ofText (s : String) : Except Json.ReadFault TextureTable :=
  (shape.ofText s).map ofJson

/-- The texture table a value holds. -/
def ofValue (value : Json) : Except Json.ReadFault TextureTable :=
  (shape.ofValue value).map ofJson

end TextureTable

end Landform
