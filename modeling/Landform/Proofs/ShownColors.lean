import Landform.Proofs.FailedCommands
import Landform.Proofs.SoundTables
import Mathlib.Data.List.TakeWhile

namespace Landform

/-!
# The colours in which maps are shown

Three tables are asked for the colour of an index, and each keeps what is added in its own way.  Of
the entries for an index and of the materials of a name the last one counts, but of the textures of
a name the first.  Names are compared up to case everywhere, whatever letters were given.

The texture of an entry may list several names, of which the first is shown.  If there is no such
texture, the usual one of the material is shown instead, and the sky if that is missing too
(`Shows`).  A palette is made by setting colours entry after entry, but nothing of that order is
left in it: it is the same for any additions that agree for every index and every name
(`palette_eq`), and a picture has in every place the colour of the cell there.
-/

/-! ## Names before a dash -/

/-- What stands before the first dash of a text, or the whole text. -/
def beforeDash (s : String) : String :=
  String.ofList (s.toList.takeWhile fun c => c != '-')

theorem splitOnce_beforeDash (s : String) :
    ((splitOnce '-' s).map Prod.fst).getD s = beforeDash s := by
  by_cases dashed : '-' ∈ s.toList
  · obtain ⟨front, back, cut, free⟩ := exists_of_mem dashed
    have kept : ∀ c ∈ front.toList, (c != '-') = true := fun c member =>
      bne_iff_ne.mpr fun same => free (same ▸ member)
    rw [cut, splitOnce_append free, Option.map_some, Option.getD_some, beforeDash,
      String.toList_append, String.toList_append, List.append_assoc,
      List.takeWhile_append_of_pos kept]
    exact (String.ofList_toList.symm.trans
      (congrArg String.ofList (List.append_nil front.toList).symm))
  · have kept : ∀ c ∈ s.toList, (c != '-') = true := fun c member =>
      bne_iff_ne.mpr fun same => dashed (same ▸ member)
    rw [splitOnce_of_not_mem dashed, Option.map_none, Option.getD_none, beforeDash,
      List.takeWhile_eq_self_iff.mpr kept, String.ofList_toList]

theorem beforeDash_asciiLower (s : String) :
    beforeDash (Text.asciiLower s) = Text.asciiLower (beforeDash s) := by
  have same : (fun c : Char => c != '-') ∘ Char.toLower = fun c => c != '-' := by
    funext c
    rw [Bool.eq_iff_iff, Function.comp_apply, bne_iff_ne, bne_iff_ne, ne_eq,
      Text.toLower_eq_iff (by decide)]
  simp only [beforeDash, Text.asciiLower, String.toList_ofList, List.takeWhile_map, same]

/-! ## What is looked up -/

/-- The element of a key is the last one that was added for it. -/
theorem find?_filled {α : Type u} {κ : Type v} [DecidableEq κ] {key : α -> κ} (items : List α)
    (k : κ) :
    (filled key items).find? (fun item => key item == k) =
      (items.filter fun item => key item == k).getLast? := by
  apply Option.ext
  intro item
  rw [find?_eq_some_iff_of_nodup (filled_nodup items), mem_filled]
  constructor
  · rintro ⟨last, rfl⟩
    exact last
  · intro last
    have here := beq_iff_eq.mp (List.mem_filter.mp (List.mem_of_getLast? last)).2
    exact ⟨here ▸ last, here⟩

/-- What textures go by: their names up to case. -/
def Texture.key (texture : Texture) : String :=
  Text.asciiLower texture.name

namespace TableAddition

/-- The texture that an addition is about. -/
def texture? : TableAddition -> Option Texture
  | .texture name averageColor => some ⟨name, averageColor⟩
  | _ => none

/-- What was added for a texture, in turn. -/
def texturesNamed (name : String) (additions : List TableAddition) : List Texture :=
  (additions.filterMap texture?).filter fun texture => texture.key == Text.asciiLower name

end TableAddition

/-- What a name stood for before a texture was added, it stands for afterwards. -/
theorem TextureTable.texture?_addTexture (textures : TextureTable) (new : Texture)
    (name : String) :
    (textures.addTexture new.name new.averageColor).1.texture? name =
      (textures.texture? name).or
        (if new.key == Text.asciiLower name then some new else none) := by
  unfold addTexture
  by_cases known : (textures.texture? new.name).isSome = true
  · rw [if_pos known]
    by_cases same : (new.key == Text.asciiLower name) = true
    · have lower : Text.asciiLower new.name = Text.asciiLower name := beq_iff_eq.mp same
      have found : textures.texture? name = textures.texture? new.name := by
        simp only [texture?, Text.sameName, lower]
      rw [found, Option.or_of_isSome known]
    · rw [if_neg same, Option.or_none]
  · rw [if_neg known]
    simp only [texture?, List.find?_append, List.find?_singleton]
    rfl

namespace MaterialTables

/-- Whatever is looked up in tables is told from the additions. -/
structure Keeps (tables : MaterialTables) (additions : List TableAddition) : Prop where
  /-- An index stands for what was added for it last. -/
  entry : ∀ index,
    tables.textures.entry? index = (TableAddition.entriesFor index additions).getLast?
  /-- A name stands for the material that was added last under it. -/
  material : ∀ name,
    tables.materials.find? name = (TableAddition.materialsNamed name additions).getLast?
  /-- A name stands for the texture that was added first under it. -/
  texture : ∀ name,
    tables.textures.texture? name = (TableAddition.texturesNamed name additions).head?

theorem texture?_of (additions : List TableAddition) (name : String) :
    (of additions).textures.texture? name = (TableAddition.texturesNamed name additions).head? := by
  induction additions using List.reverseRecOn with
  | nil => rfl
  | append_singleton additions last inductionHypothesis =>
      rw [of_concat, TableAddition.texturesNamed, List.filterMap_append, List.filter_append,
        List.head?_append, ← TableAddition.texturesNamed, ← inductionHypothesis]
      cases last with
      | material name overlay => exact (Option.or_none).symm
      | texture other averageColor =>
          refine ((of additions).textures.texture?_addTexture ⟨other, averageColor⟩ name).trans ?_
          simp only [TableAddition.texture?, List.filterMap_cons, List.filterMap_nil,
            List.filter_singleton]
          cases Texture.key ⟨other, averageColor⟩ == Text.asciiLower name <;> rfl
      | entry index material texture =>
          refine Eq.trans ?_ (Option.or_none).symm
          simp only [add, TextureTable.addEntry]
          split
          · rename_i added
            split at added <;> cases added
            rfl
          · rfl

theorem keeps_of (additions : List TableAddition) : (of additions).Keeps additions where
  entry index := by
    unfold TextureTable.entry?
    rw [entries_of, find?_filled]
    rfl
  material name := by
    show (of additions).materials.materials.find?
      (fun material => material.key == Text.asciiLower name) = _
    rw [materials_of, find?_filled]
    rfl
  texture := texture?_of additions

end MaterialTables

/-! ## The colour of an index -/

/-- The average colour of the texture of a name. -/
def TextureTable.colorNamed? (textures : TextureTable) (name : String) : Option Color :=
  (textures.texture? name).map fun texture => Color.ofPacked texture.averageColor

namespace MaterialTables

/-- The palette of the tables. -/
def palette (tables : MaterialTables) : Palette :=
  .ofTables tables.materials tables.textures

/-- The average colour of the usual texture of a material. -/
def usualColor? (tables : MaterialTables) (name : String) : Option Color :=
  (tables.materials.find? name).bind fun material =>
    tables.textures.colorNamed? material.overlay

/-- An entry has the colour of the first texture it names, or else of the usual one. -/
theorem entryColor?_of (additions : List TableAddition) (entry : IndexEntry) :
    Palette.entryColor? (of additions).materials (of additions).textures entry =
      ((of additions).textures.colorNamed? (beforeDash entry.texture)).or
        ((of additions).usualColor? entry.material) := by
  have backwards :
      ((of additions).materials.materials.reverse.map Material.key).Nodup := by
    rw [List.map_reverse]
    exact List.nodup_reverse.mpr (names_nodup additions)
  have found : ((of additions).materials.materials.reverse.find? fun material =>
      Text.sameName material.name entry.material) =
        (of additions).materials.find? entry.material :=
    find?_perm (List.reverse_perm _) backwards (Text.asciiLower entry.material)
  simp only [Palette.entryColor?, Palette.shownTexture?, splitOnce_beforeDash, found, usualColor?,
    TextureTable.colorNamed?]
  cases (of additions).textures.texture? (beforeDash entry.texture) with
  | some texture => rfl
  | none => cases (of additions).materials.find? entry.material <;> rfl

theorem color_of (additions : List TableAddition) (index : UInt8) :
    (of additions).palette.color index =
      (Palette.indexColor? (of additions).materials (of additions).textures index).getD Color.sky :=
  Palette.color_eq (TextureTable.isSound_of_additions additions) _ index

theorem color_of_none {additions : List TableAddition} {index : UInt8}
    (free : TextureTable.entry? (of additions).textures index = none) :
    (of additions).palette.color index = Color.sky := by
  rw [color_of, Palette.indexColor?, free]
  rfl

theorem color_of_some {additions : List TableAddition} {index : UInt8} {entry : IndexEntry}
    (found : TextureTable.entry? (of additions).textures index = some entry) :
    (of additions).palette.color index =
      (((of additions).textures.colorNamed? (beforeDash entry.texture)).or
        ((of additions).usualColor? entry.material)).getD Color.sky := by
  rw [color_of, Palette.indexColor?, found, Option.bind_some, entryColor?_of]

end MaterialTables

/-- A palette has for every index the colour that the tables tell. -/
structure Palette.Shows (palette : Palette) (tables : MaterialTables) : Prop where
  sky : palette.color 0 = Color.sky
  unmapped : ∀ index, tables.textures.entry? index = none -> palette.color index = Color.sky
  /-- The first texture that an entry names is shown. -/
  named : ∀ index entry texture, tables.textures.entry? index = some entry ->
    tables.textures.texture? (beforeDash entry.texture) = some texture ->
    palette.color index = Color.ofPacked texture.averageColor
  /-- If there is no such texture, the usual one of the material is shown. -/
  usual : ∀ index entry material texture, tables.textures.entry? index = some entry ->
    tables.textures.texture? (beforeDash entry.texture) = none ->
    tables.materials.find? entry.material = some material ->
    tables.textures.texture? material.overlay = some texture ->
    palette.color index = Color.ofPacked texture.averageColor
  /-- If that is missing too, the sky is shown. -/
  unknown : ∀ index entry, tables.textures.entry? index = some entry ->
    tables.textures.texture? (beforeDash entry.texture) = none ->
    (∀ material, tables.materials.find? entry.material = some material ->
      tables.textures.texture? material.overlay = none) ->
    palette.color index = Color.sky

theorem MaterialTables.palette_shows (additions : List TableAddition) :
    (of additions).palette.Shows (of additions) where
  sky := by
    have sound := TextureTable.isSound_of_additions additions
    have free : TextureTable.entry? (of additions).textures 0 = none := by
      cases found : TextureTable.entry? (of additions).textures 0 with
      | none => rfl
      | some entry =>
          obtain ⟨member, same⟩ := (sound.entry?_eq_some_iff 0 entry).mp found
          exact absurd (same ▸ List.mem_map_of_mem member) sound.noSky
    exact color_of_none free
  unmapped _ free := color_of_none free
  named _ _ _ found named := by
    rw [color_of_some found, TextureTable.colorNamed?, named]
    rfl
  usual _ _ _ _ found unnamed known usual := by
    rw [color_of_some found, TextureTable.colorNamed?, unnamed, usualColor?, known,
      Option.bind_some, TextureTable.colorNamed?, usual]
    rfl
  unknown _ entry found unnamed missing := by
    rw [color_of_some found, TextureTable.colorNamed?, unnamed, usualColor?]
    cases known : (of additions).materials.find? entry.material with
    | none => rfl
    | some material =>
        rw [Option.bind_some, TextureTable.colorNamed?, missing material known]
        rfl

/-! ## Additions in another order -/

/-- A texture with its letters in lower case. -/
def Texture.folded (texture : Texture) : Texture :=
  ⟨Text.asciiLower texture.name, texture.averageColor⟩

theorem Texture.key_folded (texture : Texture) : texture.folded.key = texture.key :=
  Text.asciiLower_asciiLower texture.name

/-- Additions that are the same up to case, in the same order, for each index, for each name of a
material and for each name of a texture. -/
structure PaintAlike (first second : List TableAddition) : Prop extends AddAlike first second where
  textures : ∀ name,
    (TableAddition.texturesNamed name first).map Texture.folded =
      (TableAddition.texturesNamed name second).map Texture.folded

/-- Textures of distinct names may be added in any order too. -/
theorem PaintAlike.of_perm {first second : List TableAddition} (alike : AddAlike first second)
    (textures : ((first.filterMap TableAddition.texture?).map Texture.folded).Perm
      ((second.filterMap TableAddition.texture?).map Texture.folded))
    (names : ((first.filterMap TableAddition.texture?).map Texture.key).Nodup) :
    PaintAlike first second where
  toAddAlike := alike
  textures name := map_filter_perm Texture.key_folded textures names (Text.asciiLower name)

theorem TextureTable.colorNamed?_asciiLower (textures : TextureTable) (name : String) :
    textures.colorNamed? (Text.asciiLower name) = textures.colorNamed? name := by
  simp only [colorNamed?, texture?, Text.sameName, Text.asciiLower_asciiLower]

namespace MaterialTables

theorem usualColor?_asciiLower (tables : MaterialTables) (name : String) :
    tables.usualColor? (Text.asciiLower name) = tables.usualColor? name := by
  simp only [usualColor?, MaterialTable.find?, Text.sameName, Text.asciiLower_asciiLower]

/-- The case of the letters of an entry makes no difference to its colour. -/
theorem entryColor?_folded (additions : List TableAddition) (entry : IndexEntry) :
    Palette.entryColor? (of additions).materials (of additions).textures entry.folded =
      Palette.entryColor? (of additions).materials (of additions).textures entry := by
  simp only [entryColor?_of, IndexEntry.folded, beforeDash_asciiLower,
    TextureTable.colorNamed?_asciiLower, usualColor?_asciiLower]

variable {first second : List TableAddition} (alike : PaintAlike first second)

include alike

theorem colorNamed?_eq (name : String) :
    (of first).textures.colorNamed? name = (of second).textures.colorNamed? name := by
  have told (additions : List TableAddition) : (of additions).textures.colorNamed? name =
      (((TableAddition.texturesNamed name additions).map Texture.folded).head?).map
        fun texture => Color.ofPacked texture.averageColor := by
    rw [TextureTable.colorNamed?, texture?_of, List.head?_map, Option.map_map]
    rfl
  rw [told, told, alike.textures]

theorem usualColor?_eq (name : String) :
    (of first).usualColor? name = (of second).usualColor? name := by
  have told (additions : List TableAddition) : (of additions).usualColor? name =
      (((TableAddition.materialsNamed name additions).map Material.folded).getLast?).bind
        fun material => (of additions).textures.colorNamed? material.overlay := by
    rw [usualColor?, (keeps_of additions).material, List.getLast?_map, Option.bind_map]
    refine Option.bind_congr fun material _ => ?_
    exact ((of additions).textures.colorNamed?_asciiLower material.overlay).symm
  simp only [told, alike.materials, colorNamed?_eq alike]

/-- The order of additions for different keys leaves no trace in the palette. -/
theorem palette_eq : (of first).palette = (of second).palette := by
  have shown : Palette.entryColor? (of first).materials (of first).textures =
      Palette.entryColor? (of second).materials (of second).textures := by
    funext entry
    rw [entryColor?_of, entryColor?_of, colorNamed?_eq alike, usualColor?_eq alike]
  have told (additions : List TableAddition) (index : UInt8) :
      (of additions).palette.color index =
        ((((TableAddition.entriesFor index additions).map IndexEntry.folded).getLast?).bind
          (Palette.entryColor? (of additions).materials (of additions).textures)).getD
            Color.sky := by
    rw [color_of, Palette.indexColor?, (keeps_of additions).entry, List.getLast?_map,
      Option.bind_map]
    exact congrArg (fun color => Option.getD color Color.sky)
      (Option.bind_congr fun entry _ => (entryColor?_folded additions entry).symm)
  refine congrArg Palette.mk (funext fun index => ?_)
  refine (told first index).trans (Eq.trans ?_ (told second index).symm)
  rw [alike.entries, shown]

end MaterialTables

/-! ## Pictures -/

namespace Picture

/-- The colour in a column and a row of a picture. -/
def pixel? (picture : Picture) (column row : Nat) : Option Color :=
  picture.rows[row]?.bind fun colors => colors[column]?

/-- A picture shows every cell of a raster, and nothing else. -/
structure Depicts (picture : Picture) (palette : Palette) (raster : Raster) : Prop where
  width : picture.width = raster.width
  height : picture.height = raster.height
  size : picture.colors.size = raster.width * raster.height
  pixel : ∀ column row : Nat,
    picture.pixel? column row = (raster.get? column row).map palette.color

/-- A picture with pixels is saved exactly if it is put into a file as it is. -/
theorem save_eq_ok_iff {picture : Picture} (visible : picture.isEmpty = false) (path : String)
    (before after : FileTree) :
    (save FileTree.access path picture).run.run before = (.ok (), after) ↔
      picture.IsSaved path before after := by
  constructor
  · intro result
    have ends := picture.saves_save path before
    rw [result] at ends
    cases ends with
    | saved saved => exact saved
  · exact save_of_isSaved visible

end Picture

theorem Palette.picture_depicts (palette : Palette) (raster : Raster) :
    (palette.picture raster).Depicts palette raster where
  width := rfl
  height := rfl
  size := (Array.size_map).trans raster.size_cells
  pixel column row := by
    show ((palette.picture raster).rows[row]?.bind fun colors => colors[column]?) = _
    rw [raster.get?_nat]
    simp only [Picture.rows, picture, List.getElem?_map]
    by_cases high : row < raster.height
    · have below : (row + 1) * raster.width ≤ raster.cells.size := by
        rw [raster.size_cells, Nat.mul_comm raster.width]
        exact Nat.mul_le_mul_right _ high
      have length : (row + 1) * raster.width - row * raster.width = raster.width := by
        rw [← Nat.sub_mul, Nat.add_sub_cancel_left, Nat.one_mul]
      rw [List.getElem?_range high, Option.map_some, Option.bind_some, Array.getElem?_extract,
        Array.size_map, Nat.min_eq_left below, length]
      by_cases wide : column < raster.width
      · rw [if_pos wide, if_pos ⟨wide, high⟩, Array.getElem?_map]
      · rw [if_neg wide, if_neg fun both => wide both.1, Option.map_none]
    · rw [if_neg fun both => high both.2, List.getElem?_eq_none (by simpa using high)]
      rfl

namespace MaterialTables

/-- The colours of filled tables are told by what was added for each index and each name, and
pictures are saved in these colours. -/
theorem colors_follow_additions (additions : List TableAddition) :
    (of additions).Keeps additions ∧
      (of additions).palette.Shows (of additions) ∧
      (∀ others, PaintAlike additions others -> (of others).palette = (of additions).palette) ∧
      ∀ raster : Raster, 0 < raster.width -> 0 < raster.height ->
        ((of additions).palette.picture raster).Depicts (of additions).palette raster ∧
        ∀ path before after,
          ((Picture.save FileTree.access path
              ((of additions).palette.picture raster)).run.run before = (.ok (), after) ↔
            ((of additions).palette.picture raster).IsSaved path before after) := by
  refine ⟨keeps_of additions, palette_shows additions, fun others alike => (palette_eq alike).symm,
    fun raster wide high => ⟨Palette.picture_depicts _ raster, ?_⟩⟩
  apply Picture.save_eq_ok_iff
  have noWidth : raster.width ≠ 0 := Nat.ne_of_gt wide
  have noHeight : raster.height ≠ 0 := Nat.ne_of_gt high
  simp only [Palette.picture, Picture.isEmpty, beq_eq_false_iff_ne.mpr noWidth,
    beq_eq_false_iff_ne.mpr noHeight, Bool.or_self]

/-- Water with a texture of two names, earth with its usual one, and sand without any. -/
def waterAndEarth : List TableAddition :=
  [.texture "Water" 0x0000ff, .texture "Earth" 0x8b4513, .material "Soil" "earth",
    .entry 1 "Lake" "water-2", .entry 2 "soil" "rough", .entry 3 "Sand" "rough"]

/-- The same in another order and with other capitals. -/
def earthAndWater : List TableAddition :=
  [.entry 3 "sand" "ROUGH", .entry 2 "Soil" "Rough", .texture "earth" 0x8b4513,
    .entry 1 "lake" "WATER-2", .material "SOIL" "EARTH", .texture "water" 0x0000ff]

theorem colors_follow_waterAndEarth :
    PaintAlike waterAndEarth earthAndWater ∧
      (of earthAndWater).palette = (of waterAndEarth).palette ∧
      (of waterAndEarth).palette.color 0 = Color.sky ∧
      (of waterAndEarth).palette.color 1 = ⟨0, 0, 255⟩ ∧
      (of waterAndEarth).palette.color 2 = ⟨0x8b, 0x45, 0x13⟩ ∧
      (of waterAndEarth).palette.color 3 = Color.sky ∧
      ((of waterAndEarth).palette.picture (.filled 2 1 1)).pixel? 1 0 = some ⟨0, 0, 255⟩ ∧
      Exists fun after => (Picture.save FileTree.access "lake.png"
        ((of waterAndEarth).palette.picture (.filled 2 1 1))).run.run .empty = (.ok (), after) := by
  have alike : PaintAlike waterAndEarth earthAndWater :=
    .of_perm (.of_perm (by decide) (by decide) (by decide) (by decide)) (by decide) (by decide)
  obtain ⟨_, shows, same, pictures⟩ := colors_follow_additions waterAndEarth
  obtain ⟨depicts, saves⟩ := pictures (.filled 2 1 1) (by decide) (by decide)
  have water : (of waterAndEarth).palette.color 1 = ⟨0, 0, 255⟩ :=
    shows.named 1 ⟨1, "Lake", "water-2"⟩ ⟨"Water", 0x0000ff⟩ (by decide +kernel)
      (by decide +kernel)
  have earth : (of waterAndEarth).palette.color 2 = ⟨0x8b, 0x45, 0x13⟩ :=
    shows.usual 2 ⟨2, "soil", "rough"⟩ ⟨"Soil", "earth"⟩ ⟨"Earth", 0x8b4513⟩ (by decide +kernel)
      (by decide +kernel) (by decide +kernel) (by decide +kernel)
  have sand : (of waterAndEarth).palette.color 3 = Color.sky := by
    have unknown : (of waterAndEarth).materials.find? "Sand" = none := by decide +kernel
    refine shows.unknown 3 ⟨3, "Sand", "rough"⟩ (by decide +kernel) (by decide +kernel) ?_
    intro material found
    rw [unknown] at found
    cases found
  have pixel := depicts.pixel 1 0
  rw [show (Raster.filled 2 1 1).get? (1 : Nat) (0 : Nat) = some 1 by decide, Option.map_some,
    water] at pixel
  have written : Exists fun after => FileTree.empty.write "lake.png"
      (.picture .png ((of waterAndEarth).palette.picture (.filled 2 1 1))) = .ok after :=
    ⟨_, rfl⟩
  obtain ⟨after, written⟩ := written
  exact ⟨alike, same earthAndWater alike, shows.sky, water, earth, sand, pixel, after,
    (saves "lake.png" .empty after).mpr ⟨.png, rfl, rfl, written⟩⟩

end MaterialTables

end Landform
