import Landform.Material.Palette
import Landform.Proofs.Interchange
import Landform.Proofs.Resolution

namespace Landform

/-!
# Tables in which every index has one meaning

Index 0 belongs to the sky, and any other index should stand for one material with one texture.
The table itself does not insist on that: an entry for index 0 is refused, and a second entry of
an index replaces the first, but only where entries are added one by one.  A table that is read
from its interchange form takes the entries as they stand there.

So a table is sound exactly if the one it was last read from is (`made_isSound_iff`): additions
neither break nor mend it.  What relies on soundness are three readers of a table that each pick an
entry of an index in their own way, the first, the last, or any.  In a sound table there is only
one to pick, and the three agree (`MeaningsAgree`).  `read_meanings_differ` is a text that is read
as a table for which they do not.
-/

/-! ## Sound tables -/

namespace TextureTable

/-- The indexes of the entries of a table, one for each entry. -/
def indexes (textures : TextureTable) : List UInt8 :=
  textures.entries.map IndexEntry.index

/-- No index has two entries, and that of the sky has none. -/
structure IsSound (textures : TextureTable) : Prop where
  apart : textures.indexes.Nodup
  noSky : 0 ∉ textures.indexes

instance isSoundDecidable (textures : TextureTable) : Decidable textures.IsSound :=
  decidable_of_iff (textures.indexes.Nodup ∧ 0 ∉ textures.indexes)
    ⟨fun both => ⟨both.1, both.2⟩, fun sound => ⟨sound.apart, sound.noSky⟩⟩

theorem isSound_empty : IsSound {} := by
  decide

/-- The entries of an added index are those of the index before, or the new one alone. -/
theorem indexes_addEntry {textures next : TextureTable} {index : UInt8} {material texture : String}
    (added : textures.addEntry index material texture = .ok next) :
    index ≠ 0 ∧ next.indexes =
      if index ∈ textures.indexes then textures.indexes else textures.indexes ++ [index] := by
  unfold addEntry at added
  split at added
  · cases added
  · rename_i notSky
    cases added
    exact ⟨notSky, @keys_replaceOrAdd _ _ _ IndexEntry.index ⟨index, material, texture⟩
      textures.entries⟩

/-- Adding an entry neither breaks a table nor mends it. -/
theorem addEntry_isSound_iff {textures next : TextureTable} {index : UInt8}
    {material texture : String} (added : textures.addEntry index material texture = .ok next) :
    next.IsSound ↔ textures.IsSound := by
  obtain ⟨notSky, indexes⟩ := indexes_addEntry added
  by_cases known : index ∈ textures.indexes
  · rw [if_pos known] at indexes
    exact ⟨fun sound => ⟨indexes ▸ sound.apart, indexes ▸ sound.noSky⟩,
      fun sound => ⟨indexes ▸ sound.apart, indexes ▸ sound.noSky⟩⟩
  · rw [if_neg known] at indexes
    have apart : next.indexes.Nodup ↔ textures.indexes.Nodup := by
      rw [indexes, ← List.concat_eq_append, List.nodup_concat]
      exact and_iff_right known
    have noSky : 0 ∉ next.indexes ↔ 0 ∉ textures.indexes := by
      rw [indexes, List.mem_append, List.mem_singleton, or_iff_left (Ne.symm notSky)]
    exact ⟨fun sound => ⟨apart.mp sound.apart, noSky.mp sound.noSky⟩,
      fun sound => ⟨apart.mpr sound.apart, noSky.mpr sound.noSky⟩⟩

end TextureTable

/-! ## How tables come about -/

/-- What can happen to a table of textures and entries. -/
inductive TextureStep where
  | read (s : String)
  | texture (name : String) (averageColor : Nat)
  | entry (index : UInt8) (material texture : String)

namespace TextureTable

/-- The table after a step.  A text that is no table, and what is refused, leave it as it was. -/
def after (textures : TextureTable) : TextureStep -> TextureTable
  | .read s =>
      match ofText s with
      | .ok other => other
      | .error _ => textures
  | .texture name averageColor => (textures.addTexture name averageColor).1
  | .entry index material texture =>
      match textures.addEntry index material texture with
      | .ok next => next
      | .error _ => textures

/-- The table that some steps make. -/
def made (steps : List TextureStep) : TextureTable :=
  steps.foldl after {}

/-- Whether a step is the reading of a table. -/
def isReading : TextureStep -> Bool
  | .read _ => true
  | _ => false

/-- The table that was read last, without anything that was added to it; empty if there is none. -/
def lastRead (steps : List TextureStep) : TextureTable :=
  made (steps.filter isReading)

theorem made_concat (steps : List TextureStep) (last : TextureStep) :
    made (steps ++ [last]) = (made steps).after last :=
  List.foldl_concat _ _ _ _

/-- Nothing but reading changes whether a table is sound. -/
theorem after_isSound_iff {step : TextureStep} (added : isReading step = false)
    (textures : TextureTable) : (textures.after step).IsSound ↔ textures.IsSound := by
  cases step with
  | read s => cases added
  | texture name averageColor =>
      have same : (textures.addTexture name averageColor).1.indexes = textures.indexes :=
        congrArg (List.map IndexEntry.index) (textures.addTexture_entries name averageColor)
      exact ⟨fun sound => ⟨same ▸ sound.apart, same ▸ sound.noSky⟩,
        fun sound => ⟨same.symm ▸ sound.apart, same.symm ▸ sound.noSky⟩⟩
  | entry index material texture =>
      cases entered : textures.addEntry index material texture with
      | ok next => simp only [after, entered, addEntry_isSound_iff entered]
      | error refusal => simp only [after, entered]

/-- A reading forgets what there was, unless the text is no table. -/
theorem after_read_isSound_iff (s : String) {first second : TextureTable}
    (alike : first.IsSound ↔ second.IsSound) :
    (first.after (.read s)).IsSound ↔ (second.after (.read s)).IsSound := by
  cases reads : ofText s with
  | ok other => simp only [after, reads]
  | error fault => simp only [after, reads, alike]

theorem made_isSound_iff (steps : List TextureStep) :
    (made steps).IsSound ↔ (lastRead steps).IsSound := by
  induction steps using List.reverseRecOn with
  | nil => exact Iff.rfl
  | append_singleton steps last inductionHypothesis =>
      unfold lastRead at *
      rw [made_concat, List.filter_append]
      cases reading : isReading last with
      | true =>
          rw [List.filter_singleton, reading, cond_true, made_concat]
          cases last with
          | read s => exact after_read_isSound_iff s inductionHypothesis
          | texture name averageColor => cases reading
          | entry index material texture => cases reading
      | false =>
          rw [List.filter_singleton, reading, cond_false, List.append_nil,
            after_isSound_iff reading]
          exact inductionHypothesis

/-- Tables that are filled by additions are sound. -/
theorem isSound_of_additions (additions : List TableAddition) :
    (MaterialTables.of additions).textures.IsSound := by
  induction additions using List.reverseRecOn with
  | nil => exact isSound_empty
  | append_singleton additions last inductionHypothesis =>
      rw [MaterialTables.of_concat]
      cases last with
      | material name overlay => exact inductionHypothesis
      | texture name averageColor =>
          exact (@after_isSound_iff (.texture name averageColor) rfl _).mpr inductionHypothesis
      | entry index material texture =>
          simp only [MaterialTables.add]
          split
          · rename_i added
            exact (addEntry_isSound_iff added).mpr inductionHypothesis
          · exact inductionHypothesis

/-- Any table whose colours have 32 bits can be read. -/
theorem exists_made_eq {textures : TextureTable} (inRange : textures.InRange) :
    Exists fun s => made [.read s] = textures := by
  have reads : ofText textures.toJson.render = .ok textures :=
    ((isFull inRange).readsBack (by decide) textures.ofJson_toJson).back
  refine ⟨textures.toJson.render, ?_⟩
  simp only [made, List.foldl_cons, List.foldl_nil, after, reads]

end TextureTable

/-! ## Which entry is found -/

theorem TextureTable.IsSound.entry?_eq_some_iff {textures : TextureTable} (sound : textures.IsSound)
    (index : UInt8) (entry : IndexEntry) :
    textures.entry? index = some entry ↔ entry ∈ textures.entries ∧ entry.index = index :=
  find?_eq_some_iff_of_nodup sound.apart index entry

/-! ## Which entry is resolved -/

/-- A name in lower case whose material is the sky. -/
def IsSkyName (name : String) : Prop :=
  name = "sky" ∨ "sky-".toList <+: name.toList

instance isSkyNameDecidable (name : String) : Decidable (IsSkyName name) :=
  inferInstanceAs (Decidable (_ ∨ _))

theorem isSkyName_iff {front : String} (free : '-' ∉ front.toList) (back : String) :
    IsSkyName (front ++ "-" ++ back) ↔ front = "sky" := by
  have other : front ++ "-" ++ back ≠ "sky" := dash_ne_sky front back
  have word : "sky-" = "sky" ++ String.singleton '-' := by decide
  rw [IsSkyName, or_iff_right other, word]
  exact starts_iff (by decide) free back

/-- The names in lower case that a resolver may take for an entry: its material with its texture,
its material alone, and a material whose usual texture makes the same name with it. -/
def IndexEntry.GoesBy (entry : IndexEntry) (materials : MaterialTable) (name : String) : Prop :=
  Resolver.pairKey entry.material entry.texture = name ∨
  '-' ∉ name.toList ∧
    (Text.asciiLower entry.material = name ∨
      Exists fun material => material ∈ materials.materials ∧
        Text.asciiLower material.name = name ∧
        Resolver.pairKey entry.material entry.texture =
          Resolver.pairKey material.name material.overlay)

namespace Resolver

variable {materials : MaterialTable} {textures : TextureTable} {name : String} {index : UInt8}

theorem entry_of_byPair (found : (ofTables materials textures).byPair.lookup name = some index) :
    Exists fun entry => entry ∈ textures.entries ∧ entry.index = index ∧
      pairKey entry.material entry.texture = name := by
  have found := MaterialTables.byPair_lookup ⟨materials, textures⟩ name ▸ found
  have listed := (List.max?_eq_some_iff.mp found).1
  obtain ⟨entry, kept, same⟩ := List.mem_map.mp listed
  obtain ⟨member, named⟩ := List.mem_filter.mp kept
  exact ⟨entry, member, same, beq_iff_eq.mp named⟩

theorem entry_of_byMaterial (free : '-' ∉ name.toList)
    (found : (ofTables materials textures).byMaterial.lookup name = some index) :
    Exists fun entry => entry ∈ textures.entries ∧ entry.index = index ∧
      entry.GoesBy materials name := by
  have listed := mem_of_lookup found
  simp only [ofTables, List.mem_append, List.mem_reverse, List.mem_filterMap, List.mem_map]
    at listed
  rcases listed with ⟨material, member, given⟩ | ⟨entry, inside, same⟩
  · split at given
    · cases given
    · obtain ⟨_, paired, same⟩ := Option.map_eq_some_iff.mp given
      cases same
      obtain ⟨entry, inside, here, key⟩ := @entry_of_byPair materials textures _ _ paired
      exact ⟨entry, inside, here, Or.inr ⟨free, Or.inr ⟨material, member, rfl, key⟩⟩⟩
  · rw [Prod.mk.injEq] at same
    exact ⟨entry, List.mem_mergeSort.mp inside, same.2, Or.inr ⟨free, Or.inl same.1⟩⟩

/-- A spec whose material is the sky is resolved to index 0, and any other to that of an entry. -/
theorem resolveIndex_cases (spec : String) :
    IsSkyName (Text.asciiLower (Text.trim spec)) ∧
      (ofTables materials textures).resolveIndex spec = some 0 ∨
    ¬ IsSkyName (Text.asciiLower (Text.trim spec)) ∧
      ∀ index, (ofTables materials textures).resolveIndex spec = some index ->
        Exists fun entry => entry ∈ textures.entries ∧ entry.index = index ∧
          entry.GoesBy materials (Text.asciiLower (Text.trim spec)) := by
  by_cases dashed : '-' ∈ (Text.asciiLower (Text.trim spec)).toList
  · obtain ⟨front, back, named, free⟩ := exists_of_mem dashed
    have resolved := resolveIndex_of_mem (ofTables materials textures) free named
    have sky : IsSkyName (front ++ String.singleton '-' ++ back) ↔ front = "sky" :=
      isSkyName_iff free back
    rw [resolved, named, sky]
    by_cases here : front = "sky"
    · exact Or.inl ⟨here, if_pos here⟩
    · refine Or.inr ⟨here, fun index found => ?_⟩
      rw [if_neg here] at found
      obtain ⟨entry, member, same, key⟩ := entry_of_byPair found
      exact ⟨entry, member, same, Or.inl key⟩
  · have sky : IsSkyName (Text.asciiLower (Text.trim spec)) ↔
        Text.asciiLower (Text.trim spec) = "sky" :=
      or_iff_left fun starts => dashed (starts.subset (by decide))
    rw [resolveIndex_of_not_mem _ dashed, sky]
    by_cases here : Text.asciiLower (Text.trim spec) = "sky"
    · exact Or.inl ⟨here, if_pos here⟩
    · refine Or.inr ⟨here, fun index found => ?_⟩
      rw [if_neg here] at found
      exact entry_of_byMaterial dashed found

end Resolver

/-! ## Which entry is shown -/

namespace Palette

/-- The colour that an entry gives its index, if it has a texture to show. -/
def entryColor? (materials : MaterialTable) (textures : TextureTable) (entry : IndexEntry) :
    Option Color :=
  (shownTexture? materials textures entry).map fun texture => Color.ofPacked texture.averageColor

/-- Sets the colour of an index if an entry gives it one. -/
def setColor (given : IndexEntry -> Option Color) (colors : Array Color) (entry : IndexEntry) :
    Array Color :=
  match given entry with
  | some color => colors.setIfInBounds entry.index.toNat color
  | none => colors

variable {given : IndexEntry -> Option Color} {colors : Array Color}

theorem size_setColor (entry : IndexEntry) : (setColor given colors entry).size = colors.size := by
  unfold setColor
  cases given entry <;> simp

theorem size_foldl_setColor (entries : List IndexEntry) :
    (entries.foldl (setColor given) colors).size = colors.size := by
  induction entries generalizing colors with
  | nil => rfl
  | cons entry rest inductionHypothesis =>
      rw [List.foldl_cons, inductionHypothesis, size_setColor]

theorem getElem?_setColor (fits : colors.size = 256) (entry : IndexEntry) (index : UInt8) :
    (setColor given colors entry)[index.toNat]? =
      if entry.index = index then (given entry).or colors[index.toNat]?
      else colors[index.toNat]? := by
  have inside : index.toNat < colors.size := fits ▸ index.toNat_lt
  unfold setColor
  by_cases here : entry.index = index
  · rw [if_pos here, here]
    cases given entry with
    | none => rfl
    | some color => exact Array.getElem?_setIfInBounds_self_of_lt inside
  · have apart : entry.index.toNat ≠ index.toNat := fun same => here (UInt8.toNat_inj.mp same)
    rw [if_neg here]
    cases given entry with
    | none => rfl
    | some color => exact Array.getElem?_setIfInBounds_ne apart

/-- The colours that some entries with indexes apart set, one after another. -/
theorem getElem?_foldl_setColor {entries : List IndexEntry}
    (apart : (entries.map IndexEntry.index).Nodup) (index : UInt8) :
    (entries.foldl (setColor given) (Array.replicate 256 Color.sky))[index.toNat]? =
      some (((entries.find? fun entry => entry.index == index).bind given).getD Color.sky) := by
  induction entries using List.reverseRecOn with
  | nil => exact Array.getElem?_replicate.trans (if_pos index.toNat_lt)
  | append_singleton entries last inductionHypothesis =>
      rw [List.map_append, List.nodup_append] at apart
      have before := inductionHypothesis apart.1
      have fits : (entries.foldl (setColor given) (Array.replicate 256 Color.sky)).size = 256 := by
        rw [size_foldl_setColor, Array.size_replicate]
      rw [List.foldl_concat, getElem?_setColor fits, before, List.find?_append]
      by_cases here : last.index = index
      · have absent : entries.find? (fun entry => entry.index == index) = none := by
          rw [List.find?_eq_none]
          intro entry member same
          exact apart.2.2 entry.index (List.mem_map_of_mem member) last.index
            (List.mem_singleton.mpr rfl) ((beq_iff_eq.mp same).trans here.symm)
        rw [if_pos here, absent, Option.none_or, List.find?_cons_of_pos (by simp [here])]
        cases shown : given last <;> simp [shown]
      · rw [if_neg here, List.find?_cons_of_neg (by simp [here]), List.find?_nil, Option.or_none]

theorem colorTable_eq {textures : TextureTable} (sound : textures.IsSound)
    (materials : MaterialTable) :
    colorTable materials textures =
      textures.entries.foldl (setColor (entryColor? materials textures))
        (Array.replicate 256 Color.sky) := by
  refine List.foldl_ext _ _ _ fun colors entry member => ?_
  have notSky : entry.index ≠ 0 := fun same =>
    sound.noSky (same ▸ List.mem_map_of_mem member)
  simp only [notSky, if_false, setColor, entryColor?]
  cases shownTexture? materials textures entry <;> rfl

/-- The colour that an index is given by the entry that is found for it. -/
def indexColor? (materials : MaterialTable) (textures : TextureTable) (index : UInt8) :
    Option Color :=
  textures.entry? index |>.bind (entryColor? materials textures)

/-- In a sound table the entry that is found for an index is the one that is shown. -/
theorem color_eq {textures : TextureTable} (sound : textures.IsSound) (materials : MaterialTable)
    (index : UInt8) :
    (ofTables materials textures).color index =
      (indexColor? materials textures index).getD Color.sky := by
  show ((colorTable materials textures)[index.toNat]?).getD Color.sky = _
  rw [colorTable_eq sound, getElem?_foldl_setColor sound.apart, Option.getD_some]
  rfl

end Palette

/-! ## One meaning for each index -/

namespace TextureTable

/-- The table itself, resolvers and palettes take an index for the same entry. -/
structure MeaningsAgree (textures : TextureTable) (materials : MaterialTable) : Prop where
  /-- Every entry is the one that is found for its index. -/
  found : ∀ entry ∈ textures.entries, textures.entry? entry.index = some entry
  /-- Index 0 is resolved for the sky and for nothing else. -/
  sky : ∀ spec, (Resolver.ofTables materials textures).resolveIndex spec = some 0 ↔
    IsSkyName (Text.asciiLower (Text.trim spec))
  /-- An index is resolved for the names of the entry that is found for it. -/
  resolved : ∀ spec index, index ≠ 0 ->
    (Resolver.ofTables materials textures).resolveIndex spec = some index ->
    Exists fun entry => textures.entry? index = some entry ∧
      entry.GoesBy materials (Text.asciiLower (Text.trim spec))
  /-- An index is shown in the colour of the entry that is found for it. -/
  shown : ∀ index, (Palette.ofTables materials textures).color index =
    (Palette.indexColor? materials textures index).getD Color.sky

theorem IsSound.meaningsAgree {textures : TextureTable} (sound : textures.IsSound)
    (materials : MaterialTable) : textures.MeaningsAgree materials where
  found entry member := (sound.entry?_eq_some_iff entry.index entry).mpr ⟨member, rfl⟩
  sky spec := by
    rcases @Resolver.resolveIndex_cases materials textures spec with ⟨named, sky⟩ | ⟨named, other⟩
    · exact iff_of_true sky named
    · refine iff_of_false (fun resolved => ?_) named
      obtain ⟨entry, member, same, _⟩ := other 0 resolved
      exact sound.noSky (same ▸ List.mem_map_of_mem member)
  resolved spec index notSky resolved := by
    rcases @Resolver.resolveIndex_cases materials textures spec with ⟨_, sky⟩ | ⟨_, other⟩
    · rw [sky] at resolved
      exact absurd (Option.some.inj resolved).symm notSky
    · obtain ⟨entry, member, same, goesBy⟩ := other index resolved
      exact ⟨entry, (sound.entry?_eq_some_iff index entry).mpr ⟨member, same⟩, goesBy⟩
  shown index := Palette.color_eq sound materials index

/-- A table is sound exactly if the one that was read last is, and then every index has one
meaning.  Any table can be read. -/
theorem made_meanings (steps : List TextureStep) (materials : MaterialTable) :
    ((made steps).IsSound ↔ (lastRead steps).IsSound) ∧
      ((lastRead steps).IsSound -> (made steps).MeaningsAgree materials) ∧
      ∀ textures : TextureTable, textures.InRange -> Exists fun s => made [.read s] = textures :=
  ⟨made_isSound_iff steps,
    fun sound => ((made_isSound_iff steps).mpr sound).meaningsAgree materials,
    fun _ inRange => exists_made_eq inRange⟩

/-- An empty table is read, an entry of index 1 added and replaced, and one of index 0 refused. -/
def replacing : List TextureStep :=
  [.entry 1 "Gold" "gold", .read "\x7b\x7d", .entry 1 "Earth" "earth", .entry 0 "Sand" "sand",
    .entry 1 "Rock" "rock"]

theorem made_meanings_replacing :
    (lastRead replacing).IsSound ∧ (made replacing).IsSound ∧
      entry? (made replacing) 1 = some ⟨1, "Rock", "rock"⟩ ∧
      (Resolver.ofTables {} (made replacing)).resolveIndex "Sand" ≠ some 0 ∧
      (Palette.ofTables {} (made replacing)).color 1 = Color.sky := by
  obtain ⟨same, agree, _⟩ := made_meanings replacing {}
  have isSound : (lastRead replacing).IsSound := by decide +kernel
  have found : entry? (made replacing) 1 = some ⟨1, "Rock", "rock"⟩ := by decide +kernel
  have textures : (made replacing).textures = [] := by decide +kernel
  refine ⟨isSound, same.mpr isSound, found, fun resolved => ?_, ?_⟩
  · exact absurd (((agree isSound).sky "Sand").mp resolved) (by decide)
  · rw [(agree isSound).shown, Palette.indexColor?, found]
    simp only [Option.bind_some, Palette.entryColor?, Palette.shownTexture?,
      TextureTable.texture?, textures]
    rfl

/-- A table with an entry for the sky, and with two entries of index 1. -/
def unsoundText : String :=
  "\x7b\"entries\":[\x7b\"index\":0,\"material\":\"Earth\",\"texture\":\"earth\"\x7d," ++
    "\x7b\"index\":1,\"material\":\"Rock\",\"texture\":\"rock\"\x7d," ++
    "\x7b\"index\":1,\"material\":\"Gold\",\"texture\":\"gold\"\x7d]\x7d"

theorem made_unsoundText : made [.read unsoundText] =
    ⟨[], [⟨0, "Earth", "earth"⟩, ⟨1, "Rock", "rock"⟩, ⟨1, "Gold", "gold"⟩]⟩ := by
  decide +kernel

/-- Index 0 is resolved for a material that is not the sky, though it is shown as the sky, and
index 1 is resolved for a material that is not the one found for it. -/
theorem read_meanings_differ :
    ¬ (made [.read unsoundText]).IsSound ∧
      ¬ IsSkyName (Text.asciiLower (Text.trim "Earth")) ∧
      (Resolver.ofTables {} (made [.read unsoundText])).resolveIndex "Earth" = some 0 ∧
      entry? (made [.read unsoundText]) 0 = some ⟨0, "Earth", "earth"⟩ ∧
      entry? (made [.read unsoundText]) 1 = some ⟨1, "Rock", "rock"⟩ ∧
      (Resolver.ofTables {} (made [.read unsoundText])).resolveIndex "Gold-gold" = some 1 := by
  rw [made_unsoundText]
  have meant := MaterialTables.resolveIndex_eq
    ⟨{}, [], [⟨0, "Earth", "earth"⟩, ⟨1, "Rock", "rock"⟩, ⟨1, "Gold", "gold"⟩]⟩ List.nodup_nil
  exact ⟨by decide, by decide, (meant "Earth").trans (by decide +kernel), by decide +kernel,
    by decide +kernel, (meant "Gold-gold").trans (by decide +kernel)⟩

end TextureTable

end Landform
