import Landform.Landscape.Node
import Landform.Proofs.SoundTables
import Landform.Text.Trimmed

namespace Landform

/-!
# Which entries can be asked for by their names

A block names its material and its texture apart, but asks for them by one text, `Mat-tex`, and
entries are kept under such texts.  Joining two names by a dash is not reversible when the names
themselves may hold dashes: `A` with `B-C` and `A-B` with `C` are two entries under one text, of
which the one of larger index is meant.  Besides, a spec is trimmed, cut at a colon, and taken for
the sky if `sky` stands before its first dash, so not every text that an entry is kept under is
looked up at all.

What can be said of every entry is therefore an equivalence (`spec_resolves_iff`): its own spec
stands for it exactly if nothing of that spec is cut off or read otherwise, and no entry of larger
index is kept under the same text.  The second condition is idle for materials without dashes, if
no two entries have the same material and texture.
-/

/-! ## Texts without the blanks around them -/

namespace Text

theorem trim_length_le (s : String) : (trim s).length ≤ s.length := by
  obtain ⟨lead, trail, split, _⟩ := (isTrimmed_trimChars s.toList).around
  have lengths := congrArg List.length split
  simp only [List.length_append] at lengths
  rw [trim, String.length_ofList, ← String.length_toList]
  omega

/-- A text that trimming leaves as long as it was has no blanks around it. -/
theorem trim_eq_of_length {s : String} (whole : (trim s).length = s.length) : trim s = s := by
  obtain ⟨lead, trail, split, _⟩ := (isTrimmed_trimChars s.toList).around
  have lengths := congrArg List.length split
  simp only [List.length_append] at lengths
  rw [trim, String.length_ofList, ← String.length_toList] at whole
  have noLead : lead = [] := List.eq_nil_of_length_eq_zero (by omega)
  have noTrail : trail = [] := List.eq_nil_of_length_eq_zero (by omega)
  rw [noLead, noTrail, List.nil_append, List.append_nil] at split
  rw [trim, ← split, String.ofList_toList]

theorem mem_trim {s : String} {c : Char} (visible : isBlank c = false) (member : c ∈ s.toList) :
    c ∈ (trim s).toList := by
  obtain ⟨lead, trail, split, blankLead, blankTrail⟩ := (isTrimmed_trimChars s.toList).around
  rw [trim, String.toList_ofList]
  rw [split, List.mem_append, List.mem_append] at member
  rcases member with inLead | inText | inTrail
  · rw [blankLead c inLead] at visible
    cases visible
  · exact inText
  · rw [blankTrail c inTrail] at visible
    cases visible

/-- What stands before a colon is not followed by a dash when it is trimmed. -/
theorem trim_dash_ne (front back rest : String) :
    trim front ++ "-" ++ rest ≠ front ++ ":" ++ back := by
  intro same
  obtain ⟨⟨lead, trail, split, blankLead, blankTrail⟩, first, _⟩ :=
    isTrimmed_trimChars front.toList
  have chars := congrArg String.toList same
  simp only [String.toList_append, trim, String.toList_ofList] at chars
  generalize trimChars front.toList = inner at *
  rw [split] at chars
  cases lead with
  | nil =>
      simp only [List.nil_append, List.append_assoc, List.append_cancel_left_eq] at chars
      cases trail with
      | nil => exact absurd (List.cons.inj chars).1 (by decide)
      | cons c trail =>
          have dash : '-' = c := (List.cons.inj chars).1
          exact absurd (blankTrail c List.mem_cons_self) (dash ▸ by decide)
  | cons c lead =>
      have blank := blankLead c List.mem_cons_self
      cases inner with
      | nil =>
          have dash : '-' = c := (List.cons.inj chars).1
          exact absurd blank (dash ▸ by decide)
      | cons d inner =>
          have visible := first d rfl
          rw [show d = c from (List.cons.inj chars).1, blank] at visible
          cases visible

theorem asciiLower_length (s : String) : (asciiLower s).length = s.length := by
  rw [asciiLower, String.length_ofList, List.length_map, String.length_toList]

end Text

/-! ## The spec of an entry -/

namespace IndexEntry

/-- The spec that names the material and the texture of an entry. -/
def spec (entry : IndexEntry) : String :=
  entry.material ++ "-" ++ entry.texture

/-- Nothing of the spec of an entry is cut off or read otherwise. -/
structure IsPlain (entry : IndexEntry) : Prop where
  noColon : ':' ∉ entry.spec.toList
  noBlanks : Text.trim entry.spec = entry.spec
  notSky : ¬ IsSkyName (Text.asciiLower entry.spec)

instance isPlainDecidable (entry : IndexEntry) : Decidable entry.IsPlain :=
  decidable_of_iff (':' ∉ entry.spec.toList ∧ Text.trim entry.spec = entry.spec ∧
      ¬ IsSkyName (Text.asciiLower entry.spec))
    ⟨fun all => ⟨all.1, all.2.1, all.2.2⟩,
      fun plain => ⟨plain.noColon, plain.noBlanks, plain.notSky⟩⟩

/-- No entry of larger index has the same spec, up to case. -/
def IsLast (entry : IndexEntry) (textures : TextureTable) : Prop :=
  ∀ other ∈ textures.entries, Text.sameName other.spec entry.spec = true ->
    other.index ≤ entry.index

theorem asciiLower_spec (entry : IndexEntry) :
    Text.asciiLower entry.spec = Resolver.pairKey entry.material entry.texture := by
  rw [spec, Text.asciiLower_append, Text.asciiLower_append]
  rfl

theorem dash_mem_spec (entry : IndexEntry) : '-' ∈ entry.spec.toList :=
  dash_mem entry.material entry.texture

/-- If materials have no dashes, the first dash of a spec parts the material from the texture. -/
theorem sameName_of_spec {first second : IndexEntry} (firstFree : '-' ∉ first.material.toList)
    (secondFree : '-' ∉ second.material.toList)
    (same : Text.sameName first.spec second.spec = true) :
    Text.sameName first.material second.material = true ∧
      Text.sameName first.texture second.texture = true := by
  have parts {entry : IndexEntry} (free : '-' ∉ entry.material.toList) :
      splitOnce '-' (Text.asciiLower entry.spec) =
        some (Text.asciiLower entry.material, Text.asciiLower entry.texture) := by
    rw [asciiLower_spec]
    exact splitOnce_append (mt (Text.mark_mem_asciiLower (by decide) _).mp free) _
  have cut := congrArg (splitOnce '-') (beq_iff_eq.mp same)
  rw [parts firstFree, parts secondFree, Option.some.injEq, Prod.mk.injEq] at cut
  exact ⟨beq_iff_eq.mpr cut.1, beq_iff_eq.mpr cut.2⟩

/-- The spec begins with any name without a dash that the entry is taken for. -/
theorem GoesBy.spec_eq {entry : IndexEntry} {materials : MaterialTable} {name : String}
    (goesBy : entry.GoesBy materials name) :
    Text.asciiLower entry.spec = name ∨
      '-' ∉ name.toList ∧ Exists fun rest => Text.asciiLower entry.spec = name ++ "-" ++ rest := by
  rw [asciiLower_spec]
  rcases goesBy with whole | ⟨free, material | ⟨material, _, named, usual⟩⟩
  · exact Or.inl whole
  · exact Or.inr ⟨free, Text.asciiLower entry.texture, by rw [← material]; rfl⟩
  · exact Or.inr ⟨free, Text.asciiLower material.overlay, by rw [usual, ← named]; rfl⟩

end IndexEntry

/-- A block that names the material and the texture of an entry asks for it by its spec. -/
theorem Landscape.Attributes.materialSpec_eq {attributes : Landscape.Attributes}
    {entry : IndexEntry} (material : attributes.material = some entry.material)
    (texture : attributes.texture = some entry.texture) (back : attributes.back = none) :
    attributes.materialSpec = some entry.spec := by
  rw [materialSpec_eq_some_iff, texture, back]
  exact ⟨entry.material, material, rfl⟩

namespace TextureTable.IsSound

variable {textures : TextureTable} (sound : textures.IsSound) {entry : IndexEntry}
variable (member : entry ∈ textures.entries) {materials : MaterialTable}

include sound member

/-- In a sound table only names of an entry are resolved to its index. -/
theorem goesBy_of_resolved {s : String}
    (resolved : (Resolver.ofTables materials textures).resolveIndex s = some entry.index) :
    ¬ IsSkyName (Text.asciiLower (Text.trim s)) ∧
      entry.GoesBy materials (Text.asciiLower (Text.trim s)) := by
  rcases @Resolver.resolveIndex_cases materials textures s with ⟨_, sky⟩ | ⟨named, other⟩
  · rw [sky] at resolved
    exact absurd (Option.some.inj resolved ▸ List.mem_map_of_mem member) sound.noSky
  · obtain ⟨found, inside, same, goesBy⟩ := other entry.index resolved
    rw [List.inj_on_of_nodup_map sound.apart inside member same] at goesBy
    exact ⟨named, goesBy⟩

theorem isPlain_of_resolved
    (resolved : (Resolver.ofTables materials textures).resolve entry.spec =
      some ⟨entry.index, entry.index⟩) : entry.IsPlain := by
  have noColon : ':' ∉ entry.spec.toList := by
    intro colon
    obtain ⟨front, back, cut, free⟩ := exists_of_mem colon
    have cut : entry.spec = front ++ ":" ++ back := cut
    rw [cut, Resolver.resolve_of_mem _ free] at resolved
    obtain ⟨foreground, front', given⟩ := Option.bind_eq_some_iff.mp resolved
    obtain ⟨background, _, same⟩ := Option.map_eq_some_iff.mp given
    cases same
    -- The front is shorter than the spec, and followed by a colon in it.
    rcases (sound.goesBy_of_resolved member front').2.spec_eq with whole | ⟨_, rest, begins⟩
    · have lengths := congrArg String.length whole
      have shorter := Text.trim_length_le front
      rw [Text.asciiLower_length, Text.asciiLower_length, cut] at lengths
      simp only [String.length_append, show ":".length = 1 from rfl] at lengths
      omega
    · rw [cut, Text.asciiLower_append, Text.asciiLower_append, ← Text.trim_asciiLower] at begins
      exact Text.trim_dash_ne _ _ rest begins.symm
  rw [Resolver.resolve_of_not_mem _ noColon] at resolved
  obtain ⟨index, found, same⟩ := Option.map_eq_some_iff.mp resolved
  cases same
  obtain ⟨notSky, goesBy⟩ := sound.goesBy_of_resolved member found
  have noBlanks : Text.trim entry.spec = entry.spec := by
    rcases goesBy.spec_eq with whole | ⟨free, _⟩
    · have lengths := congrArg String.length whole
      rw [Text.asciiLower_length, Text.asciiLower_length] at lengths
      exact Text.trim_eq_of_length lengths.symm
    · have dashed := Text.mem_trim (by decide) entry.dash_mem_spec
      exact absurd ((Text.mark_mem_asciiLower (by decide) _).mpr dashed) free
  exact ⟨noColon, noBlanks, noBlanks ▸ notSky⟩

end TextureTable.IsSound

namespace MaterialTables

variable {tables : MaterialTables} {entry : IndexEntry}

/-- A plain spec is looked up as it is. -/
theorem resolve_of_isPlain (plain : entry.IsPlain) :
    tables.resolver.resolve entry.spec =
      (tables.pairIndex? (Text.asciiLower entry.spec)).map fun index => ⟨index, index⟩ := by
  have dashed := (Text.mark_mem_asciiLower (by decide) _).mpr entry.dash_mem_spec
  obtain ⟨front, back, cut, free⟩ := exists_of_mem dashed
  have cut : Text.asciiLower entry.spec = front ++ "-" ++ back := cut
  have named : Text.asciiLower (Text.trim entry.spec) = front ++ "-" ++ back := by
    rw [plain.noBlanks, cut]
  have notSky : front ≠ "sky" := by
    rw [ne_eq, ← isSkyName_iff free back, ← cut]
    exact plain.notSky
  rw [Resolver.resolve_of_not_mem _ plain.noColon, Resolver.resolveIndex_of_mem _ free named,
    if_neg notSky, byPair_lookup, cut]

/-- An entry is the one meant by its spec if it is the last one of that spec. -/
theorem pairIndex?_spec (member : entry ∈ tables.textures.entries) :
    tables.pairIndex? (Text.asciiLower entry.spec) = some entry.index ↔
      entry.IsLast tables.textures := by
  have listed (other : IndexEntry) :
      (Resolver.pairKey other.material other.texture == Text.asciiLower entry.spec) =
        Text.sameName other.spec entry.spec := by
    rw [← other.asciiLower_spec]
    rfl
  simp only [pairIndex?, indexesWhere, listed, List.max?_eq_some_iff, List.mem_map,
    List.mem_filter]
  constructor
  · rintro ⟨_, largest⟩ other inside same
    exact largest other.index ⟨other, ⟨inside, same⟩, rfl⟩
  · intro last
    refine ⟨⟨entry, ⟨member, Text.sameName_refl _⟩, rfl⟩, ?_⟩
    rintro index ⟨other, ⟨inside, same⟩, rfl⟩
    exact last other inside same

/-- The index of an entry is that of its spec exactly if the spec is plain and the entry the last
one of it. -/
theorem resolve_spec_iff (sound : tables.textures.IsSound)
    (member : entry ∈ tables.textures.entries) :
    tables.resolver.resolve entry.spec = some ⟨entry.index, entry.index⟩ ↔
      entry.IsPlain ∧ entry.IsLast tables.textures := by
  have looked (plain : entry.IsPlain) :
      tables.resolver.resolve entry.spec = some ⟨entry.index, entry.index⟩ ↔
        tables.pairIndex? (Text.asciiLower entry.spec) = some entry.index := by
    rw [resolve_of_isPlain plain, Option.map_eq_some_iff]
    simp only [MaterialPair.mk.injEq, and_self, exists_eq_right]
  constructor
  · intro resolved
    have plain := sound.isPlain_of_resolved member resolved
    exact ⟨plain, (pairIndex?_spec member).mp ((looked plain).mp resolved)⟩
  · rintro ⟨plain, last⟩
    exact (looked plain).mpr ((pairIndex?_spec member).mpr last)

end MaterialTables

/-! ## Tables without a material and texture twice -/

namespace TextureTable

/-- No two entries have the same material and texture, up to case. -/
def PairsApart (textures : TextureTable) : Prop :=
  ∀ first ∈ textures.entries, ∀ second ∈ textures.entries,
    Text.sameName first.material second.material = true ->
    Text.sameName first.texture second.texture = true -> first = second

instance pairsApartDecidable (textures : TextureTable) : Decidable textures.PairsApart :=
  inferInstanceAs (Decidable (∀ first ∈ textures.entries, ∀ second ∈ textures.entries,
    Text.sameName first.material second.material = true ->
    Text.sameName first.texture second.texture = true -> first = second))

theorem PairsApart.isLast {textures : TextureTable} (apart : textures.PairsApart)
    (free : ∀ entry ∈ textures.entries, '-' ∉ entry.material.toList) {entry : IndexEntry}
    (member : entry ∈ textures.entries) : entry.IsLast textures := by
  intro other inside same
  obtain ⟨material, texture⟩ :=
    IndexEntry.sameName_of_spec (free other inside) (free entry member) same
  rw [apart other inside entry member material texture]
  exact UInt8.le_refl _

/-- A block asks for an entry by its spec.  It is given the index of the entry exactly if the spec
is plain and no entry of larger index has it too, and the latter is always so if no two entries
have the same material and texture and no material has a dash. -/
theorem spec_resolves_iff (additions : List TableAddition) (materials : MaterialTable)
    {entry : IndexEntry} (member : entry ∈ (MaterialTables.of additions).textures.entries)
    {attributes : Landscape.Attributes} (material : attributes.material = some entry.material)
    (texture : attributes.texture = some entry.texture) (back : attributes.back = none) :
    attributes.materialSpec = some entry.spec ∧
      ((Resolver.ofTables materials (MaterialTables.of additions).textures).resolve entry.spec =
          some ⟨entry.index, entry.index⟩ ↔
        entry.IsPlain ∧ entry.IsLast (MaterialTables.of additions).textures) ∧
      ((MaterialTables.of additions).textures.PairsApart ->
        (∀ other ∈ (MaterialTables.of additions).textures.entries, '-' ∉ other.material.toList) ->
        entry.IsLast (MaterialTables.of additions).textures) :=
  ⟨Landscape.Attributes.materialSpec_eq material texture back,
    @MaterialTables.resolve_spec_iff ⟨materials, (MaterialTables.of additions).textures⟩ entry
      (isSound_of_additions additions) member,
    fun apart free => apart.isLast free member⟩

/-- Two textures of one material, one of which has several names. -/
def earthTwice : List TableAddition :=
  [.entry 1 "Earth" "Rough", .entry 2 "Earth" "smooth-1-2"]

theorem spec_resolves_earthTwice :
    (Resolver.ofTables {} (MaterialTables.of earthTwice).textures).resolve "Earth-smooth-1-2" =
        some ⟨2, 2⟩ ∧
      (MaterialTables.of earthTwice).textures.PairsApart := by
  have apart : (MaterialTables.of earthTwice).textures.PairsApart := by decide +kernel
  obtain ⟨_, resolves, last⟩ := @spec_resolves_iff earthTwice {} ⟨2, "Earth", "smooth-1-2"⟩
    (by decide +kernel) { material := some "Earth", texture := some "smooth-1-2" } rfl rfl rfl
  have plain : IndexEntry.IsPlain ⟨2, "Earth", "smooth-1-2"⟩ := by decide
  exact ⟨resolves.mpr ⟨plain, last apart (by decide +kernel)⟩, apart⟩

/-- A name with a dash as a texture, and the same name shared out otherwise. -/
def dashedNames : List TableAddition :=
  [.entry 1 "A" "B-C", .entry 2 "A-B" "C"]

/-- No two entries have the same material and texture, and none is of the sky, but the first is
taken for the second.  A colon, a blank at an end and a name that begins like the sky are in the way
even of the only entry. -/
theorem spec_resolves_elsewhere :
    (MaterialTables.of dashedNames).textures.PairsApart ∧
      ⟨1, "A", "B-C"⟩ ∈ (MaterialTables.of dashedNames).textures.entries ∧
      Text.sameName "A" skyName = false ∧
      ({ material := some "A", texture := some "B-C" } : Landscape.Attributes).materialSpec =
        some "A-B-C" ∧
      (MaterialTables.of dashedNames).resolver.resolve "A-B-C" = some ⟨2, 2⟩ ∧
      (MaterialTables.of [.entry 1 "Earth" "a:b"]).resolver.resolve "Earth-a:b" = none ∧
      (MaterialTables.of [.entry 1 " Earth" "a"]).resolver.resolve " Earth-a" = none ∧
      (MaterialTables.of [.entry 1 "Sky-Blue" "a"]).resolver.resolve "Sky-Blue-a" =
        some ⟨0, 0⟩ := by
  have meant (additions : List TableAddition) :=
    (MaterialTables.of additions).resolveIndex_eq (MaterialTables.names_nodup additions)
  have whole (additions : List TableAddition) {spec : String} (free : ':' ∉ spec.toList) :=
    (Resolver.resolve_of_not_mem (MaterialTables.of additions).resolver free).trans
      (congrArg _ (meant additions spec))
  have parted := (MaterialTables.of [.entry 1 "Earth" "a:b"]).resolver.resolve_of_mem
    (show ':' ∉ "Earth-a".toList by decide) "b"
  rw [meant] at parted
  exact ⟨by decide +kernel, by decide +kernel, by decide, by decide,
    (whole dashedNames (by decide)).trans (by decide +kernel), parted.trans (by decide +kernel),
    (whole _ (by decide)).trans (by decide +kernel),
    (whole _ (by decide)).trans (by decide +kernel)⟩

end TextureTable

end Landform
