import Landform.Material.Resolver
import Mathlib.Data.List.Induction
import Mathlib.Data.List.Nodup
import Mathlib.Data.List.Perm.Basic

namespace Landform

/-!
# Tables that are filled bit by bit

Both tables hold one element for each key: materials go by their names up to case, and entries by
their indexes.  An element that is added takes the place of the one of its key, so at last a table
holds, for every key, what was added for it last, and nothing else (`mem_filled`).

Neither the order of additions for different keys nor the case of letters can be told from what a
table holds afterwards, other than by the places of its elements and the case of their letters
(`filled_perm`).  Additions may be repeated any number of times.  An entry for the index of the
sky is refused and leaves the tables as they are, and a texture has no part in either list.
-/

/-! ## Lists with one element for each key -/

section

variable {α : Type u} {κ : Type v} [DecidableEq κ] (key : α -> κ)

/-- What is held after some elements were added, each in place of the one of its key. -/
def filled (items : List α) : List α :=
  items.foldl (fun held new => replaceOrAdd (fun old => key old == key new) new held) []

variable {key}

theorem filled_concat (items : List α) (new : α) :
    filled key (items ++ [new]) =
      replaceOrAdd (fun old => key old == key new) new (filled key items) :=
  List.foldl_concat _ _ _ _

/-- An element that is added takes the place of the one of its key, or stands at the end. -/
theorem keys_replaceOrAdd (new : α) (held : List α) :
    (replaceOrAdd (fun old => key old == key new) new held).map key =
      if key new ∈ held.map key then held.map key else held.map key ++ [key new] := by
  induction held with
  | nil => rfl
  | cons old rest inductionHypothesis =>
      by_cases same : key old = key new
      · simp [replaceOrAdd, same]
      · have other : ¬ key new = key old := fun equal => same equal.symm
        simp only [replaceOrAdd, beq_eq_false_iff_ne.mpr same, Bool.false_eq_true, if_false,
          List.map_cons, inductionHypothesis, List.mem_cons, other, false_or]
        split <;> rfl

theorem replaceOrAdd_nodup (new : α) {held : List α} (apart : (held.map key).Nodup) :
    ((replaceOrAdd (fun old => key old == key new) new held).map key).Nodup := by
  rw [keys_replaceOrAdd]
  split
  · exact apart
  · rename_i fresh
    exact List.nodup_append.mpr ⟨apart, List.nodup_singleton _, fun k inHeld other same => by
      rw [List.mem_singleton.mp same]
      exact fun equal => fresh (equal ▸ inHeld)⟩

theorem mem_replaceOrAdd (new : α) {held : List α} (apart : (held.map key).Nodup) (item : α) :
    item ∈ replaceOrAdd (fun old => key old == key new) new held ↔
      item = new ∨ item ∈ held ∧ key item ≠ key new := by
  induction held with
  | nil => simp [replaceOrAdd]
  | cons old rest inductionHypothesis =>
      rw [List.map_cons, List.nodup_cons] at apart
      by_cases same : key old = key new
      · -- No other element has the key of the one that gives up its place.
        have others : item ∈ rest -> key item ≠ key new := by
          intro member equal
          exact apart.1 (same ▸ equal ▸ List.mem_map_of_mem member)
        simp only [replaceOrAdd, beq_iff_eq.mpr same, if_true, List.mem_cons]
        constructor
        · rintro (first | later)
          · exact Or.inl first
          · exact Or.inr ⟨Or.inr later, others later⟩
        · rintro (first | ⟨first | later, different⟩)
          · exact Or.inl first
          · exact absurd (first ▸ same) different
          · exact Or.inr later
      · simp only [replaceOrAdd, beq_eq_false_iff_ne.mpr same, Bool.false_eq_true, if_false,
          List.mem_cons, inductionHypothesis apart.2]
        constructor
        · rintro (first | new | ⟨later, different⟩)
          · exact Or.inr ⟨Or.inl first, first ▸ same⟩
          · exact Or.inl new
          · exact Or.inr ⟨Or.inr later, different⟩
        · rintro (new | ⟨first | later, different⟩)
          · exact Or.inr (Or.inl new)
          · exact Or.inl first
          · exact Or.inr (Or.inr ⟨later, different⟩)

/-- No two elements are held for one key. -/
theorem filled_nodup (items : List α) : ((filled key items).map key).Nodup := by
  induction items using List.reverseRecOn with
  | nil => exact List.nodup_nil
  | append_singleton items new inductionHypothesis =>
      rw [filled_concat]
      exact replaceOrAdd_nodup new inductionHypothesis

/-- For every key the element is held that was added last. -/
theorem mem_filled (items : List α) (item : α) :
    item ∈ filled key items ↔
      (items.filter fun other => key other == key item).getLast? = some item := by
  induction items using List.reverseRecOn with
  | nil => simp [filled]
  | append_singleton items new inductionHypothesis =>
      rw [filled_concat, mem_replaceOrAdd new (filled_nodup items), inductionHypothesis,
        List.filter_append]
      by_cases same : key new = key item
      · have last : [new].filter (fun other => key other == key item) = [new] := by
          simp [same]
        rw [last, List.getLast?_concat, Option.some.injEq]
        constructor
        · rintro (here | ⟨_, different⟩)
          · exact here.symm
          · exact absurd same.symm different
        · exact fun here => Or.inl here.symm
      · have none : [new].filter (fun other => key other == key item) = [] := by
          simp [same]
        rw [none, List.append_nil]
        constructor
        · rintro (here | ⟨held, _⟩)
          · exact absurd (congrArg key here.symm) same
          · exact held
        · exact fun held => Or.inr ⟨held, fun equal => same equal.symm⟩

/-- With keys apart, at most one element has a key, so its place among the others is lost. -/
theorem filter_perm {first second : List α} (perm : first.Perm second)
    (apart : (first.map key).Nodup) (k : κ) :
    first.filter (fun item => key item == k) = second.filter fun item => key item == k := by
  have kept := perm.filter fun item => key item == k
  cases filtered : first.filter fun item => key item == k with
  | nil =>
      rw [filtered] at kept
      exact kept.nil_eq
  | cons item rest =>
      have alone : rest = [] := by
        have sublist : (item :: rest).Sublist first := filtered ▸ List.filter_sublist
        have keys := List.nodup_cons.mp (apart.sublist (sublist.map key))
        rw [List.eq_nil_iff_forall_not_mem]
        intro other member
        have keyed (held : α) (inHeld : held ∈ item :: rest) : key held = k := by
          rw [← filtered] at inHeld
          exact beq_iff_eq.mp (List.mem_filter.mp inHeld).2
        apply keys.1
        rw [keyed item List.mem_cons_self, ← keyed other (List.mem_cons_of_mem _ member)]
        exact List.mem_map_of_mem member
      rw [filtered, alone] at kept
      rw [alone, List.singleton_perm.mp kept]

variable {fold : α -> α} (keeps : ∀ item, key (fold item) = key item)

include keeps in
omit [DecidableEq κ] in
theorem keys_map (items : List α) : (items.map fold).map key = items.map key := by
  rw [List.map_map]
  exact List.map_congr_left fun item _ => keeps item

include keeps in
theorem mem_map_filled (items : List α) (item : α) :
    item ∈ (filled key items).map fold ↔
      ((items.filter fun other => key other == key item).map fold).getLast? = some item := by
  rw [List.mem_map, List.getLast?_map, Option.map_eq_some_iff]
  constructor
  · rintro ⟨held, member, same⟩
    refine ⟨held, ?_, same⟩
    rw [← same, keeps]
    exact (mem_filled items held).mp member
  · rintro ⟨held, last, same⟩
    refine ⟨held, (mem_filled items held).mpr ?_, same⟩
    rw [← same, keeps] at last
    exact last

include keeps in
/-- What is held depends, but for places, on what was added for each key in turn. -/
theorem filled_perm {first second : List α}
    (alike : ∀ item, (first.filter fun other => key other == key item).map fold =
      (second.filter fun other => key other == key item).map fold) :
    ((filled key first).map fold).Perm ((filled key second).map fold) := by
  have apart (items : List α) : ((filled key items).map fold).Nodup := by
    apply List.Nodup.of_map key
    rw [keys_map keeps]
    exact filled_nodup items
  apply (List.perm_ext_iff_of_nodup (apart first) (apart second)).mpr
  intro item
  rw [mem_map_filled keeps, mem_map_filled keeps, alike item]

include keeps in
/-- Elements with keys apart may stand in any order, changed in whatever leaves their keys. -/
theorem map_filter_perm {first second : List α}
    (perm : (first.map fold).Perm (second.map fold)) (apart : (first.map key).Nodup) (k : κ) :
    (first.filter fun item => key item == k).map fold =
      (second.filter fun item => key item == k).map fold := by
  have folded (items : List α) : (items.filter fun item => key item == k).map fold =
      (items.map fold).filter fun item => key item == k := by
    simp only [List.filter_map, Function.comp_def, keeps]
  have keys : ((first.map fold).map key).Nodup := by
    rw [keys_map keeps]
    exact apart
  rw [folded, folded, filter_perm perm keys]

/-- The element of a key is found wherever it stands. -/
theorem find?_eq_some_iff_of_nodup {held : List α} (apart : (held.map key).Nodup) (k : κ)
    (item : α) :
    held.find? (fun other => key other == k) = some item ↔ item ∈ held ∧ key item = k := by
  constructor
  · intro found
    have here := @List.find?_some _ (fun other => key other == k) item held found
    exact ⟨List.mem_of_find?_eq_some found, beq_iff_eq.mp here⟩
  · rintro ⟨member, same⟩
    cases found : held.find? (fun other => key other == k) with
    | none => exact absurd (beq_iff_eq.mpr same) (List.find?_eq_none.mp found item member)
    | some other =>
        have here := @List.find?_some _ (fun other => key other == k) other held found
        have equal := List.inj_on_of_nodup_map apart (List.mem_of_find?_eq_some found) member
          ((beq_iff_eq.mp here).trans same.symm)
        rw [equal]

theorem find?_perm {first second : List α} (perm : first.Perm second)
    (apart : (first.map key).Nodup) (k : κ) :
    first.find? (fun other => key other == k) = second.find? (fun other => key other == k) := by
  have others : (second.map key).Nodup := (perm.map key).nodup_iff.mp apart
  apply Option.ext
  intro item
  rw [find?_eq_some_iff_of_nodup apart, find?_eq_some_iff_of_nodup others, perm.mem_iff]

end

/-! ## The tables of materials and textures -/

theorem TextureTable.addTexture_entries (textures : TextureTable) (name : String)
    (averageColor : Nat) :
    (textures.addTexture name averageColor).1.entries = textures.entries := by
  unfold addTexture
  split <;> rfl

/-- What a table of materials or textures is filled with. -/
inductive TableAddition where
  | material (name overlay : String)
  | texture (name : String) (averageColor : Nat)
  | entry (index : UInt8) (material texture : String)

/-- A table of materials, and one of textures and entries. -/
structure MaterialTables where
  materials : MaterialTable := {}
  textures : TextureTable := {}

namespace MaterialTables

/-- The tables after an addition.  What is refused leaves them as they are. -/
def add (tables : MaterialTables) : TableAddition -> MaterialTables
  | .material name overlay => { tables with materials := tables.materials.add name overlay }
  | .texture name averageColor =>
      { tables with textures := (tables.textures.addTexture name averageColor).1 }
  | .entry index material texture =>
      match tables.textures.addEntry index material texture with
      | .ok textures => { tables with textures := textures }
      | .error _ => tables

/-- The tables filled with some additions, one after another. -/
def of (additions : List TableAddition) : MaterialTables :=
  additions.foldl add {}

theorem of_concat (additions : List TableAddition) (last : TableAddition) :
    of (additions ++ [last]) = (of additions).add last :=
  List.foldl_concat _ _ _ _

/-- The resolver of the tables. -/
def resolver (tables : MaterialTables) : Resolver :=
  .ofTables tables.materials tables.textures

end MaterialTables

/-- What materials go by: their names up to case. -/
def Material.key (material : Material) : String :=
  Text.asciiLower material.name

namespace TableAddition

/-- The material that an addition is about. -/
def material? : TableAddition -> Option Material
  | .material name overlay => some ⟨name, overlay⟩
  | _ => none

/-- The entry that an addition is about, if its index is not that of the sky. -/
def entry? : TableAddition -> Option IndexEntry
  | .entry index name shown => if index = 0 then none else some ⟨index, name, shown⟩
  | _ => none

/-- What was added for a material, in turn. -/
def materialsNamed (name : String) (additions : List TableAddition) : List Material :=
  (additions.filterMap material?).filter fun material => material.key == Text.asciiLower name

/-- What was added for an index, in turn. -/
def entriesFor (index : UInt8) (additions : List TableAddition) : List IndexEntry :=
  (additions.filterMap entry?).filter fun entry => entry.index == index

end TableAddition

namespace MaterialTables

theorem materials_of (additions : List TableAddition) :
    (of additions).materials.materials =
      filled Material.key (additions.filterMap TableAddition.material?) := by
  induction additions using List.reverseRecOn with
  | nil => rfl
  | append_singleton additions last inductionHypothesis =>
      rw [of_concat, List.filterMap_append]
      cases last with
      | material name overlay =>
          have added : [TableAddition.material name overlay].filterMap TableAddition.material? =
              [⟨name, overlay⟩] := rfl
          rw [added, filled_concat, ← inductionHypothesis]
          rfl
      | texture name averageColor =>
          exact inductionHypothesis.trans (congrArg _ (List.append_nil _).symm)
      | entry index material texture =>
          simp only [add]
          split <;> exact inductionHypothesis.trans (congrArg _ (List.append_nil _).symm)

theorem entries_of (additions : List TableAddition) :
    (of additions).textures.entries =
      filled IndexEntry.index (additions.filterMap TableAddition.entry?) := by
  induction additions using List.reverseRecOn with
  | nil => rfl
  | append_singleton additions last inductionHypothesis =>
      rw [of_concat, List.filterMap_append]
      cases last with
      | material name overlay =>
          exact inductionHypothesis.trans (congrArg _ (List.append_nil _).symm)
      | texture name averageColor =>
          have same := (of additions).textures.addTexture_entries name averageColor
          exact same.trans (inductionHypothesis.trans (congrArg _ (List.append_nil _).symm))
      | entry index material texture =>
          by_cases sky : index = 0
          · simp only [add, TextureTable.addEntry, sky, if_true, List.filterMap_cons,
              TableAddition.entry?, List.filterMap_nil, List.append_nil, inductionHypothesis]
          · simp only [add, TextureTable.addEntry, sky, if_false, List.filterMap_cons,
              TableAddition.entry?, List.filterMap_nil, filled_concat, inductionHypothesis]

/-- No two materials of filled tables have one name, up to case. -/
theorem names_nodup (additions : List TableAddition) :
    ((of additions).materials.materials.map Material.key).Nodup := by
  rw [materials_of]
  exact filled_nodup _

end MaterialTables

/-! ## Additions that differ in order and case -/

/-- A material with its letters in lower case. -/
def Material.folded (material : Material) : Material :=
  ⟨Text.asciiLower material.name, Text.asciiLower material.overlay⟩

/-- An entry with its letters in lower case. -/
def IndexEntry.folded (entry : IndexEntry) : IndexEntry :=
  ⟨entry.index, Text.asciiLower entry.material, Text.asciiLower entry.texture⟩

/-- Additions that are the same up to case, in the same order, for each index and for each name of
a material.  The order among different ones is not told, nor is anything about textures. -/
structure AddAlike (first second : List TableAddition) : Prop where
  materials : ∀ name,
    (TableAddition.materialsNamed name first).map Material.folded =
      (TableAddition.materialsNamed name second).map Material.folded
  entries : ∀ index,
    (TableAddition.entriesFor index first).map IndexEntry.folded =
      (TableAddition.entriesFor index second).map IndexEntry.folded

theorem Material.key_folded (material : Material) : material.folded.key = material.key :=
  Text.asciiLower_asciiLower material.name

theorem IndexEntry.index_folded (entry : IndexEntry) : entry.folded.index = entry.index := rfl

/-- Additions for distinct names and distinct indexes may be made in any order. -/
theorem AddAlike.of_perm {first second : List TableAddition}
    (materials : ((first.filterMap TableAddition.material?).map Material.folded).Perm
      ((second.filterMap TableAddition.material?).map Material.folded))
    (entries : ((first.filterMap TableAddition.entry?).map IndexEntry.folded).Perm
      ((second.filterMap TableAddition.entry?).map IndexEntry.folded))
    (names : ((first.filterMap TableAddition.material?).map Material.key).Nodup)
    (indexes : ((first.filterMap TableAddition.entry?).map IndexEntry.index).Nodup) :
    AddAlike first second where
  materials name := map_filter_perm Material.key_folded materials names (Text.asciiLower name)
  entries index := map_filter_perm IndexEntry.index_folded entries indexes index

/-- Tables that hold the same materials and entries, up to case and in any order. -/
structure MaterialTables.Alike (first second : MaterialTables) : Prop where
  materials : (first.materials.materials.map Material.folded).Perm
    (second.materials.materials.map Material.folded)
  entries : (first.textures.entries.map IndexEntry.folded).Perm
    (second.textures.entries.map IndexEntry.folded)

theorem MaterialTables.of_alike {first second : List TableAddition}
    (alike : AddAlike first second) : Alike (of first) (of second) where
  materials := by
    rw [materials_of, materials_of]
    exact filled_perm Material.key_folded fun material => alike.materials material.name
  entries := by
    rw [entries_of, entries_of]
    exact filled_perm IndexEntry.index_folded fun entry => alike.entries entry.index

end Landform
