import Landform.Proofs.FilledTables
import Landform.Text.Ascii

namespace Landform

/-!
# What a material spec stands for

A resolver keeps two lists of indexes by names, made from entries in the order of their indexes,
and takes the first element of a name.  Here the index of a spec is told from the tables alone
(`MaterialTables.meant?`): the largest index of a material together with a texture, or for a bare
material that of its usual texture, and without it the smallest index of the material.

Nothing in that depends on the order of a table, since the largest and the smallest index of a
list stay what they are when it is permuted, nor on the case of the letters in it.  So resolvers
of tables that were filled alike resolve specs that differ in case alike.
-/

/-! ## Largest and smallest indexes -/

instance indexMax : Std.LawfulOrderMax UInt8 :=
  .of_max_le_iff
    (fun a b c => by
      simp only [Max.max]
      split <;> grind)
    (fun a b => by
      simp only [Max.max]
      split <;> simp)

instance indexMin : Std.LawfulOrderMin UInt8 :=
  .of_le_min_iff
    (fun a b c => by
      simp only [Min.min]
      split <;> grind)
    (fun a b => by
      simp only [Min.min]
      split <;> simp)

theorem max?_perm {first second : List UInt8} (perm : first.Perm second) :
    first.max? = second.max? := by
  apply Option.ext
  intro index
  simp only [List.max?_eq_some_iff, perm.mem_iff]

theorem min?_perm {first second : List UInt8} (perm : first.Perm second) :
    first.min? = second.min? := by
  apply Option.ext
  intro index
  simp only [List.min?_eq_some_iff, perm.mem_iff]

theorem head?_eq_max? {descending indexes : List UInt8} (perm : descending.Perm indexes)
    (sorted : descending.Pairwise fun a b => b ≤ a) : descending.head? = indexes.max? := by
  rw [← max?_perm perm]
  cases descending with
  | nil => rfl
  | cons first rest =>
      refine (List.max?_eq_some_iff.mpr ⟨List.mem_cons_self, fun index member => ?_⟩).symm
      rcases List.mem_cons.mp member with rfl | later
      · exact UInt8.le_refl index
      · exact List.rel_of_pairwise_cons sorted later

theorem head?_eq_min? {ascending indexes : List UInt8} (perm : ascending.Perm indexes)
    (sorted : ascending.Pairwise fun a b => a ≤ b) : ascending.head? = indexes.min? := by
  rw [← min?_perm perm]
  cases ascending with
  | nil => rfl
  | cons first rest =>
      refine (List.min?_eq_some_iff.mpr ⟨List.mem_cons_self, fun index member => ?_⟩).symm
      rcases List.mem_cons.mp member with rfl | later
      · exact UInt8.le_refl index
      · exact List.rel_of_pairwise_cons sorted later

/-! ## Lookups by a key -/

section

variable {α : Type u} {β : Type v} (key : α -> String)

theorem lookup_map (value : α -> β) (items : List α) (name : String) :
    (items.map fun item => (key item, value item)).lookup name =
      ((items.filter fun item => key item == name).map value).head? := by
  induction items with
  | nil => rfl
  | cons item rest inductionHypothesis =>
      by_cases here : key item = name
      · simp [here]
      · have other : ¬ name = key item := fun equal => here equal.symm
        simp only [List.map_cons, List.lookup_cons, beq_eq_false_iff_ne.mpr other,
          inductionHypothesis, List.filter_cons, beq_eq_false_iff_ne.mpr here,
          Bool.false_eq_true, if_false]

variable {key}

/-- What some elements have under their keys, when no two keys are the same. -/
theorem lookup_filterMap {items : List α} (apart : (items.map key).Nodup)
    (value : α -> Option β) (name : String) :
    (items.filterMap fun item => (value item).map fun found => (key item, found)).lookup name =
      (items.find? fun item => key item == name).bind value := by
  induction items with
  | nil => rfl
  | cons item rest inductionHypothesis =>
      rw [List.map_cons, List.nodup_cons] at apart
      have later := inductionHypothesis apart.2
      rw [List.filterMap_cons]
      by_cases here : key item = name
      -- If the element of a key has nothing, no other one stands in for it.
      · have absent : rest.find? (fun other => key other == name) = none := by
          rw [List.find?_eq_none]
          intro other member same
          exact apart.1 (here ▸ beq_iff_eq.mp same ▸ List.mem_map_of_mem member)
        rw [absent] at later
        rw [List.find?_cons_of_pos (by simp [here]), Option.bind_some]
        cases value item with
        | none => exact later
        | some found => simp [here]
      · have other : ¬ name = key item := fun equal => here equal.symm
        rw [List.find?_cons_of_neg (by simp [here]), ← later]
        cases value item with
        | none => rfl
        | some found =>
            simp only [Option.map_some, List.lookup_cons, beq_eq_false_iff_ne.mpr other]

end

/-! ## The meaning of names -/

namespace MaterialTables

/-- The indexes of the entries that pass a test. -/
def indexesWhere (tables : MaterialTables) (test : IndexEntry -> Bool) : List UInt8 :=
  (tables.textures.entries.filter test).map IndexEntry.index

/-- The largest index of a material together with a texture. -/
def pairIndex? (tables : MaterialTables) (name : String) : Option UInt8 :=
  (tables.indexesWhere fun entry => Resolver.pairKey entry.material entry.texture == name).max?

/-- The smallest index of a material. -/
def materialIndex? (tables : MaterialTables) (name : String) : Option UInt8 :=
  (tables.indexesWhere fun entry => Text.asciiLower entry.material == name).min?

/-- The largest index of a material together with the texture it usually shows, if it has one. -/
def overlayIndex? (tables : MaterialTables) (material : Material) : Option UInt8 :=
  if material.overlay.isEmpty then none
  else tables.pairIndex? (Resolver.pairKey material.name material.overlay)

/-- The index of the material of a name with its usual texture. -/
def usualIndex? (tables : MaterialTables) (name : String) : Option UInt8 :=
  (tables.materials.materials.find? fun material => material.key == name).bind
    tables.overlayIndex?

/-- The index that a name in lower case stands for. -/
def meant? (tables : MaterialTables) (name : String) : Option UInt8 :=
  if name = "sky" ∨ "sky-".toList <+: name.toList then some 0
  else if '-' ∈ name.toList then tables.pairIndex? name
  else (tables.usualIndex? name).or (tables.materialIndex? name)

variable (tables : MaterialTables)

/-- The entries in the order of their indexes. -/
def ascending : List IndexEntry :=
  tables.textures.entries.mergeSort fun a b => a.index ≤ b.index

theorem ascending_perm : tables.ascending.Perm tables.textures.entries :=
  List.mergeSort_perm _ _

theorem ascending_sorted : tables.ascending.Pairwise fun a b => a.index ≤ b.index := by
  have sorted := @List.pairwise_mergeSort _
    (fun a b : IndexEntry => decide (a.index ≤ b.index))
    (fun a b c below above => by grind) (fun a b => by grind) tables.textures.entries
  exact sorted.imp fun below => of_decide_eq_true below

theorem byPair_lookup (name : String) :
    tables.resolver.byPair.lookup name = tables.pairIndex? name := by
  have listed : tables.resolver.byPair = tables.ascending.reverse.map fun entry =>
      (Resolver.pairKey entry.material entry.texture, entry.index) :=
    (List.map_reverse).symm
  -- The list runs backwards, so the first element of a name is that of its largest index.
  rw [listed, lookup_map]
  apply head?_eq_max?
  · exact (((List.reverse_perm _).trans tables.ascending_perm).filter _).map _
  · rw [List.pairwise_map]
    exact (List.pairwise_reverse.mpr tables.ascending_sorted).filter _

theorem bySmallest_lookup (name : String) :
    (tables.ascending.map fun entry =>
        (Text.asciiLower entry.material, entry.index)).lookup name =
      tables.materialIndex? name := by
  rw [lookup_map]
  apply head?_eq_min?
  · exact (tables.ascending_perm.filter _).map _
  · rw [List.pairwise_map]
    exact tables.ascending_sorted.filter _

variable {tables} (apart : (tables.materials.materials.map Material.key).Nodup)

include apart in
theorem byMaterial_lookup (name : String) :
    tables.resolver.byMaterial.lookup name =
      (tables.usualIndex? name).or (tables.materialIndex? name) := by
  have listed : tables.resolver.byMaterial =
      (tables.materials.materials.reverse.filterMap fun material =>
        (tables.overlayIndex? material).map fun index => (material.key, index)) ++
      tables.ascending.map fun entry => (Text.asciiLower entry.material, entry.index) := by
    rw [List.filterMap_reverse]
    refine congrArg (fun entries => entries ++ _) (congrArg List.reverse ?_)
    refine List.filterMap_congr fun material _ => ?_
    by_cases bare : material.overlay.isEmpty
    · simp only [overlayIndex?, bare, if_true, Option.map_none]
    · simp only [overlayIndex?, bare, ← byPair_lookup]
      rfl
  have backwards : (tables.materials.materials.reverse.map Material.key).Nodup := by
    rw [List.map_reverse]
    exact List.nodup_reverse.mpr apart
  rw [listed, List.lookup_append, bySmallest_lookup, lookup_filterMap backwards,
    find?_perm (List.reverse_perm _) backwards]
  rfl

end MaterialTables

/-! ## Names with and without a texture -/

/-- A text starts with a word and a mark exactly if that word stands before its first mark. -/
theorem starts_iff {mark : Char} {word front : String} (unmarked : mark ∉ word.toList)
    (free : mark ∉ front.toList) (back : String) :
    (word ++ String.singleton mark).toList <+: (front ++ String.singleton mark ++ back).toList ↔
      front = word := by
  constructor
  · rintro ⟨rest, same⟩
    simp only [String.toList_append, String.toList_singleton, List.append_assoc,
      List.singleton_append] at same
    have parts := congrArg (cutAt mark) same
    rw [cutAt_append unmarked, cutAt_append free, Option.some.injEq, Prod.mk.injEq] at parts
    exact String.toList_injective parts.1.symm
  · rintro rfl
    exact ⟨back.toList, (String.toList_append).symm⟩

theorem dash_mem (front back : String) : '-' ∈ (front ++ "-" ++ back).toList := by
  simp

theorem dash_ne_sky (front back : String) : front ++ "-" ++ back ≠ skyName := by
  intro same
  have member := dash_mem front back
  rw [same] at member
  exact absurd member (by decide)

namespace Resolver

variable (resolver : Resolver) {spec : String}

theorem resolveIndex_of_mem {front back : String} (free : '-' ∉ front.toList)
    (named : Text.asciiLower (Text.trim spec) = front ++ "-" ++ back) :
    resolver.resolveIndex spec =
      if front = "sky" then some 0 else resolver.byPair.lookup (front ++ "-" ++ back) := by
  have other := dash_ne_sky front back
  have parts : splitOnce '-' (front ++ "-" ++ back) = some (front, back) :=
    splitOnce_append free back
  unfold resolveIndex
  simp only [named, beq_eq_false_iff_ne.mpr other, parts, Bool.false_eq_true, if_false,
    beq_iff_eq]
  rfl

theorem resolveIndex_of_not_mem (free : '-' ∉ (Text.asciiLower (Text.trim spec)).toList) :
    resolver.resolveIndex spec =
      if Text.asciiLower (Text.trim spec) = "sky" then some 0
      else resolver.byMaterial.lookup (Text.asciiLower (Text.trim spec)) := by
  unfold resolveIndex
  simp only [splitOnce_of_not_mem free, beq_iff_eq]
  rfl

end Resolver

namespace MaterialTables

variable (tables : MaterialTables)

theorem meant?_of_mem {front : String} (free : '-' ∉ front.toList) (back : String) :
    tables.meant? (front ++ "-" ++ back) =
      if front = "sky" then some 0 else tables.pairIndex? (front ++ "-" ++ back) := by
  have other : front ++ "-" ++ back ≠ "sky" := dash_ne_sky front back
  have starts : "sky-".toList <+: (front ++ "-" ++ back).toList ↔ front = "sky" := by
    have word : "sky-" = "sky" ++ String.singleton '-' := by decide
    rw [word]
    exact starts_iff (by decide) free back
  simp only [meant?, other, false_or, starts, dash_mem, if_true]

theorem meant?_of_not_mem {name : String} (free : '-' ∉ name.toList) :
    tables.meant? name =
      if name = "sky" then some 0
      else (tables.usualIndex? name).or (tables.materialIndex? name) := by
  have never : ¬ "sky-".toList <+: name.toList := fun starts => free (starts.subset (by decide))
  simp only [meant?, never, or_false, free, if_false]

/-- The index of a spec is what the tables say about it, trimmed and in lower case. -/
theorem resolveIndex_eq (apart : (tables.materials.materials.map Material.key).Nodup)
    (spec : String) :
    tables.resolver.resolveIndex spec = tables.meant? (Text.asciiLower (Text.trim spec)) := by
  by_cases dashed : '-' ∈ (Text.asciiLower (Text.trim spec)).toList
  · obtain ⟨front, back, named, free⟩ := exists_of_mem dashed
    rw [named]
    exact (Resolver.resolveIndex_of_mem _ free named).trans
      (by rw [byPair_lookup]; exact (tables.meant?_of_mem free back).symm)
  · rw [Resolver.resolveIndex_of_not_mem _ dashed, meant?_of_not_mem _ dashed,
      byMaterial_lookup apart]

end MaterialTables

/-! ## Specs up to case -/

namespace Text

theorem isBlank_toLower (c : Char) : isBlank c.toLower = isBlank c := by
  unfold isBlank
  rw [toLower_toNat]
  split
  · grind
  · rfl

theorem trim_asciiLower (s : String) : trim (asciiLower s) = asciiLower (trim s) := by
  have blank : isBlank ∘ Char.toLower = isBlank := funext isBlank_toLower
  simp only [trim, asciiLower, trimChars, String.toList_ofList, List.dropWhile_map, blank,
    List.map_reverse]
  rw [← List.map_reverse, List.dropWhile_map, blank]

theorem asciiLower_append (front back : String) :
    asciiLower (front ++ back) = asciiLower front ++ asciiLower back := by
  simp only [asciiLower, String.toList_append, List.map_append, String.ofList_append]

theorem isEmpty_asciiLower (s : String) : (asciiLower s).isEmpty = s.isEmpty := by
  rw [Bool.eq_iff_iff, String.isEmpty_iff, String.isEmpty_iff]
  simp [asciiLower]

/-- No other character becomes one that stands before the letters. -/
theorem toLower_eq_iff {mark : Char} (below : mark.toNat < 65) (c : Char) :
    c.toLower = mark ↔ c = mark := by
  rw [← Char.toNat_inj, ← Char.toNat_inj, toLower_toNat]
  split <;> omega

/-- Lower-casing neither makes characters before the letters nor takes them away. -/
theorem mark_mem_asciiLower {mark : Char} (below : mark.toNat < 65) (s : String) :
    mark ∈ (asciiLower s).toList ↔ mark ∈ s.toList := by
  rw [asciiLower, String.toList_ofList, List.mem_map]
  simp only [toLower_eq_iff below, exists_eq_right]

end Text

namespace Resolver

variable (resolver : Resolver)

theorem resolveIndex_asciiLower (spec : String) :
    resolver.resolveIndex (Text.asciiLower spec) = resolver.resolveIndex spec := by
  unfold resolveIndex
  rw [Text.trim_asciiLower, Text.asciiLower_asciiLower]

/-- Without a colon the background repeats the foreground. -/
theorem resolve_of_not_mem {spec : String} (free : ':' ∉ spec.toList) :
    resolver.resolve spec = (resolver.resolveIndex spec).map fun index => ⟨index, index⟩ := by
  unfold resolve
  rw [splitOnce_of_not_mem free]

/-- The first colon parts the foreground from the background. -/
theorem resolve_of_mem {front : String} (free : ':' ∉ front.toList) (back : String) :
    resolver.resolve (front ++ ":" ++ back) =
      (resolver.resolveIndex front).bind fun foreground =>
        (resolver.resolveIndex back).map fun background => ⟨foreground, background⟩ := by
  have parts : splitOnce ':' (front ++ ":" ++ back) = some (front, back) :=
    splitOnce_append free back
  simp only [resolve, parts]
  cases resolver.resolveIndex front <;> cases resolver.resolveIndex back <;> rfl

/-- Specs are resolved by their indexes alone. -/
theorem resolve_congr {first second : Resolver}
    (alike : ∀ spec, first.resolveIndex spec = second.resolveIndex spec) (spec : String) :
    first.resolve spec = second.resolve spec := by
  simp only [resolve, alike]

theorem resolve_asciiLower (spec : String) :
    resolver.resolve (Text.asciiLower spec) = resolver.resolve spec := by
  by_cases parted : ':' ∈ spec.toList
  · obtain ⟨front, back, cut, free⟩ := exists_of_mem parted
    have colon : String.singleton ':' = ":" := by decide
    have lower : Text.asciiLower ":" = ":" := by decide
    have unparted := mt (Text.mark_mem_asciiLower (by decide) front).mp free
    rw [cut, colon, Text.asciiLower_append, Text.asciiLower_append, lower,
      resolver.resolve_of_mem unparted, resolver.resolve_of_mem free,
      resolver.resolveIndex_asciiLower, resolver.resolveIndex_asciiLower]
  · rw [resolver.resolve_of_not_mem (mt (Text.mark_mem_asciiLower (by decide) spec).mp parted),
      resolver.resolveIndex_asciiLower, resolver.resolve_of_not_mem parted]

end Resolver

/-! ## Tables up to order and case -/

theorem Resolver.pairKey_asciiLower (material texture : String) :
    pairKey (Text.asciiLower material) (Text.asciiLower texture) = pairKey material texture := by
  rw [pairKey, Text.asciiLower_asciiLower, Text.asciiLower_asciiLower, ← pairKey]

namespace MaterialTables

/-- The indexes do not tell apart entries that differ in case, if the test does not. -/
theorem indexesWhere_folded (tables : MaterialTables) {test : IndexEntry -> Bool}
    (folds : ∀ entry, test entry.folded = test entry) :
    tables.indexesWhere test =
      ((tables.textures.entries.map IndexEntry.folded).filter test).map IndexEntry.index := by
  have same : test ∘ IndexEntry.folded = test := funext folds
  rw [indexesWhere, List.filter_map, same, List.map_map]
  rfl

theorem overlayIndex?_folded (tables : MaterialTables) (material : Material) :
    tables.overlayIndex? material.folded = tables.overlayIndex? material := by
  simp only [overlayIndex?, Material.folded, Text.isEmpty_asciiLower, Resolver.pairKey_asciiLower]

theorem usualIndex?_folded (tables : MaterialTables) (name : String) :
    tables.usualIndex? name =
      ((tables.materials.materials.map Material.folded).find? fun material =>
        material.key == name).bind tables.overlayIndex? := by
  simp only [usualIndex?, List.find?_map, Function.comp_def, Material.key_folded,
    Option.bind_map, overlayIndex?_folded]

variable {first second : MaterialTables}

namespace Alike

variable (alike : Alike first second)

include alike

theorem indexesWhere {test : IndexEntry -> Bool}
    (folds : ∀ entry, test entry.folded = test entry) :
    (first.indexesWhere test).Perm (second.indexesWhere test) := by
  rw [indexesWhere_folded first folds, indexesWhere_folded second folds]
  exact (alike.entries.filter test).map _

theorem pairIndex? (name : String) : first.pairIndex? name = second.pairIndex? name := by
  apply max?_perm
  apply alike.indexesWhere
  intro entry
  simp only [IndexEntry.folded, Resolver.pairKey_asciiLower]

theorem materialIndex? (name : String) :
    first.materialIndex? name = second.materialIndex? name := by
  apply min?_perm
  apply alike.indexesWhere
  intro entry
  simp only [IndexEntry.folded, Text.asciiLower_asciiLower]

theorem usualIndex? (apart : (first.materials.materials.map Material.key).Nodup)
    (name : String) : first.usualIndex? name = second.usualIndex? name := by
  have usual : first.overlayIndex? = second.overlayIndex? := by
    funext material
    simp only [MaterialTables.overlayIndex?, alike.pairIndex?]
  have keys : ((first.materials.materials.map Material.folded).map Material.key).Nodup := by
    rw [keys_map Material.key_folded]
    exact apart
  rw [usualIndex?_folded, usualIndex?_folded, usual, find?_perm alike.materials keys]

theorem meant? (apart : (first.materials.materials.map Material.key).Nodup) :
    first.meant? = second.meant? := by
  funext name
  simp only [MaterialTables.meant?, alike.pairIndex?, alike.materialIndex?,
    alike.usualIndex? apart]

end Alike

end MaterialTables

/-! ## Resolution by what was added -/

/-- How specs are resolved when names in lower case have a given meaning. -/
structure Resolver.Follows (resolver : Resolver) (meaning : String -> Option UInt8) : Prop where
  /-- Blanks around a spec and the case of its letters do not matter. -/
  index : ∀ spec, resolver.resolveIndex spec = meaning (Text.asciiLower (Text.trim spec))
  /-- Without a colon the background repeats the foreground. -/
  whole : ∀ spec, ':' ∉ spec.toList ->
    resolver.resolve spec = (resolver.resolveIndex spec).map fun index => ⟨index, index⟩
  /-- The first colon parts the foreground from the background. -/
  parted : ∀ front back, ':' ∉ front.toList ->
    resolver.resolve (front ++ ":" ++ back) =
      (resolver.resolveIndex front).bind fun foreground =>
        (resolver.resolveIndex back).map fun background => ⟨foreground, background⟩
  /-- A spec with a colon has no meaning exactly if one of its parts has none. -/
  fails : ∀ front back, ':' ∉ front.toList ->
    (resolver.resolve (front ++ ":" ++ back) = none ↔
      resolver.resolveIndex front = none ∨ resolver.resolveIndex back = none)

namespace MaterialTables

/-- Specs are resolved by what the tables hold, and neither the order of additions for different
keys nor the case of any letter makes a difference. -/
theorem specs_follow_additions (additions : List TableAddition) :
    (of additions).resolver.Follows (of additions).meant? ∧
      ∀ others, AddAlike additions others ->
        ∀ spec other, Text.sameName spec other = true ->
          (of additions).resolver.resolveIndex spec = (of others).resolver.resolveIndex other ∧
          (of additions).resolver.resolve spec = (of others).resolver.resolve other := by
  have byTables (given : List TableAddition) :=
    resolveIndex_eq (of given) (names_nodup given)
  refine ⟨⟨byTables additions, fun spec free => Resolver.resolve_of_not_mem _ free,
    fun front back free => Resolver.resolve_of_mem _ free back, ?_⟩, ?_⟩
  · intro front back free
    rw [Resolver.resolve_of_mem _ free]
    cases (of additions).resolver.resolveIndex front <;>
      cases (of additions).resolver.resolveIndex back <;> simp
  · intro others alike spec other same
    have meanings := (of_alike alike).meant? (names_nodup additions)
    have resolvers (spec : String) : (of additions).resolver.resolveIndex spec =
        (of others).resolver.resolveIndex spec := by
      rw [byTables additions, byTables others, meanings]
    have lower : Text.asciiLower spec = Text.asciiLower other := beq_iff_eq.mp same
    constructor
    · rw [resolvers, ← Resolver.resolveIndex_asciiLower, lower, Resolver.resolveIndex_asciiLower]
    · rw [← Resolver.resolve_asciiLower, lower, Resolver.resolve_asciiLower]
      exact Resolver.resolve_congr resolvers other

/-- Two materials, one with a usual texture that has two entries. -/
def earthAndGold : List TableAddition :=
  [.material "Earth" "Smooth", .material "Gold" "", .entry 9 "Earth" "Smooth",
    .entry 3 "Earth" "Rough", .entry 7 "Gold" "Ore", .entry 5 "Earth" "Smooth"]

/-- The same in another order and with other capitals. -/
def goldAndEarth : List TableAddition :=
  [.entry 5 "EARTH" "smooth", .entry 7 "gold" "ore", .material "gold" "",
    .entry 9 "earth" "SMOOTH", .material "earth" "smooth", .entry 3 "earth" "rough"]

theorem specs_follow_earthAndGold :
    AddAlike earthAndGold goldAndEarth ∧
      (of earthAndGold).resolver.resolveIndex " Earth " = some 9 ∧
      (of earthAndGold).resolver.resolveIndex "earth-rough" = some 3 ∧
      (of earthAndGold).resolver.resolve "Sky-Blue:GOLD" = some ⟨0, 7⟩ ∧
      (of earthAndGold).resolver.resolve "Gold:Sand" = none ∧
      (of goldAndEarth).resolver.resolve "SKY-blue:gold" = some ⟨0, 7⟩ := by
  have alike : AddAlike earthAndGold goldAndEarth :=
    .of_perm (by decide) (by decide) (by decide) (by decide)
  obtain ⟨follows, same⟩ := specs_follow_additions earthAndGold
  have sky : (of earthAndGold).resolver.resolveIndex "Sky-Blue" = some 0 :=
    (follows.index _).trans (by decide +kernel)
  have gold : (of earthAndGold).resolver.resolveIndex "GOLD" = some 7 :=
    (follows.index _).trans (by decide +kernel)
  have sand : (of earthAndGold).resolver.resolveIndex "Sand" = none :=
    (follows.index _).trans (by decide +kernel)
  have parted : (of earthAndGold).resolver.resolve "Sky-Blue:GOLD" = some ⟨0, 7⟩ :=
    (follows.parted "Sky-Blue" "GOLD" (by decide)).trans (by rw [sky, gold]; rfl)
  refine ⟨alike, (follows.index _).trans (by decide +kernel),
    (follows.index _).trans (by decide +kernel), parted,
    (follows.fails "Gold" "Sand" (by decide)).mpr (.inr sand), ?_⟩
  rw [← (same goldAndEarth alike "Sky-Blue:GOLD" "SKY-blue:gold" (by decide)).2, parted]

end MaterialTables

end Landform
