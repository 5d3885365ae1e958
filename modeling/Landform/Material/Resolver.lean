import Landform.Material.Table

namespace Landform

/-!
Resolution of material specs.  A spec names a material, `Mat`, or a material with one of
its textures, `Mat-tex`; two specs joined by a colon give the foreground and the
background separately.  Names are compared up to the case of ASCII letters and without
the blanks around them; the material `sky` is always index 0.

A bare material stands for the entry of its usual texture if there is one, and else for
its entry of smallest index.  Of several entries for one material and texture the one of
largest index is meant.
-/

/-- The indexes of the two layers a spec stands for. -/
structure MaterialPair where
  foreground : UInt8
  background : UInt8
  deriving DecidableEq, Inhabited

/-- Indexes by lower-cased `material-texture` and by lower-cased material. -/
structure Resolver where
  byPair : List (String × UInt8)
  byMaterial : List (String × UInt8)
  deriving Inhabited

/-- The name whose index is always 0. -/
def skyName : String := "sky"

/-- Cuts a character list at the first occurrence of a character, which is dropped. -/
def cutAt (mark : Char) : List Char -> Option (List Char × List Char)
  | [] => none
  | c :: rest =>
      if c == mark then some ([], rest)
      else (cutAt mark rest).map fun parts => (c :: parts.1, parts.2)

theorem cutAt_append {mark : Char} {front : List Char} (free : mark ∉ front)
    (back : List Char) : cutAt mark (front ++ mark :: back) = some (front, back) := by
  induction front with
  | nil => simp [cutAt]
  | cons c rest inductionHypothesis =>
      have other : c ≠ mark := fun same => free (same ▸ List.mem_cons_self)
      have later := inductionHypothesis fun member => free (List.mem_cons_of_mem c member)
      simp [cutAt, other, later]

theorem cutAt_of_not_mem {mark : Char} {cs : List Char} (free : mark ∉ cs) :
    cutAt mark cs = none := by
  induction cs with
  | nil => rfl
  | cons c rest inductionHypothesis =>
      have other : c ≠ mark := fun same => free (same ▸ List.mem_cons_self)
      have later := inductionHypothesis fun member => free (List.mem_cons_of_mem c member)
      simp [cutAt, other, later]

/-- Cuts a text at the first occurrence of a character, which is dropped. -/
def splitOnce (mark : Char) (s : String) : Option (String × String) :=
  (cutAt mark s.toList).map fun parts => (String.ofList parts.1, String.ofList parts.2)

theorem splitOnce_append {mark : Char} {front : String} (free : mark ∉ front.toList)
    (back : String) :
    splitOnce mark (front ++ String.singleton mark ++ back) = some (front, back) := by
  rw [splitOnce, String.toList_append, String.toList_append, String.toList_singleton,
    List.append_assoc, List.singleton_append, cutAt_append free, Option.map_some,
    String.ofList_toList, String.ofList_toList]

/-- A text in which a character occurs is cut by it in one way. -/
theorem exists_of_mem {mark : Char} {s : String} (member : mark ∈ s.toList) :
    Exists fun front : String => Exists fun back : String =>
      s = front ++ String.singleton mark ++ back ∧ mark ∉ front.toList := by
  obtain ⟨front, back, cut, free⟩ := List.eq_append_cons_of_mem member
  refine ⟨String.ofList front, String.ofList back, ?_, by rwa [String.toList_ofList]⟩
  apply String.toList_injective
  simp only [cut, String.toList_append, String.toList_ofList, String.toList_singleton,
    List.append_assoc, List.singleton_append]

theorem splitOnce_of_not_mem {mark : Char} {s : String} (free : mark ∉ s.toList) :
    splitOnce mark s = none := by
  rw [splitOnce, cutAt_of_not_mem free, Option.map_none]

namespace Resolver

/-- The key of a material together with a texture. -/
def pairKey (material texture : String) : String :=
  Text.asciiLower material ++ "-" ++ Text.asciiLower texture

theorem mem_of_lookup {key : String} {index : UInt8} {pairs : List (String × UInt8)}
    (found : pairs.lookup key = some index) : (key, index) ∈ pairs := by
  rcases List.lookup_eq_some_iff.mp found with ⟨front, back, split, _⟩
  rw [split]
  exact List.mem_append_right front List.mem_cons_self

/-- The resolver of the given tables. -/
def ofTables (materials : MaterialTable) (textures : TextureTable) : Resolver :=
  let ascending := textures.entries.mergeSort fun a b => a.index ≤ b.index
  let byPair :=
    (ascending.map fun entry => (pairKey entry.material entry.texture, entry.index)).reverse
  let bySmallest :=
    ascending.map fun entry => (Text.asciiLower entry.material, entry.index)
  let byOverlay :=
    materials.materials.filterMap fun material =>
      if material.overlay.isEmpty then none
      else
        (byPair.lookup (pairKey material.name material.overlay)).map fun index =>
          (Text.asciiLower material.name, index)
  { byPair := byPair, byMaterial := byOverlay.reverse ++ bySmallest }

/-- The index a spec without a colon stands for. -/
def resolveIndex (resolver : Resolver) (spec : String) : Option UInt8 :=
  let name := Text.asciiLower (Text.trim spec)
  if name == skyName then some 0
  else
    match splitOnce '-' name with
    | some (material, _) =>
        if material == skyName then some 0 else resolver.byPair.lookup name
    | none => resolver.byMaterial.lookup name

/-- The indexes a spec stands for; without a colon the background repeats the foreground. -/
def resolve (resolver : Resolver) (spec : String) : Option MaterialPair :=
  match splitOnce ':' spec with
  | none => (resolver.resolveIndex spec).map fun index => ⟨index, index⟩
  | some (front, back) =>
      match resolver.resolveIndex front, resolver.resolveIndex back with
      | some foreground, some background => some ⟨foreground, background⟩
      | _, _ => none

end Resolver

end Landform
