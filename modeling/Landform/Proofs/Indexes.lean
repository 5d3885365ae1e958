import Landform.Proofs.Linking
import Landform.Proofs.Painting

namespace Landform

/-!
# Which indexes a map shows

A raster may be asked to keep to some of the indexes.  The rule is a parameter, of which only
one thing is assumed: that it allows the sky, index 0.  If the tables give materials no other
indexes, then none comes into a map, however it is painted: no script can lay anything but
materials, and a description has nothing else to lay.
-/

variable {shown : UInt8 -> Prop}

/-! ## Rasters -/

namespace Raster

/-- A raster keeps to a rule about indexes. -/
def Shows (shown : UInt8 -> Prop) (raster : Raster) : Prop :=
  ∀ cell ∈ raster.cells, shown cell

theorem blank_shows (sky : shown 0) (width height : Nat) : (blank width height).Shows shown := by
  intro cell member
  rw [(Array.mem_replicate.mp member).2]
  exact sky

theorem set_shows {raster : Raster} (shows : raster.Shows shown) (x y : Int) {value : UInt8}
    (fits : shown value) : (raster.set x y value).Shows shown := by
  unfold set
  split
  · intro cell member
    rcases Array.mem_or_eq_of_mem_setIfInBounds member with old | new
    · exact shows cell old
    · rw [new]
      exact fits
  · exact shows

theorem paintWhere_shows {raster : Raster} (shows : raster.Shows shown)
    (test : Nat -> Nat -> Bool) {value : UInt8} (fits : shown value) :
    (raster.paintWhere test value).Shows shown := by
  intro cell member
  rcases Array.mem_mapIdx.mp member with ⟨position, inside, same⟩
  split at same
  · rw [← same]
    exact fits
  · rw [← same]
    exact shows _ (Array.getElem_mem inside)

theorem get?_shows {raster : Raster} (shows : raster.Shows shown) {x y : Int} {index : UInt8}
    (read : raster.get? x y = some index) : shown index := by
  unfold get? at read
  split at read
  · exact shows index (Array.mem_of_getElem? read)
  · cases read

theorem resize_shows (sky : shown 0) {raster : Raster} (shows : raster.Shows shown)
    (width height : Nat) : (raster.resize width height).Shows shown := by
  intro cell member
  rcases Array.mem_ofFn.mp member with ⟨position, same⟩
  rw [← same]
  cases read : raster.get? (position.val % width : Nat) (position.val / width : Nat) with
  | none =>
      simp only [read]
      exact sky
  | some index =>
      simp only [read]
      exact get?_shows shows read

end Raster

/-! ## Materials -/

/-- Both indexes of a material keep to a rule. -/
def MaterialPair.Shows (shown : UInt8 -> Prop) (material : MaterialPair) : Prop :=
  shown material.foreground ∧ shown material.background

/-- The index of the sky, and those of the entries of a table. -/
def TextureTable.Shown (textures : TextureTable) (index : UInt8) : Prop :=
  index = 0 ∨ Exists fun entry => entry ∈ textures.entries ∧ entry.index = index

namespace Resolver

/-- All materials that a resolver knows keep to a rule. -/
def Lays (shown : UInt8 -> Prop) (resolver : Resolver) : Prop :=
  ∀ spec material, resolver.resolve spec = some material -> material.Shows shown

theorem resolveIndex_shown {resolver : Resolver} (sky : shown 0)
    (byPair : ∀ pair ∈ resolver.byPair, shown pair.2)
    (byMaterial : ∀ pair ∈ resolver.byMaterial, shown pair.2) {spec : String} {index : UInt8}
    (resolved : resolver.resolveIndex spec = some index) : shown index := by
  simp only [resolveIndex] at resolved
  split at resolved
  · cases resolved
    exact sky
  · split at resolved
    · split at resolved
      · cases resolved
        exact sky
      · exact byPair _ (mem_of_lookup resolved)
    · exact byMaterial _ (mem_of_lookup resolved)

theorem lays_of_indexes {resolver : Resolver}
    (indexes : ∀ spec index, resolver.resolveIndex spec = some index -> shown index) :
    resolver.Lays shown := by
  intro spec material resolved
  unfold resolve at resolved
  split at resolved
  · rcases Option.map_eq_some_iff.mp resolved with ⟨index, found, same⟩
    rw [← same]
    exact ⟨indexes _ index found, indexes _ index found⟩
  · split at resolved
    · rename_i front back
      cases resolved
      exact ⟨indexes _ _ front, indexes _ _ back⟩
    · cases resolved

/-- A resolver knows no other indexes than its tables and the sky. -/
theorem ofTables_lays (materials : MaterialTable) (textures : TextureTable) :
    (ofTables materials textures).Lays textures.Shown := by
  have entry : ∀ entry ∈ textures.entries.mergeSort (fun a b => a.index ≤ b.index),
      textures.Shown entry.index :=
    fun entry member => Or.inr ⟨entry, List.mem_mergeSort.mp member, rfl⟩
  have byPair : ∀ pair ∈ (ofTables materials textures).byPair, textures.Shown pair.2 := by
    intro pair member
    rcases List.mem_map.mp (List.mem_reverse.mp member) with ⟨item, inside, same⟩
    rw [← same]
    exact entry item inside
  have byMaterial : ∀ pair ∈ (ofTables materials textures).byMaterial,
      textures.Shown pair.2 := by
    intro pair member
    rcases List.mem_append.mp member with overlay | smallest
    · rcases List.mem_filterMap.mp (List.mem_reverse.mp overlay) with ⟨material, _, given⟩
      split at given
      · cases given
      · rcases Option.map_eq_some_iff.mp given with ⟨index, found, same⟩
        rw [← same]
        exact byPair (pairKey material.name material.overlay, index) (mem_of_lookup found)
    · rcases List.mem_map.mp smallest with ⟨item, inside, same⟩
      rw [← same]
      exact entry item inside
  exact lays_of_indexes fun _ _ => resolveIndex_shown (Or.inl rfl) byPair byMaterial

end Resolver

/-! ## Sheets -/

namespace Sheet

/-- Both rasters of a sheet keep to a rule. -/
def Shows (shown : UInt8 -> Prop) (sheet : Sheet) : Prop :=
  sheet.foreground.Shows shown ∧ sheet.background.Shows shown

section

variable {resolver : Resolver} (lays : resolver.Lays shown) {sheet : Sheet}
variable (shows : sheet.Shows shown)

include lays shows in
theorem draw_shows (spec : String) : (sheet.draw resolver spec).sheet.Shows shown := by
  unfold draw
  cases resolved : resolver.resolve spec with
  | none => exact shows
  | some material =>
      have fits := lays spec material resolved
      exact ⟨Raster.paintWhere_shows shows.1 _ fits.1, Raster.paintWhere_shows shows.2 _ fits.2⟩

include lays shows in
theorem drawShape_shows (spec : String) (shape : Shape) :
    (sheet.drawShape resolver spec shape).sheet.Shows shown := by
  unfold drawShape
  cases resolved : resolver.resolve spec with
  | none => exact shows
  | some material =>
      have fits := lays spec material resolved
      exact ⟨Raster.paintWhere_shows shows.1 _ fits.1, Raster.paintWhere_shows shows.2 _ fits.2⟩

include lays shows in
theorem setPixel_shows (x y : Int) (spec : String) :
    (sheet.setPixel resolver x y spec).sheet.Shows shown := by
  unfold setPixel
  cases resolved : resolver.resolve spec with
  | none => exact shows
  | some material =>
      have fits := lays spec material resolved
      exact ⟨Raster.set_shows shows.1 x y fits.1, Raster.set_shows shows.2 x y fits.2⟩

include lays shows in
/-- Whatever is asked of a sheet, it keeps to the rule. -/
theorem serve_shows (sky : shown 0) (request : Request) :
    (sheet.serve resolver request).sheet.Shows shown := by
  cases request with
  | width | height => exact shows
  | pixel x y | backPixel x y => exact shows
  | resize width height =>
      simp only [serve]
      cases asked : sheet.resize width height with
      | error refusal => exact shows
      | ok resized =>
          rw [resize_eq asked]
          exact ⟨Raster.resize_shows sky shows.1 _ _, Raster.resize_shows sky shows.2 _ _⟩
  | draw spec => exact draw_shows lays shows spec
  | drawShape spec properties =>
      simp only [serve]
      cases asked : Shape.ofProperties sheet (fun name => properties.lookup name) with
      | error refusal => exact shows
      | ok shape => exact drawShape_shows lays shows spec shape
  | setPixel x y spec => exact setPixel_shows lays shows x y spec

end

end Sheet

/-- A sheet keeps to a rule, and so do the materials that can be laid on it. -/
def Script.MountedSheet.Shows (shown : UInt8 -> Prop) (mounted : Script.MountedSheet) : Prop :=
  mounted.resolver.Lays shown ∧ mounted.sheet.Shows shown

/-! ## Painted maps -/

namespace Landscape

section

variable {σ : Type u} (host : ScriptHost σ) {resolver : Resolver} (lays : resolver.Lays shown)

include lays in
theorem material_shows (attributes : Attributes) {material : MaterialPair}
    (laid : attributes.materialSpec.bind resolver.resolve = some material) :
    material.Shows shown := by
  rcases Option.bind_eq_some_iff.mp laid with ⟨spec, _, resolved⟩
  exact lays spec material resolved

include lays in
theorem laidOver_shows (attributes : Attributes) {below : MaterialPair}
    (shows : below.Shows shown) :
    (laidOver attributes.mask (attributes.materialSpec.bind resolver.resolve) below).Shows
      shown := by
  unfold laidOver
  split
  · exact shows
  · cases laid : attributes.materialSpec.bind resolver.resolve with
    | none => exact shows
    | some material => exact material_shows lays attributes laid

include lays in
theorem baseMaterial_shows (sky : shown 0) (map : Node) :
    (baseMaterial resolver map).Shows shown := by
  unfold baseMaterial
  cases laid : map.attributes.materialSpec.bind resolver.resolve with
  | none => exact ⟨sky, sky⟩
  | some material => exact material_shows lays map.attributes laid

mutual

theorem layerPaint_shows (lays : resolver.Lays shown) (area : Area) (x y : Int) :
    ∀ (node : Node) (below : MaterialPair) (state : σ), below.Shows shown ->
      (Layer.paint host x y (Layer.ofNode resolver area node) (below, state)).1.Shows shown
  | .mk header attributes children, below, state, shows => by
      simp only [Layer.ofNode, Layer.paint]
      split
      · split
        · exact layersPaint_shows lays area x y children _ _ (laidOver_shows lays attributes shows)
        · exact shows
      · exact shows

theorem layersPaint_shows (lays : resolver.Lays shown) (area : Area) (x y : Int) :
    ∀ (nodes : List Node) (below : MaterialPair) (state : σ), below.Shows shown ->
      (Layer.paintAll host x y (Layer.ofNodes resolver area nodes) (below, state)).1.Shows shown
  | [], _, _, shows => shows
  | .mk header attributes children :: rest, below, state, shows => by
      have here := layerPaint_shows lays (area.inside attributes) x y
        (.mk header attributes children) below state shows
      rw [Layer.ofNodes, Layer.paintAll]
      exact layersPaint_shows lays area x y rest _ _ here

end

include lays in
/-- A painted map keeps to the rule, whatever its host answers. -/
theorem paint_shows (sky : shown 0) (map : Node) (width height : Nat) (state : σ) :
    (paint host resolver map width height state).foreground.Shows shown ∧
      (paint host resolver map width height state).background.Shows shown := by
  let kept : Canvas σ -> Prop := fun canvas =>
    canvas.foreground.Shows shown ∧ canvas.background.Shows shown
  have start : kept ⟨Raster.blank width height, Raster.blank width height, state⟩ :=
    ⟨Raster.blank_shows sky width height, Raster.blank_shows sky width height⟩
  refine paintRows_keep host kept ?_ width height start
  rintro ⟨foreground, background, now⟩ x y shows
  rcases map with ⟨header, attributes, children⟩
  have point := layersPaint_shows host lays (mapArea width height) x y children
    (baseMaterial resolver (.mk header attributes children)) now
    (baseMaterial_shows lays sky (.mk header attributes children))
  exact ⟨Raster.set_shows shows.1 x y point.1, Raster.set_shows shows.2 x y point.2⟩

end

end Landscape

end Landform
