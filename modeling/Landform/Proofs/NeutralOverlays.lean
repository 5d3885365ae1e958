import Landform.Proofs.Questions
import Mathlib.Data.List.Basic

namespace Landform
namespace Landscape

/-!
# Overlays that change nothing

An overlay may be put around overlays that stand side by side without any change to the map, if
it is solid, takes up all of the area around it, lays no material and does not invert.  It may be
a mask or not, and have any name.  The blocks inside of it are then painted just where they were
painted before, and in the same order, so a host is asked the same questions too.

All depends on the area.  A part of an extent is taken in percent with products that stop at the
ends of 64 bits, so a hundred percent of an extent need not be the extent.  It is, however, for
every area that can come up on a map whose sides are of 32 bits: each part was divided by a
hundred (`inside_isPlaced`).
-/

open Number (int64)

/-! ## Areas -/

namespace Area

/-- The corner of an area lies in the range of coordinates, and a hundred times its extent too. -/
structure IsPlaced (area : Area) : Prop where
  column : int64.contains area.x = true
  row : int64.contains area.y = true
  width : 0 ≤ area.width ∧ area.width * 100 ≤ int64.high
  height : 0 ≤ area.height ∧ area.height * 100 ≤ int64.high

theorem percentOf_none (extent : Int) : percentOf extent 0 = 0 := by
  rw [percentOf, Int.mul_zero]
  rfl

theorem percentOf_whole {extent : Int} (least : 0 ≤ extent)
    (most : extent * 100 ≤ int64.high) : percentOf extent 100 = extent := by
  have low : int64.low ≤ extent * 100 := Int.le_trans (by decide) (Int.mul_nonneg least (by decide))
  rw [percentOf, int64.saturate_of_mem low most, Int.mul_tdiv_cancel extent (by decide)]

/-- Beyond that range a hundred percent of an extent is less than the extent. -/
example : percentOf 92233720368547759 100 = 92233720368547758 := by decide

theorem percentOf_isPlaced (extent percent : Int) :
    0 ≤ max (percentOf extent percent) 0 ∧
      max (percentOf extent percent) 0 * 100 ≤ int64.high := by
  have most := (int64.saturate_mem (extent * percent)).2
  have high : int64.high = 9223372036854775807 := rfl
  have sign : Int.sign 100 = 1 := rfl
  rw [high] at most ⊢
  rw [percentOf, Int.tdiv_eq_ediv, sign]
  split <;> omega

/-- The areas of overlays are placed, whatever they are in. -/
theorem inside_isPlaced (area : Area) (attributes : Attributes) :
    (area.inside attributes).IsPlaced where
  column := (int64.contains_iff _).mpr (int64.saturate_mem _)
  row := (int64.contains_iff _).mpr (int64.saturate_mem _)
  width := percentOf_isPlaced _ _
  height := percentOf_isPlaced _ _

theorem mapArea_isPlaced {width height : Nat} (wide : width ≤ 4294967295)
    (high : height ≤ 4294967295) : (mapArea width height).IsPlaced := by
  have most : int64.high = 9223372036854775807 := rfl
  refine ⟨rfl, rfl, ?_, ?_⟩ <;>
    · simp only [mapArea, most]
      omega

theorem mapArea_contains {size point : Nat × Nat} (placed : (mapArea size.1 size.2).IsPlaced)
    (inside : point ∈ pointsOf size) :
    (mapArea size.1 size.2).contains point.1 point.2 = true := by
  rcases mem_pointsOf.mp inside with ⟨inWidth, inHeight⟩
  have ends {extent : Nat} (most : (extent : Int) * 100 ≤ int64.high) :
      int64.saturate (0 + extent) = extent := by
    have low : int64.low ≤ 0 := by decide
    rw [Int.zero_add]
    exact int64.saturate_of_mem (by omega) (by omega)
  rw [contains, Bool.and_eq_true, Bool.and_eq_true, Bool.and_eq_true]
  refine ⟨⟨⟨decide_eq_true (Int.natCast_nonneg _), decide_eq_true (Int.natCast_nonneg _)⟩,
    decide_eq_true ?_⟩, decide_eq_true ?_⟩
  · exact lt_of_lt_of_eq (Int.ofNat_lt.mpr inWidth) (ends placed.width.2).symm
  · exact lt_of_lt_of_eq (Int.ofNat_lt.mpr inHeight) (ends placed.height.2).symm

end Area

/-! ## Overlays around other overlays -/

/-- The settings of an overlay that is solid, takes up all of the area around it, lays nothing
and does not invert. -/
structure Attributes.IsNeutral (attributes : Attributes) : Prop where
  solid : attributes.pattern = .solid
  column : attributes.x = 0
  row : attributes.y = 0
  width : attributes.width = 100
  height : attributes.height = 100
  bare : attributes.material = none
  upright : attributes.invert = false

/-- An overlay without any setting is neutral, and so is one that is only said to be a mask. -/
theorem isNeutral_default (mask : Bool) : ({ mask := mask } : Attributes).IsNeutral :=
  ⟨rfl, rfl, rfl, rfl, rfl, rfl, rfl⟩

/-- A block, and the same block with a neutral overlay around some overlays that stand side by
side, in the block itself or anywhere inside of it. -/
inductive Wraps : Node -> Node -> Prop where
  | here {header wrapper : NodeHeader} {attributes settings : Attributes}
      {front wrapped back : List Node} (neutral : settings.IsNeutral) :
      Wraps (.mk header attributes (front ++ wrapped ++ back))
        (.mk header attributes (front ++ .mk wrapper settings wrapped :: back))
  | inside {header : NodeHeader} {attributes : Attributes} {front back : List Node}
      {node other : Node} (wraps : Wraps node other) :
      Wraps (.mk header attributes (front ++ node :: back))
        (.mk header attributes (front ++ other :: back))

theorem Wraps.head {node other : Node} (wraps : Wraps node other) :
    other.header = node.header ∧ other.attributes = node.attributes := by
  cases wraps <;> exact ⟨rfl, rfl⟩

/-- The area inside of a neutral overlay is the area around it. -/
theorem inside_of_neutral {area : Area} (placed : area.IsPlaced) {attributes : Attributes}
    (neutral : attributes.IsNeutral) : area.inside attributes = area := by
  rcases placed with ⟨column, row, ⟨wide, widest⟩, high, highest⟩
  rcases (int64.contains_iff _).mp column with ⟨left, right⟩
  rcases (int64.contains_iff _).mp row with ⟨top, bottom⟩
  rw [Area.inside, neutral.column, neutral.row, neutral.width, neutral.height,
    Area.percentOf_none, Area.percentOf_none, Area.percentOf_whole wide widest,
    Area.percentOf_whole high highest, Int.add_zero, Int.add_zero,
    int64.saturate_of_mem left right, int64.saturate_of_mem top bottom,
    Int.max_eq_left wide, Int.max_eq_left high]

/-! ## Painting a point -/

theorem ofNodes_append (resolver : Resolver) (area : Area) (first second : List Node) :
    Layer.ofNodes resolver area (first ++ second) =
      Layer.ofNodes resolver area first ++ Layer.ofNodes resolver area second := by
  induction first with
  | nil => rfl
  | cons node rest inductionHypothesis =>
      rw [List.cons_append, ofNodes_cons, ofNodes_cons, inductionHypothesis, List.cons_append]

section

variable {σ : Type u} (host : ScriptHost σ) (resolver : Resolver) {x y : Int}

theorem paintAll_append (first second : List Layer) (shown : MaterialPair × σ) :
    Layer.paintAll host x y (first ++ second) shown =
      Layer.paintAll host x y second (Layer.paintAll host x y first shown) := by
  induction first generalizing shown with
  | nil => rfl
  | cons layer rest inductionHypothesis => exact inductionHypothesis _

/-- A neutral overlay paints what is inside of it. -/
theorem paint_of_neutral {area : Area} (contained : area.contains x y = true)
    {attributes : Attributes} (neutral : attributes.IsNeutral) (header : NodeHeader)
    (children : List Node) (shown : MaterialPair × σ) :
    Layer.paint host x y (Layer.ofNode resolver area (.mk header attributes children)) shown =
      Layer.paintAll host x y (Layer.ofNodes resolver area children) shown := by
  rcases shown with ⟨below, state⟩
  have covered : coversPoint host (.mk header attributes children) area x y state =
      (true, state) := by
    simp only [coversPoint, Node.attributes, neutral.solid, neutral.upright]
    rfl
  have unlaid : laidOver attributes.mask (attributes.materialSpec.bind resolver.resolve) below =
      below := by
    rw [Attributes.materialSpec, neutral.bare]
    exact ite_self below
  rw [ofNode_eq, paint_inside contained covered, if_pos rfl]
  exact congrArg (fun laid => Layer.paintAll host x y _ (laid, state)) unlaid

theorem coversPoint_congr {node other : Node}
    (head : other.header = node.header ∧ other.attributes = node.attributes) (area : Area)
    (state : σ) :
    coversPoint host other area x y state = coversPoint host node area x y state := by
  simp only [coversPoint, Node.scriptFunction, head.1, head.2]

/-- What a block does to a point depends on whether it covers the point, on what it lays, and on
what the blocks inside of it do to the point if its area contains it. -/
theorem paint_congr {area : Area} {node other : Node}
    (covers : ∀ state, coversPoint host other area x y state = coversPoint host node area x y state)
    (lays : other.attributes.mask = node.attributes.mask ∧
      other.attributes.materialSpec = node.attributes.materialSpec)
    (inside : area.contains x y = true -> ∀ shown,
      Layer.paintAll host x y (Layer.ofNodes resolver area other.children) shown =
        Layer.paintAll host x y (Layer.ofNodes resolver area node.children) shown)
    (shown : MaterialPair × σ) :
    Layer.paint host x y (Layer.ofNode resolver area other) shown =
      Layer.paint host x y (Layer.ofNode resolver area node) shown := by
  rcases shown with ⟨below, state⟩
  rw [ofNode_eq, ofNode_eq]
  cases contained : area.contains x y with
  | false => rw [paint_outside host contained, paint_outside host contained]
  | true =>
      rcases asked : coversPoint host node area x y state with ⟨covered, next⟩
      rw [paint_inside contained ((covers state).trans asked), paint_inside contained asked,
        lays.1, lays.2, inside contained]

/-- A neutral overlay around overlays of a block changes nothing at the points in the area of the
block. -/
theorem paintAll_wraps {node other : Node} (wraps : Wraps node other) {area : Area}
    (placed : area.IsPlaced) (contained : area.contains x y = true) (shown : MaterialPair × σ) :
    Layer.paintAll host x y (Layer.ofNodes resolver area other.children) shown =
      Layer.paintAll host x y (Layer.ofNodes resolver area node.children) shown := by
  induction wraps generalizing area shown with
  | @here header wrapper attributes settings front wrapped back neutral =>
      simp only [Node.children, ofNodes_append, ofNodes_cons, paintAll_append, Layer.paintAll]
      rw [show (Node.mk wrapper settings wrapped).attributes = settings from rfl,
        inside_of_neutral placed neutral, paint_of_neutral host resolver contained neutral]
  | @inside header attributes front back node other wraps inductionHypothesis =>
      simp only [Node.children, ofNodes_append, ofNodes_cons, paintAll_append, Layer.paintAll]
      have lays : other.attributes.mask = node.attributes.mask ∧
          other.attributes.materialSpec = node.attributes.materialSpec := by
        rw [wraps.head.2]
        exact ⟨rfl, rfl⟩
      rw [wraps.head.2, paint_congr host resolver (coversPoint_congr host wraps.head _) lays
        fun inner shown =>
          inductionHypothesis (area.inside_isPlaced node.attributes) inner shown]

end

/-! ## Reports -/

theorem preorderAll_append (first second : List Node) :
    Node.preorderAll (first ++ second) = Node.preorderAll first ++ Node.preorderAll second := by
  induction first with
  | nil => rfl
  | cons node rest inductionHypothesis =>
      rw [List.cons_append, Node.preorderAll, inductionHypothesis, Node.preorderAll,
        List.append_assoc]

/-- A neutral overlay is not reported, and the reports on other blocks stay where they were. -/
theorem unknownMaterials_wraps (resolver : Resolver) {node other : Node}
    (wraps : Wraps node other) :
    unknownMaterials resolver other = unknownMaterials resolver node := by
  induction wraps with
  | @here header wrapper attributes settings front wrapped back neutral =>
      have silent : unknownMaterial? resolver (.mk wrapper settings wrapped) = none := by
        simp only [unknownMaterial?, Node.attributes, Attributes.materialSpec, neutral.bare,
          Option.map_none]
      have alike : unknownMaterial? resolver
          (.mk header attributes (front ++ .mk wrapper settings wrapped :: back)) =
            unknownMaterial? resolver (.mk header attributes (front ++ wrapped ++ back)) := rfl
      simp only [unknownMaterials, Node.preorder, Node.preorderAll, preorderAll_append,
        List.filterMap_append, List.filterMap_cons, alike, silent, List.append_assoc]
  | @inside header attributes front back node other wraps inductionHypothesis =>
      have alike : unknownMaterial? resolver (.mk header attributes (front ++ other :: back)) =
          unknownMaterial? resolver (.mk header attributes (front ++ node :: back)) := rfl
      simp only [unknownMaterials] at inductionHypothesis
      simp only [unknownMaterials, Node.preorder, Node.preorderAll, preorderAll_append,
        List.filterMap_append, List.filterMap_cons, alike, inductionHypothesis]

/-! ## Maps -/

section

variable {σ : Type u} (host : ScriptHost σ) (resolver : Resolver) {map wrapped : Node}

/-- A neutral overlay around overlays of a map changes nothing at any of its points. -/
theorem paint_wraps (wraps : Wraps map wrapped) {size : Nat × Nat}
    (placed : (mapArea size.1 size.2).IsPlaced) (state : σ) :
    paint host resolver wrapped size.1 size.2 state =
      paint host resolver map size.1 size.2 state := by
  have base : baseMaterial resolver wrapped = baseMaterial resolver map := by
    rw [baseMaterial, wraps.head.2, baseMaterial]
  rw [paint, paint, base, paintRows_eq_points, paintRows_eq_points, ofNode_eq, ofNode_eq]
  refine List.foldl_ext _ _ _ fun canvas point reached => ?_
  have same := paintAll_wraps host resolver wraps placed (Area.mapArea_contains placed reached)
    (baseMaterial resolver map, canvas.state)
  simp only [Canvas.paintPoint, Layer.children, same]

end

end Landscape

/-! ## Renderings -/

/-- The bounds and the standard value of a side are numbers of 32 bits. -/
def SideRange.IsNarrow (side : SideRange) : Prop :=
  side.standard ≤ 4294967295 ∧ side.least ≤ 4294967295 ∧ side.most ≤ 4294967295

/-- The sides of a format are given by numbers of 32 bits. -/
def MapFormat.IsNarrow (format : MapFormat) : Prop :=
  format.width.IsNarrow ∧ format.height.IsNarrow

theorem SideRange.IsNarrow.evaluate_le {side : SideRange} (narrow : side.IsNarrow) :
    side.evaluate ≤ 4294967295 := by
  rcases narrow with ⟨standard, least, most⟩
  unfold evaluate
  omega

/-- Players do not widen a map beyond 32 bits. -/
theorem MapFormat.IsNarrow.sizeFor_le {format : MapFormat} (narrow : format.IsNarrow)
    (players : Nat) :
    (format.sizeFor players).1 ≤ 4294967295 ∧ (format.sizeFor players).2 ≤ 4294967295 := by
  refine ⟨?_, narrow.2.evaluate_le⟩
  have standing := narrow.1.evaluate_le
  simp only [sizeFor, widthFor]
  split <;> omega

namespace Landscape

theorem render_wraps {σ : Type u} (host : ScriptHost σ) (resolver : Resolver)
    {format : MapFormat} (narrow : format.IsNarrow) (players : Nat) {map wrapped : Node}
    (wraps : Wraps map wrapped) (state : σ) :
    render host resolver format players wrapped state =
      render host resolver format players map state := by
  have sides := narrow.sizeFor_le players
  have placed := Area.mapArea_isPlaced sides.1 sides.2
  simp only [render, paint_wraps host resolver wraps placed,
    unknownMaterials_wraps resolver wraps]

/--
**Neutral overlays change nothing.**  Take any overlays of a map that stand side by side, at any
place in it, and put an overlay around them that is solid, takes up all of the area around it,
lays no material and does not invert; it may be a mask or not.  With any host, any tables and any
sizes of 32 bits the rendering is the same: the two rasters, the reports, what the host is asked
in turn, and the state it is left in.  So it is without a host.
-/
theorem render_of_wraps {map wrapped : Node} (wraps : Wraps map wrapped) (resolver : Resolver)
    {format : MapFormat} (narrow : format.IsNarrow) (players : Nat) :
    (∀ {σ : Type u} (host : ScriptHost σ) (state : σ),
      render host resolver format players wrapped state =
          render host resolver format players map state ∧
        render host.noting resolver format players wrapped (state, []) =
          render host.noting resolver format players map (state, [])) ∧
      renderAlone resolver format players wrapped = renderAlone resolver format players map := by
  refine ⟨fun host state => ⟨?_, ?_⟩, ?_⟩
  · exact render_wraps host resolver narrow players wraps state
  · exact render_wraps host.noting resolver narrow players wraps (state, [])
  · rw [renderAlone, renderAlone, render_wraps .absent resolver narrow players wraps]

/-- Two overlays side by side, each decided by a script. -/
def cliffAndCave : List Node :=
  [.mk ⟨.overlay, some "Cliff", Place.unknown⟩ { pattern := .script, material := some "Rock" } [],
    .mk ⟨.overlay, some "Cave", Place.unknown⟩ { pattern := .script } []]

/-- With a host that covers every other point, a mask around the second of two overlays changes
nothing. -/
theorem render_of_wraps_mask :
    let map : Node := .mk ⟨.map, none, Place.unknown⟩ {} cliffAndCave
    let wrapped : Node := .mk ⟨.map, none, Place.unknown⟩ {} (cliffAndCave.take 1 ++
      [.mk ⟨.overlay, none, Place.unknown⟩ { mask := true } (cliffAndCave.drop 1)])
    Wraps map wrapped ∧ (MapFormat.fixed 3 1).IsNarrow ∧
      render alternatingHost.noting ⟨[], []⟩ (MapFormat.fixed 3 1) 1 wrapped (false, []) =
        render alternatingHost.noting ⟨[], []⟩ (MapFormat.fixed 3 1) 1 map (false, []) := by
  intro map wrapped
  have wraps : Wraps map wrapped :=
    @Wraps.here ⟨.map, none, Place.unknown⟩ ⟨.overlay, none, Place.unknown⟩ {} { mask := true }
      (cliffAndCave.take 1) (cliffAndCave.drop 1) [] (isNeutral_default true)
  have narrow : (MapFormat.fixed 3 1).IsNarrow := by
    simp [MapFormat.IsNarrow, SideRange.IsNarrow, MapFormat.fixed, SideRange.fixed]
  exact ⟨wraps, narrow, ((render_of_wraps wraps ⟨[], []⟩ narrow 1).1 alternatingHost false).2⟩

end Landscape
end Landform
