import Landform.Proofs.NeutralOverlays

namespace Landform
namespace Landscape

/-!
# Areas given in percent

An overlay tells in percent where it begins in the area around it, and how far it extends.  Both
numbers become whole distances by rounding toward zero, each by itself.  What is said of percent
is then said of distances too if it only asks that they be small: overlays that keep within the
hundred percent of an area lie inside of it, and overlays that do not overlap in percent have no
point in common.

It is not so with what asks that distances be large.  An overlay that goes on to the end of the
hundred percent may stop short of the end of the area, by one row or column, as both roundings
together may lose one.  When they do is said by the offset alone (`part_toEnd`).

The two axes are alike, so all is proved for one of them (`Stretch`).  Coordinates that leave
their range stop at its end; nothing is assumed about the blocks around an area, since every area
that comes up on a map is placed (`held_isLaidOut`).
-/

open Number (int64)

/-! ## One axis -/

/-- An area along one axis: where it begins, and how far it extends. -/
structure Stretch where
  start : Int
  extent : Int

namespace Stretch

/-- The first coordinate behind a stretch. -/
def stop (stretch : Stretch) : Int :=
  int64.saturate (stretch.start + stretch.extent)

/-- Whether a coordinate lies in a stretch. -/
def Holds (stretch : Stretch) (point : Int) : Prop :=
  stretch.start ≤ point ∧ point < stretch.stop

/-- The part of a stretch that has an offset and a size in percent. -/
def part (stretch : Stretch) (offset size : Int) : Stretch where
  start := int64.saturate (stretch.start + Area.percentOf stretch.extent offset)
  extent := max (Area.percentOf stretch.extent size) 0

/-- A stretch begins in the range of coordinates, and a hundred times its extent lies there. -/
structure IsPlaced (stretch : Stretch) : Prop where
  low : int64.low ≤ stretch.start
  high : stretch.start ≤ int64.high
  least : 0 ≤ stretch.extent
  most : stretch.extent * 100 ≤ int64.high

end Stretch

/-- An offset and a size in percent that keep within the whole. -/
structure KeepsWithin (offset size : Int) : Prop where
  begins : 0 ≤ offset
  reaches : 0 ≤ size
  ends : offset + size ≤ 100

namespace KeepsWithin

variable {offset size : Int} (within : KeepsWithin offset size)

include within in
theorem offset_le : offset ≤ 100 :=
  Int.le_trans (Int.le_add_of_nonneg_right within.reaches) within.ends

include within in
theorem size_le : size ≤ 100 :=
  Int.le_trans (Int.le_add_of_nonneg_left within.begins) within.ends

end KeepsWithin

section

variable {extent : Int} (least : 0 ≤ extent) (most : extent * 100 ≤ int64.high)

include least most in
/-- No product leaves its range as long as nobody asks for more than the whole. -/
theorem percentOf_eq {percent : Int} (nonneg : 0 ≤ percent) (whole : percent ≤ 100) :
    Area.percentOf extent percent = extent * percent / 100 := by
  have low : int64.low ≤ extent * percent :=
    Int.le_trans (by decide) (Int.mul_nonneg least nonneg)
  have high : extent * percent ≤ int64.high :=
    Int.le_trans (Int.mul_le_mul_of_nonneg_left whole least) most
  rw [Area.percentOf, int64.saturate_of_mem low high,
    Int.tdiv_eq_ediv_of_nonneg (Int.mul_nonneg least nonneg)]

include least most in
theorem percentOf_nonneg {percent : Int} (nonneg : 0 ≤ percent) (whole : percent ≤ 100) :
    0 ≤ Area.percentOf extent percent := by
  rw [percentOf_eq least most nonneg whole]
  exact Int.ediv_nonneg (Int.mul_nonneg least nonneg) (by decide)

include least most in
theorem percentOf_mono {first second : Int} (nonneg : 0 ≤ first) (le : first ≤ second)
    (whole : second ≤ 100) : Area.percentOf extent first ≤ Area.percentOf extent second := by
  rw [percentOf_eq least most nonneg (Int.le_trans le whole),
    percentOf_eq least most (Int.le_trans nonneg le) whole]
  exact Int.ediv_le_ediv (by decide) (Int.mul_le_mul_of_nonneg_left le least)

include least most in
/-- Two parts are no larger than what they are parts of, since each is rounded down. -/
theorem percentOf_add_le {offset size : Int} (within : KeepsWithin offset size) :
    Area.percentOf extent offset + Area.percentOf extent size ≤
      Area.percentOf extent (offset + size) := by
  rw [percentOf_eq least most within.begins within.offset_le,
    percentOf_eq least most within.reaches within.size_le,
    percentOf_eq least most (Int.add_nonneg within.begins within.reaches) within.ends,
    Int.mul_add]
  omega

include least most in
/-- Two parts that make up the whole lose one of it if they are rounded at all. -/
theorem percentOf_add_whole {offset size : Int} (within : KeepsWithin offset size)
    (whole : offset + size = 100) :
    Area.percentOf extent offset + Area.percentOf extent size =
      if 100 ∣ extent * offset then extent else extent - 1 := by
  have together : extent * offset + extent * size = extent * 100 := by
    rw [← Int.mul_add, whole]
  rw [percentOf_eq least most within.begins within.offset_le,
    percentOf_eq least most within.reaches within.size_le]
  split <;> omega

end

namespace Stretch

variable {stretch : Stretch} (placed : stretch.IsPlaced)

include placed in
/-- A part that keeps within the whole ends where both of its distances lead. -/
theorem part_stop {offset size : Int} (within : KeepsWithin offset size) :
    (stretch.part offset size).stop =
      int64.saturate (stretch.start +
        (Area.percentOf stretch.extent offset + Area.percentOf stretch.extent size)) := by
  have forth := percentOf_nonneg placed.least placed.most within.begins within.offset_le
  have further := percentOf_nonneg placed.least placed.most within.reaches within.size_le
  rw [stop, part, Int.max_eq_left further,
    int64.saturate_add_add placed.low forth further, Int.add_assoc]

include placed in
/-- A part that keeps within the whole lies inside of it. -/
theorem holds_of_part {offset size : Int} (within : KeepsWithin offset size) {point : Int}
    (held : (stretch.part offset size).Holds point) : stretch.Holds point := by
  have together : Area.percentOf stretch.extent offset + Area.percentOf stretch.extent size ≤
      stretch.extent :=
    calc Area.percentOf stretch.extent offset + Area.percentOf stretch.extent size
      _ ≤ Area.percentOf stretch.extent (offset + size) :=
        percentOf_add_le placed.least placed.most within
      _ ≤ Area.percentOf stretch.extent 100 :=
        percentOf_mono placed.least placed.most
          (Int.add_nonneg within.begins within.reaches) within.ends (Int.le_refl 100)
      _ = stretch.extent := Area.percentOf_whole placed.least placed.most
  have forth := percentOf_nonneg placed.least placed.most within.begins within.offset_le
  constructor
  · calc stretch.start
      _ = int64.saturate stretch.start := (int64.saturate_of_mem placed.low placed.high).symm
      _ ≤ (stretch.part offset size).start := int64.saturate_mono (by omega)
      _ ≤ point := held.1
  · calc point
      _ < (stretch.part offset size).stop := held.2
      _ = int64.saturate (stretch.start + (Area.percentOf stretch.extent offset +
            Area.percentOf stretch.extent size)) := part_stop placed within
      _ ≤ stretch.stop := int64.saturate_mono (Int.add_le_add_left together stretch.start)

include placed in
/-- Two parts of which one ends, in percent, before the other begins have nothing in common. -/
theorem part_apart {offset size later more : Int} (first : KeepsWithin offset size)
    (second : KeepsWithin later more) (before : offset + size ≤ later) {point : Int}
    (here : (stretch.part offset size).Holds point) :
    ¬ (stretch.part later more).Holds point := by
  intro there
  have behind : Area.percentOf stretch.extent offset + Area.percentOf stretch.extent size ≤
      Area.percentOf stretch.extent later :=
    calc Area.percentOf stretch.extent offset + Area.percentOf stretch.extent size
      _ ≤ Area.percentOf stretch.extent (offset + size) :=
        percentOf_add_le placed.least placed.most first
      _ ≤ Area.percentOf stretch.extent later :=
        percentOf_mono placed.least placed.most (Int.add_nonneg first.begins first.reaches) before
          second.offset_le
  have ends : (stretch.part offset size).stop ≤ (stretch.part later more).start := by
    rw [part_stop placed first]
    exact int64.saturate_mono (Int.add_le_add_left behind stretch.start)
  exact absurd (Int.lt_of_lt_of_le here.2 ends) (Int.not_lt.mpr there.1)

end Stretch

/-- How a part with an offset ends that goes on, in percent, to the end of a stretch.  If no part
of the offset is lost, it ends where the stretch does.  Otherwise it ends one coordinate earlier,
and of all that lies behind its own beginning it leaves out this very coordinate. -/
structure EndsWith (stretch part : Stretch) (offset : Int) : Prop where
  stop : part.stop =
    if 100 ∣ stretch.extent * offset then stretch.stop
    else int64.saturate (stretch.start + stretch.extent - 1)
  covers : ∀ point, stretch.Holds point -> part.start ≤ point ->
    (part.Holds point ↔
      100 ∣ stretch.extent * offset ∨ point + 1 ≠ stretch.start + stretch.extent)

theorem Stretch.part_toEnd {stretch : Stretch} (placed : stretch.IsPlaced) {offset size : Int}
    (within : KeepsWithin offset size) (whole : offset + size = 100) :
    EndsWith stretch (stretch.part offset size) offset := by
  have ends : (stretch.part offset size).stop =
      if 100 ∣ stretch.extent * offset then stretch.stop
      else int64.saturate (stretch.start + stretch.extent - 1) := by
    rw [part_stop placed within, percentOf_add_whole placed.least placed.most within whole]
    split
    · rfl
    · rw [Int.add_sub_assoc]
  refine ⟨ends, fun point held behind => ?_⟩
  have last : point < int64.saturate (stretch.start + stretch.extent) := held.2
  rw [Holds, ends]
  split
  · rename_i whole
    exact ⟨fun _ => Or.inl whole, fun _ => ⟨behind, held.2⟩⟩
  -- If the end of the stretch has left the range, so has the coordinate in front of it.
  · rename_i rounded
    have begins := held.1
    have high := placed.high
    have low := placed.low
    unfold Number.Span.saturate at last ⊢
    constructor
    · rintro ⟨_, earlier⟩
      exact Or.inr (by omega)
    · rintro (impossible | other)
      · exact absurd impossible rounded
      · exact ⟨behind, by omega⟩

/-! ## Areas and layers -/

namespace Area

/-- An area along the horizontal axis. -/
def columns (area : Area) : Stretch :=
  ⟨area.x, area.width⟩

/-- An area along the vertical axis. -/
def rows (area : Area) : Stretch :=
  ⟨area.y, area.height⟩

theorem contains_iff (area : Area) (x y : Int) :
    area.contains x y = true ↔ area.columns.Holds x ∧ area.rows.Holds y := by
  simp only [contains, Bool.and_eq_true, decide_eq_true_eq, Stretch.Holds, Stretch.stop, columns,
    rows]
  constructor
  · rintro ⟨⟨⟨left, top⟩, right⟩, bottom⟩
    exact ⟨⟨left, right⟩, top, bottom⟩
  · rintro ⟨⟨left, right⟩, top, bottom⟩
    exact ⟨⟨⟨left, top⟩, right⟩, bottom⟩

theorem IsPlaced.columns {area : Area} (placed : area.IsPlaced) : area.columns.IsPlaced where
  low := ((int64.contains_iff _).mp placed.column).1
  high := ((int64.contains_iff _).mp placed.column).2
  least := placed.width.1
  most := placed.width.2

theorem IsPlaced.rows {area : Area} (placed : area.IsPlaced) : area.rows.IsPlaced where
  low := ((int64.contains_iff _).mp placed.row).1
  high := ((int64.contains_iff _).mp placed.row).2
  least := placed.height.1
  most := placed.height.2

end Area

/-- The layers made of overlays are those of each overlay in its area. -/
theorem ofNodes_eq_map (resolver : Resolver) (area : Area) (nodes : List Node) :
    Layer.ofNodes resolver area nodes =
      nodes.map fun node => Layer.ofNode resolver (area.inside node.attributes) node := by
  induction nodes with
  | nil => rfl
  | cons node rest inductionHypothesis =>
      rw [ofNodes_cons, inductionHypothesis, List.map_cons]

/-- A layer, and whatever is anywhere inside of it. -/
inductive Layer.Holds : Layer -> Layer -> Prop where
  | self (layer : Layer) : Layer.Holds layer layer
  | inside {outer child layer : Layer} (member : child ∈ outer.children)
      (holds : Layer.Holds child layer) : Layer.Holds outer layer

section

variable {resolver : Resolver}

theorem children_ofNode {area : Area} {node : Node} {child : Layer}
    (member : child ∈ (Layer.ofNode resolver area node).children) :
    Exists fun inner => inner ∈ node.children ∧
      child = Layer.ofNode resolver (area.inside inner.attributes) inner := by
  rw [ofNode_eq, Layer.children, ofNodes_eq_map] at member
  rcases List.mem_map.mp member with ⟨inner, within, same⟩
  exact ⟨inner, within, same.symm⟩

end

/-- A layer takes up the part of another one, along both axes, that its settings tell. -/
structure Layer.IsPartOf (child layer : Layer) : Prop where
  columns : child.area.columns =
    layer.area.columns.part child.node.attributes.x child.node.attributes.width
  rows : child.area.rows =
    layer.area.rows.part child.node.attributes.y child.node.attributes.height

/-- A layer whose area is placed, and inside of it the layers of its overlays, each in its part of
the area. -/
structure Layer.IsLaidOut (layer : Layer) : Prop where
  placed : layer.area.IsPlaced
  nodes : layer.children.map Layer.node = layer.node.children
  parts : ∀ child ∈ layer.children, child.IsPartOf layer

section

variable {resolver : Resolver} {area : Area} (placed : area.IsPlaced) {node : Node}

include placed in
theorem ofNode_isLaidOut : (Layer.ofNode resolver area node).IsLaidOut where
  placed := by
    rw [ofNode_eq]
    exact placed
  nodes := by
    have own : Layer.node ∘ (fun inner : Node =>
        Layer.ofNode resolver (area.inside inner.attributes) inner) = id := by
      funext inner
      rw [Function.comp, ofNode_eq]
      rfl
    rw [ofNode_eq, Layer.children, Layer.node, ofNodes_eq_map, List.map_map, own, List.map_id]
  parts := by
    intro child member
    rcases children_ofNode member with ⟨inner, _, same⟩
    rw [same, ofNode_eq, ofNode_eq]
    exact ⟨rfl, rfl⟩

include placed in
/-- All that is inside of a placed layer is laid out. -/
theorem held_isLaidOut {layer : Layer} (held : (Layer.ofNode resolver area node).Holds layer) :
    layer.IsLaidOut := by
  generalize root : Layer.ofNode resolver area node = outer at held
  induction held generalizing area node with
  | self outer => exact root ▸ ofNode_isLaidOut placed
  | inside member holds inductionHypothesis =>
      rcases children_ofNode (root.symm ▸ member) with ⟨inner, _, same⟩
      exact inductionHypothesis (area.inside_isPlaced inner.attributes) same.symm

end

/-! ## Overlays on a map -/

/-- An overlay that keeps, along both axes, within the hundred percent of the area around it. -/
structure Attributes.KeepsInside (attributes : Attributes) : Prop where
  columns : KeepsWithin attributes.x attributes.width
  rows : KeepsWithin attributes.y attributes.height

/-- One of two overlays ends, in percent, before the other begins, along one of the axes. -/
def Attributes.IsBeside (first second : Attributes) : Prop :=
  first.x + first.width ≤ second.x ∨ second.x + second.width ≤ first.x ∨
    first.y + first.height ≤ second.y ∨ second.y + second.height ≤ first.y

section

variable {layer first second : Layer} (laidOut : layer.IsLaidOut)
variable (member : first ∈ layer.children)

include laidOut member in
theorem contains_of_child (inside : first.node.attributes.KeepsInside) {x y : Int}
    (contained : first.area.contains x y = true) : layer.area.contains x y = true := by
  have part := laidOut.parts first member
  rw [Area.contains_iff, part.columns, part.rows] at contained
  apply (Area.contains_iff _ _ _).mpr
  constructor
  · exact Stretch.holds_of_part laidOut.placed.columns inside.columns contained.1
  · exact Stretch.holds_of_part laidOut.placed.rows inside.rows contained.2

include laidOut member in
theorem not_contains_both (other : second ∈ layer.children)
    (inside : first.node.attributes.KeepsInside) (within : second.node.attributes.KeepsInside)
    (beside : first.node.attributes.IsBeside second.node.attributes) (x y : Int) :
    ¬ (first.area.contains x y = true ∧ second.area.contains x y = true) := by
  rintro ⟨here, there⟩
  have part := laidOut.parts first member
  have further := laidOut.parts second other
  have columns := laidOut.placed.columns
  have rows := laidOut.placed.rows
  rw [Area.contains_iff, part.columns, part.rows] at here
  rw [Area.contains_iff, further.columns, further.rows] at there
  rcases beside with left | right | above | below
  · exact Stretch.part_apart columns inside.columns within.columns left here.1 there.1
  · exact Stretch.part_apart columns within.columns inside.columns right there.1 here.1
  · exact Stretch.part_apart rows inside.rows within.rows above here.2 there.2
  · exact Stretch.part_apart rows within.rows inside.rows below there.2 here.2

end

/--
**Overlays in percent nest and do not overlap.**  Take a map of any size of 32 bits, made ready to
be painted, and any block of it, with whatever geometry around it.  The layers inside of it are
those of its overlays.  If an overlay keeps within the hundred percent of the block along both
axes, then every point in its area lies in the area of the block.  If two overlays do, and one of
them ends before the other begins along some axis, then no point lies in the areas of both.
-/
theorem overlays_nest_apart {width height : Nat} (wide : width ≤ 4294967295)
    (high : height ≤ 4294967295) (resolver : Resolver) (map : Node) {layer : Layer}
    (held : (Layer.ofNode resolver (mapArea width height) map).Holds layer) :
    layer.children.map Layer.node = layer.node.children ∧
      (∀ child ∈ layer.children, child.node.attributes.KeepsInside -> ∀ x y : Int,
        child.area.contains x y = true -> layer.area.contains x y = true) ∧
      ∀ first ∈ layer.children, ∀ second ∈ layer.children,
        first.node.attributes.KeepsInside -> second.node.attributes.KeepsInside ->
        first.node.attributes.IsBeside second.node.attributes -> ∀ x y : Int,
        ¬ (first.area.contains x y = true ∧ second.area.contains x y = true) := by
  have laidOut := held_isLaidOut (Area.mapArea_isPlaced wide high) held
  refine ⟨laidOut.nodes, ?_, ?_⟩
  · intro child member inside x y contained
    exact contains_of_child laidOut member inside contained
  · intro first member second other inside within beside
    exact not_contains_both laidOut member other inside within beside

/-- An overlay of a third of the columns, and one of the other two thirds. -/
def thirds : List Node :=
  [.mk ⟨.overlay, none, Place.unknown⟩ { width := 33 } [],
    .mk ⟨.overlay, none, Place.unknown⟩ { x := 33, width := 67 } []]

/-- An overlay that begins left of what is around it and ends right of it, and thirds inside. -/
def overhang : Node :=
  .mk ⟨.overlay, none, Place.unknown⟩ { x := -50, width := 333 } thirds

theorem thirds_keepInside : ∀ third ∈ thirds, third.attributes.KeepsInside := by
  simp only [thirds, List.forall_mem_cons, List.not_mem_nil, false_implies, implies_true, and_true]
  constructor <;> constructor <;> constructor <;> decide

/-- On seven columns, the overlay has twenty-three of them; its thirds share none. -/
theorem overlays_nest_apart_thirds :
    let layer := Layer.ofNode ⟨[], []⟩ ⟨-3, 0, 23, 5⟩ overhang
    (Layer.ofNode ⟨[], []⟩ (mapArea 7 5)
        (.mk ⟨.map, none, Place.unknown⟩ {} [overhang])).Holds layer ∧
      layer.children.map Layer.area = [⟨-3, 0, 7, 5⟩, ⟨4, 0, 15, 5⟩] ∧
      ∀ x y : Int,
        (Area.contains ⟨4, 0, 15, 5⟩ x y = true -> Area.contains ⟨-3, 0, 23, 5⟩ x y = true) ∧
          ¬ (Area.contains ⟨-3, 0, 7, 5⟩ x y = true ∧
            Area.contains ⟨4, 0, 15, 5⟩ x y = true) := by
  intro layer
  have held : (Layer.ofNode ⟨[], []⟩ (mapArea 7 5)
      (.mk ⟨.map, none, Place.unknown⟩ {} [overhang])).Holds layer :=
    .inside List.mem_cons_self (.self layer)
  have first : Layer.ofNode ⟨[], []⟩ ⟨-3, 0, 7, 5⟩ thirds[0] ∈ layer.children :=
    List.mem_cons_self
  have second : Layer.ofNode ⟨[], []⟩ ⟨4, 0, 15, 5⟩ thirds[1] ∈ layer.children :=
    List.mem_cons_of_mem _ List.mem_cons_self
  have left := thirds_keepInside thirds[0] List.mem_cons_self
  have right := thirds_keepInside thirds[1] (List.mem_cons_of_mem _ List.mem_cons_self)
  rcases overlays_nest_apart (by decide) (by decide) ⟨[], []⟩ _ held with ⟨_, nests, apart⟩
  refine ⟨held, rfl, fun x y => ⟨?_, ?_⟩⟩
  · exact nests _ second right x y
  · exact apart _ first _ second left right (Or.inl (by decide)) x y

/--
**Where overlays end that go on to the far edge.**  Take a map of any size of 32 bits, any block
of it, and an overlay inside of it that goes on, in percent, to the end of an axis.  It ends where
the block does if nothing of its offset is lost by rounding, and one row or column earlier if
something is.  Then, and only then, there is a row or column at the far edge of the block that the
overlay leaves out.
-/
theorem overlay_ends_with {width height : Nat} (wide : width ≤ 4294967295)
    (high : height ≤ 4294967295) (resolver : Resolver) (map : Node) {layer : Layer}
    (held : (Layer.ofNode resolver (mapArea width height) map).Holds layer) :
    ∀ child ∈ layer.children,
      (KeepsWithin child.node.attributes.x child.node.attributes.width ->
        child.node.attributes.x + child.node.attributes.width = 100 ->
        EndsWith layer.area.columns child.area.columns child.node.attributes.x) ∧
      (KeepsWithin child.node.attributes.y child.node.attributes.height ->
        child.node.attributes.y + child.node.attributes.height = 100 ->
        EndsWith layer.area.rows child.area.rows child.node.attributes.y) := by
  intro child member
  have laidOut := held_isLaidOut (Area.mapArea_isPlaced wide high) held
  have part := laidOut.parts child member
  rw [part.columns, part.rows]
  constructor
  · exact Stretch.part_toEnd laidOut.placed.columns
  · exact Stretch.part_toEnd laidOut.placed.rows

/-- Of the twenty-three columns, the second third begins with the eighth and ends with the last
but one. -/
theorem overlay_ends_with_thirds :
    EndsWith ⟨-3, 23⟩ ⟨4, 15⟩ 33 ∧ ¬ (100 : Int) ∣ 23 * 33 := by
  have held : (Layer.ofNode ⟨[], []⟩ (mapArea 7 5)
      (.mk ⟨.map, none, Place.unknown⟩ {} [overhang])).Holds
        (Layer.ofNode ⟨[], []⟩ ⟨-3, 0, 23, 5⟩ overhang) :=
    .inside List.mem_cons_self (.self _)
  have ends := overlay_ends_with (by decide) (by decide) ⟨[], []⟩ _ held
    (Layer.ofNode ⟨[], []⟩ ⟨4, 0, 15, 5⟩ thirds[1]) (List.mem_cons_of_mem _ List.mem_cons_self)
  have inside := thirds_keepInside _ (List.mem_cons_of_mem _ List.mem_cons_self)
  exact ⟨ends.1 inside.columns rfl, by decide⟩

/-- A map with a floor: an overlay that goes on to the lower edge. -/
def floored : Node :=
  .mk ⟨.map, none, Place.unknown⟩ {}
    [.mk ⟨.overlay, some "Floor", Place.unknown⟩ { material := some "Earth", y := 80, height := 20 }
      []]

/-- On thirty-two rows the floor begins with the row numbered 25 and has six of them.  The last
row shows the sky. -/
theorem floor_ends_early :
    let root := Layer.ofNode ⟨[], [("earth", 1)]⟩ (mapArea 1 32) floored
    let rendering := renderAlone ⟨[], [("earth", 1)]⟩ (MapFormat.fixed 1 32) 1 floored
    (Exists fun floor => floor ∈ root.children ∧
        KeepsWithin floor.node.attributes.y floor.node.attributes.height ∧
        floor.node.attributes.y + floor.node.attributes.height = 100 ∧
        floor.area.rows.stop = 31 ∧ root.area.rows.stop = 32) ∧
      rendering.messages = [] ∧
      [24, 25, 30, 31].map (rendering.foreground.get? 0) = [some 0, some 1, some 1, some 0] := by
  intro root rendering
  refine ⟨⟨_, List.mem_cons_self, ⟨?_, ?_, ?_⟩, rfl, ?_, ?_⟩, ?_⟩ <;> decide +kernel

end Landscape
end Landform
