import Landform.Landscape.Painting

namespace Landform
namespace Landscape

/-!
# The last overlay that shows

The painter takes every point through the layers of a map and keeps what lies on top so far.
What it ends with can be said without a painter: of all overlays of the map, in the order of
the description, the last one counts that lays a material and shows at the point.  An overlay
shows where it covers the point itself and every overlay around it does.

The painter never looks at what an overlay hides; it does not go on inside of one that does
not cover the point.  `lastLaid_hidden` is why nothing is lost: no overlay inside shows.  A host
may change its state at every question.  Only its answers matter, so the statements ask that
these depend on nothing but the function and the point.
-/

/-- A block, and the area it takes up. -/
structure Block where
  node : Node
  area : Area

/-- An overlay of a map, and the overlays around it from the outermost. -/
structure Placed where
  block : Block
  around : List Block

mutual

/-- An overlay inside an area and the overlays inside of it, in the order of a description. -/
def Placed.ofNode (around : List Block) (area : Area) : Node -> List Placed
  | .mk header attributes children =>
      let block : Block := ⟨.mk header attributes children, area.inside attributes⟩
      ⟨block, around⟩ :: Placed.ofNodes (around ++ [block]) (area.inside attributes) children

/-- Overlays inside an area and all overlays inside of them, in the order of a description. -/
def Placed.ofNodes (around : List Block) (area : Area) : List Node -> List Placed
  | [] => []
  | node :: rest => Placed.ofNode around area node ++ Placed.ofNodes around area rest

end

/-- All overlays of a map of a size, in the order of its description. -/
def overlaysOf (map : Node) (size : Nat × Nat) : List Placed :=
  Placed.ofNodes [] (mapArea size.1 size.2) map.children

/-- Answers to the questions of script overlays, by function and point. -/
abbrev Answers := String -> Int -> Int -> Bool

/-- The answers of nobody. -/
def Answers.absent : Answers :=
  fun _ _ _ => false

namespace Block

/-- Whether the pattern of a block covers a point of the map. -/
def hits (answers : Answers) (x y : Int) (block : Block) : Bool :=
  let attributes := block.node.attributes
  let point := block.area.localPoint attributes x y
  match attributes.pattern with
  | .script => answers block.node.scriptFunction point.x point.y != attributes.invert
  | pattern => pattern.covers attributes.measures point != attributes.invert

/-- Whether a point lies in the area of a block and the block covers it. -/
def covers (answers : Answers) (x y : Int) (block : Block) : Bool :=
  block.area.contains x y && block.hits answers x y

/-- The material that a block lays; a mask lays none. -/
def laid (resolver : Resolver) (block : Block) : Option MaterialPair :=
  if block.node.attributes.mask then none
  else block.node.attributes.materialSpec.bind resolver.resolve

end Block

namespace Placed

/-- Whether an overlay shows at a point: it and all overlays around it cover the point. -/
def shows (answers : Answers) (x y : Int) (placed : Placed) : Bool :=
  placed.block.covers answers x y && placed.around.all (Block.covers answers x y)

/-- What an overlay lays at a point where it shows. -/
def laidAt (answers : Answers) (resolver : Resolver) (x y : Int) (placed : Placed) :
    Option MaterialPair :=
  if placed.shows answers x y then placed.block.laid resolver else none

end Placed

/-- The last material that some overlays lay at a point, or else what is below them. -/
def lastLaid (answers : Answers) (resolver : Resolver) (x y : Int) (overlays : List Placed)
    (below : MaterialPair) : MaterialPair :=
  ((overlays.filterMap (Placed.laidAt answers resolver x y)).getLast?).getD below

/-- What shows at a point of a map: the last material laid there, or else the map's own. -/
def shownAt (answers : Answers) (resolver : Resolver) (map : Node) (size : Nat × Nat)
    (x y : Int) : MaterialPair :=
  lastLaid answers resolver x y (overlaysOf map size) (baseMaterial resolver map)

/-! ## The overlays of a map -/

mutual

theorem placed_node (around : List Block) (area : Area) :
    ∀ node : Node, (Placed.ofNode around area node).map (fun placed => placed.block.node) =
      node.preorder
  | .mk header attributes children => by
      simp only [Placed.ofNode, List.map_cons, Node.preorder]
      rw [placed_nodes]

theorem placed_nodes (around : List Block) (area : Area) :
    ∀ nodes : List Node, (Placed.ofNodes around area nodes).map (fun placed => placed.block.node) =
      Node.preorderAll nodes
  | [] => rfl
  | node :: rest => by
      rw [Placed.ofNodes, List.map_append, placed_node, placed_nodes, Node.preorderAll]

end

/-- The overlays of a map are all that is inside of it, in the order of the description. -/
theorem overlaysOf_nodes (map : Node) (size : Nat × Nat) :
    (overlaysOf map size).map (fun placed => placed.block.node) = map.preorder.tail := by
  cases map with
  | mk header attributes children =>
      exact placed_nodes [] (mapArea size.1 size.2) children

mutual

theorem around_ofNode (around : List Block) (area : Area) :
    ∀ node : Node, ∀ placed ∈ Placed.ofNode around area node,
      ∀ block ∈ around, block ∈ placed.around
  | .mk header attributes children => by
      intro placed member block outer
      rcases List.mem_cons.mp member with same | inner
      · rw [same]
        exact outer
      · exact around_ofNodes _ _ children placed inner block (List.mem_append_left _ outer)

theorem around_ofNodes (around : List Block) (area : Area) :
    ∀ nodes : List Node, ∀ placed ∈ Placed.ofNodes around area nodes,
      ∀ block ∈ around, block ∈ placed.around
  | [] => by
      intro placed impossible
      cases impossible
  | node :: rest => by
      intro placed member
      rcases List.mem_append.mp member with first | later
      · exact around_ofNode around area node placed first
      · exact around_ofNodes around area rest placed later

end

/-! ## One point -/

section

variable {σ : Type u} {host : ScriptHost σ} {answers : Answers}

/-- A host whose answers are the given ones, in whatever state it is asked. -/
def ScriptHost.Gives (host : ScriptHost σ) (answers : Answers) : Prop :=
  ∀ state function x y, (host.covers state function x y).1 = answers function x y

theorem absent_gives : ScriptHost.absent.Gives Answers.absent :=
  fun _ _ _ _ => rfl

theorem coversPoint_eq_hits (gives : host.Gives answers) (node : Node) (area : Area)
    (x y : Int) (state : σ) :
    (coversPoint host node area x y state).1 = Block.hits answers x y ⟨node, area⟩ := by
  simp only [coversPoint, Block.hits]
  cases pattern : node.attributes.pattern with
  | script => simp only [gives state]
  | _ => simp only []

/-- The painter goes into a layer that covers the point, and over what its block has laid. -/
theorem paint_of_covers (gives : host.Gives answers) {node : Node} {area : Area} {x y : Int}
    (covers : Block.covers answers x y ⟨node, area⟩ = true) (material : Option MaterialPair)
    (children : List Layer) (below : MaterialPair) (state : σ) :
    Layer.paint host x y (.mk node area material children) (below, state) =
      Layer.paintAll host x y children
        (laidOver node.attributes.mask material below,
          (coversPoint host node area x y state).2) := by
  rcases Bool.and_eq_true_iff.mp covers with ⟨contained, hits⟩
  have asked := coversPoint_eq_hits gives node area x y state
  rw [hits] at asked
  rcases answered : coversPoint host node area x y state with ⟨covered, next⟩
  rw [answered] at asked
  cases asked
  have inside : area.contains x y = true := contained
  simp only [Layer.paint, inside, if_true, answered]

/-- The painter leaves alone what a layer that does not cover the point is over. -/
theorem paint_of_not_covers (gives : host.Gives answers) {node : Node} {area : Area}
    {x y : Int} (covers : Block.covers answers x y ⟨node, area⟩ = false)
    (material : Option MaterialPair) (children : List Layer) (below : MaterialPair)
    (state : σ) :
    (Layer.paint host x y (.mk node area material children) (below, state)).1 = below := by
  simp only [Layer.paint]
  split
  · rename_i contained
    have asked := coversPoint_eq_hits gives node area x y state
    have misses : Block.hits answers x y ⟨node, area⟩ = false := by
      simpa only [Block.covers, contained, Bool.true_and] using covers
    rw [misses] at asked
    rcases answered : coversPoint host node area x y state with ⟨covered, next⟩
    rw [answered] at asked
    cases asked
    rfl
  · rfl

variable (resolver : Resolver) (x y : Int)

theorem lastLaid_append (first second : List Placed) (below : MaterialPair) :
    lastLaid answers resolver x y (first ++ second) below =
      lastLaid answers resolver x y second (lastLaid answers resolver x y first below) := by
  simp only [lastLaid, List.filterMap_append, List.getLast?_append]
  cases (second.filterMap (Placed.laidAt answers resolver x y)).getLast? <;> rfl

theorem lastLaid_cons (first : Placed) (rest : List Placed) (below : MaterialPair) :
    lastLaid answers resolver x y (first :: rest) below =
      lastLaid answers resolver x y rest ((first.laidAt answers resolver x y).getD below) := by
  rw [← List.singleton_append, lastLaid_append]
  simp only [lastLaid, List.filterMap_cons, List.filterMap_nil]
  cases first.laidAt answers resolver x y <;> rfl

/-- Inside of an overlay that does not cover a point, nothing is laid there. -/
theorem lastLaid_hidden {around : List Block} {block : Block} (member : block ∈ around)
    (hidden : block.covers answers x y = false) (area : Area) (nodes : List Node)
    (below : MaterialPair) :
    lastLaid answers resolver x y (Placed.ofNodes around area nodes) below = below := by
  have nothing : (Placed.ofNodes around area nodes).filterMap
      (Placed.laidAt answers resolver x y) = [] := by
    apply List.filterMap_eq_nil_iff.mpr
    intro placed inside
    have outer := around_ofNodes around area nodes placed inside block member
    have hides : placed.around.all (Block.covers answers x y) = false := by
      apply Bool.eq_false_iff.mpr
      intro all
      have covers := List.all_eq_true.mp all block outer
      rw [hidden] at covers
      cases covers
    rw [Placed.laidAt, Placed.shows, hides, Bool.and_false]
    rfl
  rw [lastLaid, nothing]
  rfl

theorem laidOver_eq (mask : Bool) (material : Option MaterialPair) (below : MaterialPair) :
    laidOver mask material below = (if mask then none else material).getD below := by
  cases mask <;> rfl

mutual

/-- The painter leaves at a point what the last overlay of a layer lays there. -/
theorem paint_ofNode (gives : host.Gives answers) (around : List Block) (area : Area)
    (shows : around.all (Block.covers answers x y) = true) :
    ∀ (node : Node) (below : MaterialPair) (state : σ),
      (Layer.paint host x y (Layer.ofNode resolver (area.inside node.attributes) node)
        (below, state)).1 =
          lastLaid answers resolver x y (Placed.ofNode around area node) below
  | .mk header attributes children, below, state => by
      let block : Block := ⟨.mk header attributes children, area.inside attributes⟩
      have outermost : block ∈ around ++ [block] := List.mem_append_right _ List.mem_cons_self
      simp only [Node.attributes, Layer.ofNode, Placed.ofNode]
      rw [lastLaid_cons]
      cases covers : block.covers answers x y with
      | false =>
          have nothing : Placed.laidAt answers resolver x y ⟨block, around⟩ = none := by
            rw [Placed.laidAt, Placed.shows, covers, Bool.false_and]
            rfl
          rw [nothing, Option.getD_none, paint_of_not_covers gives covers]
          exact (lastLaid_hidden resolver x y outermost covers _ children below).symm
      | true =>
          have laid : Placed.laidAt answers resolver x y ⟨block, around⟩ =
              block.laid resolver := by
            rw [Placed.laidAt, Placed.shows, covers, shows]
            rfl
          have stillShows : (around ++ [block]).all (Block.covers answers x y) = true := by
            rw [List.all_append, shows, List.all_cons, covers]
            rfl
          rw [laid, paint_of_covers gives covers, laidOver_eq]
          exact paint_ofNodes gives (around ++ [block]) _ stillShows children _ _

theorem paint_ofNodes (gives : host.Gives answers) (around : List Block) (area : Area)
    (shows : around.all (Block.covers answers x y) = true) :
    ∀ (nodes : List Node) (below : MaterialPair) (state : σ),
      (Layer.paintAll host x y (Layer.ofNodes resolver area nodes) (below, state)).1 =
        lastLaid answers resolver x y (Placed.ofNodes around area nodes) below
  | [], below, state => rfl
  | .mk header attributes children :: rest, below, state => by
      rw [Placed.ofNodes, lastLaid_append, Layer.ofNodes, Layer.paintAll]
      rw [← paint_ofNode gives around area shows (.mk header attributes children) below state]
      exact paint_ofNodes gives around area shows rest _ _

end

end

/-! ## All points -/

/-- Writing to a grid: the points of a region have their values then, all others stay. -/
structure Writes (value : Nat -> Nat -> UInt8) (region : Nat -> Nat -> Prop)
    (before after : Raster) : Prop where
  width : after.width = before.width
  height : after.height = before.height
  reached : ∀ x y, region x y -> x < before.width -> y < before.height ->
    after.get? x y = some (value x y)
  kept : ∀ x y, ¬ region x y -> after.get? x y = before.get? x y

theorem writes_set (value : Nat -> Nat -> UInt8) (x y : Nat) (raster : Raster) :
    Writes value (fun i j => i = x ∧ j = y) raster (raster.set x y (value x y)) := by
  refine ⟨raster.set_width x y _, raster.set_height x y _, ?_, ?_⟩
  · rintro i j ⟨column, row⟩ inWidth inHeight
    rw [Raster.get?_set, if_pos ⟨column, row, inWidth, inHeight⟩, column, row]
  · intro i j elsewhere
    have outside : ¬ (i = x ∧ j = y ∧ i < raster.width ∧ j < raster.height) :=
      fun all => elsewhere ⟨all.1, all.2.1⟩
    rw [Raster.get?_set, if_neg outside]

/-- Several steps write to all that one of them writes to. -/
theorem writes_fold {value : Nat -> Nat -> UInt8} {region : Nat -> Nat -> Nat -> Prop}
    {step : Nat -> Raster -> Raster}
    (writes : ∀ index raster, Writes value (region index) raster (step index raster))
    (count : Nat) (raster : Raster) :
    Writes value (fun x y => Exists fun index => index < count ∧ region index x y) raster
      (Nat.fold count (fun index _ now => step index now) raster) := by
  induction count with
  | zero =>
      refine ⟨rfl, rfl, ?_, fun _ _ _ => rfl⟩
      rintro x y ⟨index, impossible, _⟩
      exact absurd impossible (Nat.not_lt_zero index)
  | succ count inductionHypothesis =>
      have last := writes count (Nat.fold count (fun index _ now => step index now) raster)
      rw [Nat.fold_succ]
      refine ⟨last.width.trans inductionHypothesis.width,
        last.height.trans inductionHypothesis.height, ?_, ?_⟩
      · rintro x y ⟨index, below, inside⟩ inWidth inHeight
        by_cases now : region count x y
        · exact last.reached x y now (inductionHypothesis.width ▸ inWidth)
            (inductionHypothesis.height ▸ inHeight)
        · have earlier : index < count := by
            rcases Nat.lt_succ_iff_lt_or_eq.mp below with less | equal
            · exact less
            · exact absurd (equal ▸ inside) now
          rw [last.kept x y now]
          exact inductionHypothesis.reached x y ⟨index, earlier, inside⟩ inWidth inHeight
      · intro x y outside
        have notNow : ¬ region count x y := fun now =>
          outside ⟨count, Nat.lt_succ_self count, now⟩
        rw [last.kept x y notNow]
        refine inductionHypothesis.kept x y ?_
        rintro ⟨index, less, inside⟩
        exact outside ⟨index, Nat.lt_succ_of_lt less, inside⟩

/-- The grid after a value is written to each of the first points of a row. -/
def written (value : Nat -> Nat -> UInt8) (y width : Nat) (raster : Raster) : Raster :=
  Nat.fold width (fun x _ now => now.set x y (value x y)) raster

/-- The grid after a value is written to each point of the first rows. -/
def writtenRows (value : Nat -> Nat -> UInt8) (width height : Nat) (raster : Raster) : Raster :=
  Nat.fold height (fun y _ now => written value y width now) raster

theorem writtenRows_writes (value : Nat -> Nat -> UInt8) (width height : Nat)
    (raster : Raster) :
    Writes value
      (fun i j => Exists fun y => y < height ∧ Exists fun x => x < width ∧ i = x ∧ j = y)
      raster (writtenRows value width height raster) := by
  refine writes_fold (fun y now => ?_) height raster
  exact writes_fold (fun x row => writes_set value x y row) width now

/-- A grid whose points are all written, row by row, has the values that were written. -/
theorem writtenRows_blank (value : Nat -> Nat -> UInt8) (width height : Nat) :
    writtenRows value width height (Raster.blank width height) =
      Raster.generate width height value := by
  have writes := writtenRows_writes value width height (Raster.blank width height)
  refine Raster.ext_get? writes.width writes.height ?_
  intro x y
  rw [Raster.get?_generate]
  by_cases inside : x < width ∧ y < height
  · rw [if_pos inside]
    exact writes.reached x y ⟨y, inside.2, x, inside.1, rfl, rfl⟩ inside.1 inside.2
  · have untouched : ¬ Exists fun row => row < height ∧
        Exists fun column => column < width ∧ x = column ∧ y = row := by
      rintro ⟨row, inHeight, column, inWidth, rfl, rfl⟩
      exact inside ⟨inWidth, inHeight⟩
    have nowhere : ¬ (x < (Raster.blank width height).width ∧
        y < (Raster.blank width height).height) := inside
    rw [if_neg inside, writes.kept x y untouched, Raster.get?_nat, if_neg nowhere]

section

variable {σ : Type u} {host : ScriptHost σ} {base : MaterialPair} {layers : List Layer}
variable {shown : Nat -> Nat -> MaterialPair}

theorem paintRow_rasters
    (shows : ∀ (x y : Nat) state, (Layer.paintAll host x y layers (base, state)).1 = shown x y)
    (y width : Nat) (canvas : Canvas σ) :
    (canvas.paintRow host base layers y width).foreground =
        written (fun x y => (shown x y).foreground) y width canvas.foreground ∧
      (canvas.paintRow host base layers y width).background =
        written (fun x y => (shown x y).background) y width canvas.background := by
  induction width with
  | zero => exact ⟨rfl, rfl⟩
  | succ width inductionHypothesis =>
      have point : canvas.paintRow host base layers y (width + 1) =
          (canvas.paintRow host base layers y width).paintPoint host base layers width y := rfl
      have pixel := shows width y (canvas.paintRow host base layers y width).state
      rw [point]
      simp only [Canvas.paintPoint, pixel, inductionHypothesis]
      exact ⟨rfl, rfl⟩

theorem paintRows_rasters
    (shows : ∀ (x y : Nat) state, (Layer.paintAll host x y layers (base, state)).1 = shown x y)
    (width height : Nat) (canvas : Canvas σ) :
    (canvas.paintRows host base layers width height).foreground =
        writtenRows (fun x y => (shown x y).foreground) width height canvas.foreground ∧
      (canvas.paintRows host base layers width height).background =
        writtenRows (fun x y => (shown x y).background) width height canvas.background := by
  induction height with
  | zero => exact ⟨rfl, rfl⟩
  | succ height inductionHypothesis =>
      have row : canvas.paintRows host base layers width (height + 1) =
          (canvas.paintRows host base layers width height).paintRow host base layers height
            width := rfl
      have painted := paintRow_rasters shows height width
        (canvas.paintRows host base layers width height)
      rw [row, painted.1, painted.2, inductionHypothesis.1, inductionHypothesis.2]
      exact ⟨rfl, rfl⟩

/-- A map is painted as its last overlays show it. -/
theorem paint_rasters {answers : Answers} (gives : host.Gives answers) (resolver : Resolver)
    (map : Node) (width height : Nat) (state : σ) :
    (paint host resolver map width height state).foreground =
        Raster.generate width height
          (fun x y => (shownAt answers resolver map (width, height) x y).foreground) ∧
      (paint host resolver map width height state).background =
        Raster.generate width height
          (fun x y => (shownAt answers resolver map (width, height) x y).background) := by
  have shows : ∀ (x y : Nat) state,
      (Layer.paintAll host x y (Layer.ofNode resolver (mapArea width height) map).children
        (baseMaterial resolver map, state)).1 =
          shownAt answers resolver map (width, height) x y := by
    intro x y state
    cases map with
    | mk header attributes children =>
        exact paint_ofNodes resolver x y gives [] (mapArea width height) rfl children _ state
  have painted := paintRows_rasters shows width height
    ⟨Raster.blank width height, Raster.blank width height, state⟩
  rw [← writtenRows_blank, ← writtenRows_blank]
  exact painted

end

/-! ## Renderings -/

/-- The settings of a map, apart from its material, decide nothing. -/
theorem render_eq_of_material {σ : Type u} (host : ScriptHost σ) (resolver : Resolver)
    (format : MapFormat) (players : Nat) (header : NodeHeader)
    {attributes others : Attributes} (material : others.materialSpec = attributes.materialSpec)
    (children : List Node) (state : σ) :
    render host resolver format players (.mk header others children) state =
      render host resolver format players (.mk header attributes children) state := by
  have messages : unknownMaterials resolver (.mk header others children) =
      unknownMaterials resolver (.mk header attributes children) := by
    have own : unknownMaterial? resolver (.mk header others children) =
        unknownMaterial? resolver (.mk header attributes children) := by
      simp only [unknownMaterial?, Node.attributes, Node.header, material]
    simp only [unknownMaterials, Node.preorder, List.filterMap_cons, own]
  simp only [render, paint, baseMaterial, Layer.ofNode, Layer.children, Node.attributes,
    material, messages]

/-- **What a rendering shows.**  At every point of a rendered map stands the material of the
last overlay, in the order of the description, that is no mask, has a known material, and
covers the point together with all overlays around it; where there is none, the map's own
material or the sky stands.  Without a host, script overlays cover nothing.  Of the settings of
the map itself only the material has an effect. -/
theorem render_shows_last_overlay {σ : Type u} {host : ScriptHost σ} {answers : Answers}
    (gives : host.Gives answers) (resolver : Resolver) (format : MapFormat) (players : Nat)
    (map : Node) (state : σ) :
    let size := format.sizeFor players
    let rendering := render host resolver format players map state
    let alone := renderAlone resolver format players map
    rendering.foreground = Raster.generate size.1 size.2
        (fun x y => (shownAt answers resolver map size x y).foreground) ∧
      rendering.background = Raster.generate size.1 size.2
        (fun x y => (shownAt answers resolver map size x y).background) ∧
      alone.foreground = Raster.generate size.1 size.2
        (fun x y => (shownAt Answers.absent resolver map size x y).foreground) ∧
      alone.background = Raster.generate size.1 size.2
        (fun x y => (shownAt Answers.absent resolver map size x y).background) ∧
      (overlaysOf map size).map (fun placed => placed.block.node) = map.preorder.tail ∧
      ∀ others : Attributes, others.materialSpec = map.attributes.materialSpec ->
        render host resolver format players (.mk map.header others map.children) state =
          rendering ∧
        renderAlone resolver format players (.mk map.header others map.children) = alone := by
  intro size rendering alone
  have painted := paint_rasters gives resolver map size.1 size.2 state
  have paintedAlone := paint_rasters absent_gives resolver map size.1 size.2 none
  refine ⟨painted.1, painted.2, paintedAlone.1, paintedAlone.2, overlaysOf_nodes map size, ?_⟩
  intro others material
  cases map with
  | mk header attributes children =>
      refine ⟨render_eq_of_material host resolver format players header material children state,
        ?_⟩
      have same := render_eq_of_material ScriptHost.absent resolver format players header
        material children none
      simp only [renderAlone, alone, Node.header, Node.children, same]
      rfl

/-- A host that covers a diagonal and counts how often it is asked. -/
def diagonalHost : ScriptHost Nat where
  covers := fun asked _ x y => (decide (x = y), asked + 1)

/-- A map with an overlay inside of a mask, which shows beside the diagonal. -/
def besideDiagonal : Node :=
  .mk ⟨.map, none, Place.unknown⟩ { material := some "Earth" }
    [.mk ⟨.overlay, none, Place.unknown⟩ { pattern := .script, invert := true, mask := true }
      [.mk ⟨.overlay, none, Place.unknown⟩ { material := some "Gold", width := 67 } []]]

theorem render_shows_last_overlay_diagonal :
    diagonalHost.Gives (fun _ x y => decide (x = y)) ∧
      (render diagonalHost ⟨[], [("earth", 1), ("gold", 2)]⟩ (MapFormat.fixed 3 3) 1
        besideDiagonal 0).foreground.cells = #[1, 2, 1, 2, 1, 1, 2, 2, 1] := by
  have gives : diagonalHost.Gives (fun _ x y => decide (x = y)) := fun _ _ _ _ => rfl
  refine ⟨gives, ?_⟩
  rw [(render_shows_last_overlay gives ⟨[], [("earth", 1), ("gold", 2)]⟩ (MapFormat.fixed 3 3) 1
    besideDiagonal 0).1]
  decide +kernel

end Landscape
end Landform
