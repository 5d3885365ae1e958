import Landform.Proofs.LastOverlay

namespace Landform
namespace Landscape

/-!
# What painting owes to its host

A host is asked about points in a fixed order and may change its state at every question, so
what is painted depends on its whole history.  Still painting is uniform in the host.  All it goes
by is whether a block covers a point, and that may be found in any way (`Sight`).  If two ways see
alike in states that are alike, at the overlays of a map and at its points, and their states stay
alike, then they paint the same and leave states that are alike (`paintBy_alike`).

For two hosts it is enough that they answer alike.  `paint_alike` is how statements about a host
inside of a session become statements about calls alone.  Two things hold of every host: the
rasters keep the size of the map, and a map without script overlays asks nothing.
-/

/-! ## Layers -/

theorem ofNodes_cons (resolver : Resolver) (area : Area) (node : Node) (rest : List Node) :
    Layer.ofNodes resolver area (node :: rest) =
      Layer.ofNode resolver (area.inside node.attributes) node ::
        Layer.ofNodes resolver area rest := by
  cases node
  rfl

theorem ofNode_eq (resolver : Resolver) (area : Area) (node : Node) :
    Layer.ofNode resolver area node =
      .mk node area (node.attributes.materialSpec.bind resolver.resolve)
        (Layer.ofNodes resolver area node.children) := by
  cases node
  rfl

/-! ## Points -/

/-- The points of a map of a size: rows from the top, and in a row points from the left. -/
def pointsOf (size : Nat × Nat) : List (Nat × Nat) :=
  (List.range size.2).flatMap fun y => (List.range size.1).map fun x => (x, y)

theorem mem_pointsOf {size point : Nat × Nat} :
    point ∈ pointsOf size ↔ point.1 < size.1 ∧ point.2 < size.2 := by
  rcases point with ⟨x, y⟩
  simp only [pointsOf, List.mem_flatMap, List.mem_map, List.mem_range, Prod.mk.injEq]
  constructor
  · rintro ⟨row, inHeight, column, inWidth, rfl, rfl⟩
    exact ⟨inWidth, inHeight⟩
  · rintro ⟨inWidth, inHeight⟩
    exact ⟨y, inHeight, x, inWidth, rfl, rfl⟩

section

variable {σ : Type u} (host : ScriptHost σ) (base : MaterialPair) (layers : List Layer)

/-- Paints some points one after another. -/
def Canvas.paintPoints (points : List (Nat × Nat)) (canvas : Canvas σ) : Canvas σ :=
  points.foldl (fun painted point => painted.paintPoint host base layers point.1 point.2) canvas

theorem paintPoints_append (first second : List (Nat × Nat)) (canvas : Canvas σ) :
    canvas.paintPoints host base layers (first ++ second) =
      (canvas.paintPoints host base layers first).paintPoints host base layers second :=
  List.foldl_append

theorem paintRow_eq_points (y width : Nat) (canvas : Canvas σ) :
    canvas.paintRow host base layers y width =
      canvas.paintPoints host base layers ((List.range width).map fun x => (x, y)) := by
  induction width with
  | zero => rfl
  | succ width inductionHypothesis =>
      rw [List.range_succ, List.map_append, paintPoints_append, ← inductionHypothesis]
      rfl

/-- The points of a map are painted one after another. -/
theorem paintRows_eq_points (width height : Nat) (canvas : Canvas σ) :
    canvas.paintRows host base layers width height =
      canvas.paintPoints host base layers (pointsOf (width, height)) := by
  induction height with
  | zero => rfl
  | succ height inductionHypothesis =>
      have rows : pointsOf (width, height + 1) =
          pointsOf (width, height) ++ (List.range width).map fun x => (x, height) := by
        simp only [pointsOf, List.range_succ, List.flatMap_append, List.flatMap_singleton]
      rw [rows, paintPoints_append, ← inductionHypothesis, ← paintRow_eq_points]
      rfl

end

/-! ## Sights -/

/-- What a painter goes by: whether a block in an area covers a point of the map.  Looking may
change a state. -/
abbrev Sight (σ : Type u) := Node -> Area -> Int -> Int -> σ -> Bool × σ

section

variable {σ : Type u} (sight : Sight σ)

mutual

/-- Takes a point of the map through a layer and everything inside it, by a sight. -/
def Layer.paintBy (x y : Int) : Layer -> MaterialPair × σ -> MaterialPair × σ
  | .mk node area material children, (below, state) =>
      if area.contains x y then
        match sight node area x y state with
        | (true, next) =>
            Layer.paintAllBy x y children (laidOver node.attributes.mask material below, next)
        | (false, next) => (below, next)
      else (below, state)

/-- Takes a point of the map through several layers, by a sight. -/
def Layer.paintAllBy (x y : Int) : List Layer -> MaterialPair × σ -> MaterialPair × σ
  | [], below => below
  | layer :: rest, below => Layer.paintAllBy x y rest (Layer.paintBy x y layer below)

end

/-- Paints one point by a sight. -/
def Canvas.paintPointBy (base : MaterialPair) (layers : List Layer) (canvas : Canvas σ)
    (point : Nat × Nat) : Canvas σ :=
  let (shown, next) := Layer.paintAllBy sight point.1 point.2 layers (base, canvas.state)
  ⟨canvas.foreground.set point.1 point.2 shown.foreground,
    canvas.background.set point.1 point.2 shown.background, next⟩

/-- Paints a map of a size by a sight, one point after another. -/
def paintBy (resolver : Resolver) (map : Node) (size : Nat × Nat) (state : σ) : Canvas σ :=
  (pointsOf size).foldl
    (Canvas.paintPointBy sight (baseMaterial resolver map)
      (Layer.ofNodes resolver (mapArea size.1 size.2) map.children))
    ⟨Raster.blank size.1 size.2, Raster.blank size.1 size.2, state⟩

end

section

variable {σ : Type u} (host : ScriptHost σ)

mutual

theorem layerPaintBy_coversPoint (x y : Int) : ∀ (layer : Layer) (below : MaterialPair)
    (state : σ), Layer.paintBy (coversPoint host) x y layer (below, state) =
      Layer.paint host x y layer (below, state)
  | .mk node area material children, below, state => by
      rw [Layer.paintBy, Layer.paint]
      split
      · rcases coversPoint host node area x y state with ⟨covers, next⟩
        cases covers with
        | true => exact layersPaintBy_coversPoint x y children _ next
        | false => rfl
      · rfl

theorem layersPaintBy_coversPoint (x y : Int) : ∀ (layers : List Layer) (below : MaterialPair)
    (state : σ), Layer.paintAllBy (coversPoint host) x y layers (below, state) =
      Layer.paintAll host x y layers (below, state)
  | [], below, state => rfl
  | layer :: rest, below, state => by
      rw [Layer.paintAllBy, Layer.paintAll, layerPaintBy_coversPoint x y layer below state]
      exact layersPaintBy_coversPoint x y rest _ _

end

/-- Painting with a host is painting by what its answers let one see. -/
theorem paintBy_coversPoint (resolver : Resolver) (map : Node) (width height : Nat) (state : σ) :
    paintBy (coversPoint host) resolver map (width, height) state =
      paint host resolver map width height state := by
  have point (base : MaterialPair) (layers : List Layer) :
      Canvas.paintPointBy (coversPoint host) base layers =
        fun canvas point => canvas.paintPoint host base layers point.1 point.2 := by
    funext canvas point
    rw [Canvas.paintPointBy, Canvas.paintPoint, layersPaintBy_coversPoint]
  simp only [paintBy, paint, paintRows_eq_points, Canvas.paintPoints, point, ofNode_eq,
    Layer.children]

end

/-! ## Sights that see alike -/

/-- What two sights do where they look at a block at a point of its area: if their states are
alike, they see the same, and leave states that are alike. -/
def SeeAlike {σ : Type u} {τ : Type v} (first : Sight σ) (second : Sight τ)
    (alike : σ -> τ -> Prop) (x y : Int) (block : Block) : Prop :=
  block.area.contains x y = true -> ∀ state other, alike state other ->
    (first block.node block.area x y state).1 = (second block.node block.area x y other).1 ∧
      alike (first block.node block.area x y state).2 (second block.node block.area x y other).2

section

variable {σ : Type u} {τ : Type v} {first : Sight σ} {second : Sight τ}
variable {alike : σ -> τ -> Prop} (resolver : Resolver) {x y : Int}

mutual

theorem layerPaintBy_alike (around : List Block) (area : Area) :
    ∀ node : Node,
      (∀ placed ∈ Placed.ofNode around area node, SeeAlike first second alike x y placed.block) ->
      ∀ (below : MaterialPair) (state : σ) (other : τ), alike state other ->
        let layer := Layer.ofNode resolver (area.inside node.attributes) node
        (Layer.paintBy first x y layer (below, state)).1 =
            (Layer.paintBy second x y layer (below, other)).1 ∧
          alike (Layer.paintBy first x y layer (below, state)).2
            (Layer.paintBy second x y layer (below, other)).2
  | .mk header attributes children, see, below, state, other, before => by
      have here := see _ List.mem_cons_self
      simp only [Node.attributes, Layer.ofNode, Layer.paintBy]
      split
      · rename_i contained
        have seen := here contained state other before
        rcases own : first (.mk header attributes children) (area.inside attributes) x y state with
          ⟨covers, next⟩
        rcases others : second (.mk header attributes children) (area.inside attributes) x y other
          with ⟨otherCovers, otherNext⟩
        simp only [own, others] at seen
        rcases seen with ⟨same, after⟩
        subst same
        cases covers with
        | true =>
            exact layersPaintBy_alike _ _ children
              (fun placed member => see placed (List.mem_cons_of_mem _ member)) _ next otherNext
              after
        | false => exact ⟨rfl, after⟩
      · exact ⟨rfl, before⟩

theorem layersPaintBy_alike (around : List Block) (area : Area) :
    ∀ nodes : List Node,
      (∀ placed ∈ Placed.ofNodes around area nodes,
        SeeAlike first second alike x y placed.block) ->
      ∀ (below : MaterialPair) (state : σ) (other : τ), alike state other ->
        let layers := Layer.ofNodes resolver area nodes
        (Layer.paintAllBy first x y layers (below, state)).1 =
            (Layer.paintAllBy second x y layers (below, other)).1 ∧
          alike (Layer.paintAllBy first x y layers (below, state)).2
            (Layer.paintAllBy second x y layers (below, other)).2
  | [], _, below, state, other, before => ⟨rfl, before⟩
  | node :: rest, see, below, state, other, before => by
      have here := layerPaintBy_alike around area node
        (fun placed member => see placed (List.mem_append_left _ member)) below state other before
      simp only [ofNodes_cons, Layer.paintAllBy]
      rcases own : Layer.paintBy first x y
        (Layer.ofNode resolver (area.inside node.attributes) node) (below, state) with ⟨shown, next⟩
      rcases others : Layer.paintBy second x y
        (Layer.ofNode resolver (area.inside node.attributes) node) (below, other) with
        ⟨otherShown, otherNext⟩
      simp only [own, others] at here
      rcases here with ⟨same, after⟩
      subst same
      exact layersPaintBy_alike around area rest
        (fun placed member => see placed (List.mem_append_right _ member)) shown next otherNext
        after

end

/-- Two canvases that show the same, with states that are alike. -/
def Canvas.Alike (alike : σ -> τ -> Prop) (canvas : Canvas σ) (other : Canvas τ) : Prop :=
  canvas.foreground = other.foreground ∧ canvas.background = other.background ∧
    alike canvas.state other.state

/-- Sights that see the overlays of a map alike, at each of its points, paint it alike. -/
theorem paintBy_alike {map : Node} {size : Nat × Nat}
    (see : ∀ point ∈ pointsOf size, ∀ placed ∈ overlaysOf map size,
      SeeAlike first second alike point.1 point.2 placed.block)
    {state : σ} {other : τ} (before : alike state other) :
    (paintBy first resolver map size state).Alike alike
      (paintBy second resolver map size other) := by
  refine List.foldl_rel ⟨rfl, rfl, before⟩ ?_
  rintro point member canvas others ⟨fores, backs, states⟩
  have seen := layersPaintBy_alike resolver [] (mapArea size.1 size.2) map.children
    (see point member) (baseMaterial resolver map) canvas.state others.state states
  simp only [Canvas.Alike, Canvas.paintPointBy, fores, backs, seen.1, true_and]
  exact seen.2

end

/-! ## Hosts that answer alike -/

section

variable {σ : Type u} {τ : Type v} {first : ScriptHost σ} {second : ScriptHost τ}
variable {alike : σ -> τ -> Prop}

/-- In states that are alike two hosts give the same answers, and their states stay alike. -/
def AnswerAlike (first : ScriptHost σ) (second : ScriptHost τ) (alike : σ -> τ -> Prop) : Prop :=
  ∀ state other, alike state other -> ∀ function x y,
    (first.covers state function x y).1 = (second.covers other function x y).1 ∧
      alike (first.covers state function x y).2 (second.covers other function x y).2

theorem coversPoint_alike (same : AnswerAlike first second alike) (x y : Int) (block : Block) :
    SeeAlike (coversPoint first) (coversPoint second) alike x y block := by
  intro _ state other before
  simp only [coversPoint]
  cases block.node.attributes.pattern with
  | script =>
      have asked := same state other before block.node.scriptFunction
        (block.area.localPoint block.node.attributes x y).x
        (block.area.localPoint block.node.attributes x y).y
      simp only [asked.1, true_and]
      exact asked.2
  | _ => exact ⟨rfl, before⟩

/-- Hosts that answer alike paint the same map. -/
theorem paint_alike (same : AnswerAlike first second alike) (resolver : Resolver) (map : Node)
    (width height : Nat) {state : σ} {other : τ} (before : alike state other) :
    (paint first resolver map width height state).foreground =
        (paint second resolver map width height other).foreground ∧
      (paint first resolver map width height state).background =
        (paint second resolver map width height other).background ∧
      alike (paint first resolver map width height state).state
        (paint second resolver map width height other).state := by
  rw [← paintBy_coversPoint, ← paintBy_coversPoint]
  exact paintBy_alike resolver
    (fun point _ placed _ => coversPoint_alike same point.1 point.2 placed.block) before

/-- A host that does what another one does, on states told from the other's, paints the same
map and leaves the state told from the other's. -/
theorem paint_told {tell : σ -> τ}
    (same : AnswerAlike first second fun state other => other = tell state)
    (resolver : Resolver) (map : Node) (width height : Nat) (state : σ) :
    let painted := paint first resolver map width height state
    paint second resolver map width height (tell state) =
      ⟨painted.foreground, painted.background, tell painted.state⟩ := by
  rcases paint_alike same resolver map width height (show tell state = tell state from rfl) with
    ⟨fores, backs, left⟩
  rcases there : paint second resolver map width height (tell state) with
    ⟨foreground, background, last⟩
  rw [there] at fores backs left
  simp only [fores, backs, ← left]

end

/-! ## Any host -/

/-- What every question keeps of the state of a host, painting keeps. -/
theorem paint_keeps {σ : Type u} (host : ScriptHost σ) (kept : σ -> Prop)
    (asked : ∀ state, kept state -> ∀ function x y, kept (host.covers state function x y).2)
    (resolver : Resolver) (map : Node) (width height : Nat) {state : σ} (before : kept state) :
    kept (paint host resolver map width height state).state := by
  have same : AnswerAlike host host (fun state other => state = other ∧ kept state) := by
    rintro state other ⟨equal, now⟩ function x y
    subst equal
    exact ⟨rfl, rfl, asked state now function x y⟩
  have painted := paint_alike same resolver map width height
    (show state = state ∧ kept state from ⟨rfl, before⟩)
  exact painted.2.2.2

section

variable {σ : Type u} (host : ScriptHost σ)

/-- What painting a point keeps of a canvas, painting all points keeps. -/
theorem paintRows_keep {base : MaterialPair} {layers : List Layer} (kept : Canvas σ -> Prop)
    (point : ∀ canvas x y, kept canvas -> kept (canvas.paintPoint host base layers x y))
    (width height : Nat) {canvas : Canvas σ} (before : kept canvas) :
    kept (canvas.paintRows host base layers width height) := by
  rw [paintRows_eq_points]
  exact List.foldlRecOn _ _ before fun now keeps place _ => point now place.1 place.2 keeps

/-- A painted map has the size that was asked for. -/
theorem paint_sides (resolver : Resolver) (map : Node) (width height : Nat) (state : σ) :
    (paint host resolver map width height state).foreground.width = width ∧
      (paint host resolver map width height state).foreground.height = height ∧
      (paint host resolver map width height state).background.width = width ∧
      (paint host resolver map width height state).background.height = height := by
  let sides : Canvas σ -> Prop := fun canvas =>
    canvas.foreground.width = width ∧ canvas.foreground.height = height ∧
      canvas.background.width = width ∧ canvas.background.height = height
  have start : sides ⟨Raster.blank width height, Raster.blank width height, state⟩ :=
    ⟨rfl, rfl, rfl, rfl⟩
  refine paintRows_keep host sides ?_ width height start
  intro canvas x y kept
  simpa only [sides, Canvas.paintPoint, Raster.set_width, Raster.set_height] using kept

/-- Blocks none of which asks a script. -/
def AskNothing (nodes : List Node) : Prop :=
  ∀ inner ∈ Node.preorderAll nodes, inner.attributes.pattern ≠ .script

theorem coversPoint_unasked {node : Node} (unasked : node.attributes.pattern ≠ .script)
    (area : Area) (x y : Int) (state : σ) :
    (coversPoint host node area x y state).2 = state := by
  unfold coversPoint
  cases pattern : node.attributes.pattern with
  | script => exact absurd pattern unasked
  | _ => simp only [pattern]

/-- A map without script overlays leaves its host as it was. -/
theorem paint_unasked (resolver : Resolver) (map : Node) (unasked : AskNothing map.children)
    (width height : Nat) (state : σ) :
    (paint host resolver map width height state).state = state := by
  let still : σ -> σ -> Prop := fun now other => now = state ∧ other = state
  have see : ∀ point ∈ pointsOf (width, height), ∀ placed ∈ overlaysOf map (width, height),
      SeeAlike (coversPoint host) (coversPoint host) still point.1 point.2 placed.block := by
    rintro point _ placed member _ now other ⟨here, there⟩
    have inner : placed.block.node ∈ Node.preorderAll map.children := by
      rw [← placed_nodes [] (mapArea width height) map.children]
      exact List.mem_map_of_mem member
    have leaves := coversPoint_unasked host (unasked _ inner) placed.block.area point.1 point.2
    rw [here, there]
    exact ⟨rfl, leaves state, leaves state⟩
  have painted := paintBy_alike resolver see (show still state state from ⟨rfl, rfl⟩)
  rw [← paintBy_coversPoint]
  exact painted.2.2.1

end

end Landscape
end Landform
