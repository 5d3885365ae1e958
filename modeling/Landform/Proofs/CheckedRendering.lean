import Landform.Proofs.CheckedPatterns
import Landform.Proofs.Grammar
import Landform.Proofs.LastOverlay
import Landform.Proofs.ReadTrees

namespace Landform
namespace Landscape

open Number

/-!
# Rendering in arithmetic that can fail

The painter is followed once more, now with areas, points and patterns computed in arithmetic
that can fail.  It gives nothing as soon as one of the operations it comes to does; what it does
not come to cannot fail.  It comes to an overlay if all overlays around it cover the point and
the point lies in its area.

Of a description that was read all numbers have 32 bits, whatever its depth.  So only checkers
with squares of one point can fail, and `render_checked` says where they do.  That they do is
not only a possibility: overlays inside of overlays take coordinates to the end of the range.
-/

/-!
## The painter

Each definition is the one whose name lacks the question mark, with operations that can fail.
-/

section

variable {σ : Type u} (host : ScriptHost σ)

def coversPoint? (node : Node) (area : Area) (x y : Int) (state : σ) : Option (Bool × σ) :=
  let attributes := node.attributes
  (area.localPoint? attributes x y).bind fun point =>
    match attributes.pattern with
    | .script =>
        let (covered, next) := host.covers state node.scriptFunction point.x point.y
        some (covered != attributes.invert, next)
    | pattern =>
        (pattern.covers? attributes.measures point).map fun covered =>
          (covered != attributes.invert, state)

mutual

def Layer.ofNode? (resolver : Resolver) (area : Area) : Node -> Option Layer
  | .mk header attributes children =>
      (Layer.ofNodes? resolver area children).map
        (.mk (.mk header attributes children) area
          (attributes.materialSpec.bind resolver.resolve))

def Layer.ofNodes? (resolver : Resolver) (area : Area) : List Node -> Option (List Layer)
  | [] => some []
  | .mk header attributes children :: rest => do
      let within ← area.inside? attributes
      let first ← Layer.ofNode? resolver within (.mk header attributes children)
      let others ← Layer.ofNodes? resolver area rest
      some (first :: others)

end

mutual

def Layer.paint? (x y : Int) : Layer -> MaterialPair × σ -> Option (MaterialPair × σ)
  | .mk node area material children, (below, state) =>
      if area.contains x y then
        match coversPoint? host node area x y state with
        | none => none
        | some (true, next) =>
            Layer.paintAll? x y children (laidOver node.attributes.mask material below, next)
        | some (false, next) => some (below, next)
      else some (below, state)

def Layer.paintAll? (x y : Int) : List Layer -> MaterialPair × σ -> Option (MaterialPair × σ)
  | [], below => some below
  | layer :: rest, below => (Layer.paint? x y layer below).bind (Layer.paintAll? x y rest)

end

namespace Canvas

variable (base : MaterialPair) (layers : List Layer)

def paintPoint? (x y : Nat) (canvas : Canvas σ) : Option (Canvas σ) :=
  let ⟨foreground, background, state⟩ := canvas
  (Layer.paintAll? host x y layers (base, state)).map fun (shown, next) =>
    ⟨foreground.set x y shown.foreground, background.set x y shown.background, next⟩

def paintRow? (y width : Nat) (canvas : Canvas σ) : Option (Canvas σ) :=
  Nat.fold width (fun x _ painted => painted.bind (paintPoint? host base layers x y))
    (some canvas)

def paintRows? (width height : Nat) (canvas : Canvas σ) : Option (Canvas σ) :=
  Nat.fold height (fun y _ painted => painted.bind (paintRow? host base layers y width))
    (some canvas)

end Canvas

def paint? (resolver : Resolver) (map : Node) (width height : Nat) (state : σ) :
    Option (Canvas σ) :=
  (Layer.ofNode? resolver (mapArea width height) map).bind fun root =>
    Canvas.paintRows? host (baseMaterial resolver map) root.children width height
      ⟨Raster.blank width height, Raster.blank width height, state⟩

def render? (resolver : Resolver) (format : MapFormat) (players : Nat) (map : Node)
    (state : σ) : Option (Rendering σ) :=
  let (width, height) := format.sizeFor players
  (paint? host resolver map width height state).map fun canvas =>
    ⟨canvas.foreground, canvas.background, unknownMaterials resolver map, canvas.state⟩

end

/-! ## Blocks at a point -/

/-- Attributes whose measures have 32 bits. -/
def Attributes.Measured (attributes : Attributes) : Prop :=
  attributes.a ≤ 2147483647 ∧ attributes.b ≤ 2147483647

/-- Overlays whose measures have 32 bits. -/
def AllMeasured (overlays : List Placed) : Prop :=
  ∀ placed ∈ overlays, placed.block.node.attributes.Measured

/-- Whether a point lies in the area of a block, and its pattern overflows there. -/
def Block.overflows (x y : Int) (block : Block) : Bool :=
  let attributes := block.node.attributes
  block.area.contains x y &&
    attributes.pattern.overflows attributes.measures (block.area.localPoint attributes x y)

/-- Whether an overlay overflows at a point that it is come to: all around it cover the point. -/
def Placed.overflows (answers : Answers) (x y : Int) (placed : Placed) : Bool :=
  placed.block.overflows x y && placed.around.all (Block.covers answers x y)

section

variable {σ : Type u} {host : ScriptHost σ} {x y : Int}

/-- A block fails at a point just where its pattern overflows. -/
theorem coversPoint_checked {node : Node} (measured : node.attributes.Measured) (area : Area)
    (state : σ) (contained : area.contains x y = true) :
    coversPoint? host node area x y state =
      if Block.overflows x y ⟨node, area⟩ then none
      else some (coversPoint host node area x y state) := by
  have column : int64.contains (area.localPoint node.attributes x y).x = true :=
    Area.contains_zoomed _ _
  have row : int64.contains (area.localPoint node.attributes x y).y = true :=
    Area.contains_zoomed _ _
  have covers := covers_checked node.attributes.pattern
    (show node.attributes.measures.a ≤ 2147483647 from measured.1)
    (show node.attributes.measures.b ≤ 2147483647 from measured.2) column row
  simp only [coversPoint?, coversPoint, Area.localPoint_checked, Option.bind_some,
    Block.overflows, contained, Bool.true_and]
  cases pattern : node.attributes.pattern with
  | script => rfl
  | _ =>
      rw [pattern] at covers
      simp only [covers]
      split <;> rfl

variable (resolver : Resolver)

mutual

theorem layer_checked (area : Area) : ∀ node : Node,
    Layer.ofNode? resolver area node = some (Layer.ofNode resolver area node)
  | .mk header attributes children => by
      rw [Layer.ofNode?, layers_checked area children, Option.map_some, Layer.ofNode]

theorem layers_checked (area : Area) : ∀ nodes : List Node,
    Layer.ofNodes? resolver area nodes = some (Layer.ofNodes resolver area nodes)
  | [] => by rw [Layer.ofNodes?, Layer.ofNodes]
  | .mk header attributes children :: rest => by
      simp only [Layer.ofNodes?, Area.inside_checked, layer_checked, layers_checked area rest,
        Option.bind_eq_bind, Option.bind_some, Layer.ofNodes]

end

/-! ## The painter at a point -/

/-- Blocks that the painter may go into: at a point, all that some state of a host covers. -/
def MayEnter (host : ScriptHost σ) (x y : Int) (may : Block -> Prop) : Prop :=
  ∀ block : Block, ∀ state, block.area.contains x y = true ->
    (coversPoint host block.node block.area x y state).1 = true -> may block

/-- Overlays of which none overflows that the painter may come to. -/
def Secure (x y : Int) (may : Block -> Prop) (overlays : List Placed) : Prop :=
  ∀ placed ∈ overlays, (∀ block ∈ placed.around, may block) -> placed.block.overflows x y = false

variable {may : Block -> Prop}

mutual

/-- The painter does not fail in an overlay if nothing overflows that it may come to. -/
theorem paint_secure (enters : MayEnter host x y may) (around : List Block) (area : Area)
    (outer : ∀ block ∈ around, may block) :
    ∀ node : Node, AllMeasured (Placed.ofNode around area node) ->
      Secure x y may (Placed.ofNode around area node) ->
      ∀ (below : MaterialPair) (state : σ),
        Layer.paint? host x y (Layer.ofNode resolver (area.inside node.attributes) node)
            (below, state) =
          some (Layer.paint host x y
            (Layer.ofNode resolver (area.inside node.attributes) node) (below, state))
  | .mk header attributes children, measured, secure, below, state => by
      let block : Block := ⟨.mk header attributes children, area.inside attributes⟩
      simp only [Node.attributes, Layer.ofNode, Layer.paint?, Layer.paint]
      cases contained : (area.inside attributes).contains x y with
      | false => rfl
      | true =>
          have checked : coversPoint? host block.node block.area x y state =
              some (coversPoint host block.node block.area x y state) := by
            rw [coversPoint_checked (measured _ List.mem_cons_self) block.area state contained,
              secure _ List.mem_cons_self outer]
            rfl
          rcases covered : coversPoint host block.node block.area x y state with ⟨answer, next⟩
          rw [covered] at checked
          simp only [block] at checked
          simp only [checked, if_true]
          cases answer with
          | false => rfl
          | true =>
              -- The block has covered the point in this state of the host, so it may be entered.
              have entered : may block := enters block state contained (by rw [covered])
              refine paintAll_secure enters (around ++ [block]) _ ?_ children ?_ ?_ _ _
              · intro inner member
                rcases List.mem_append.mp member with before | last
                · exact outer inner before
                · rw [List.mem_singleton.mp last]
                  exact entered
              · exact fun placed member => measured placed (List.mem_cons_of_mem _ member)
              · exact fun placed member => secure placed (List.mem_cons_of_mem _ member)

theorem paintAll_secure (enters : MayEnter host x y may) (around : List Block) (area : Area)
    (outer : ∀ block ∈ around, may block) :
    ∀ nodes : List Node, AllMeasured (Placed.ofNodes around area nodes) ->
      Secure x y may (Placed.ofNodes around area nodes) ->
      ∀ (below : MaterialPair) (state : σ),
        Layer.paintAll? host x y (Layer.ofNodes resolver area nodes) (below, state) =
          some (Layer.paintAll host x y (Layer.ofNodes resolver area nodes) (below, state))
  | [], _, _, below, state => rfl
  | .mk header attributes children :: rest, measured, secure, below, state => by
      have first := paint_secure enters around area outer (.mk header attributes children)
        (fun placed member => measured placed (List.mem_append_left _ member))
        (fun placed member => secure placed (List.mem_append_left _ member)) below state
      simp only [Node.attributes] at first
      rw [Layer.ofNodes, Layer.paintAll?, Layer.paintAll, first]
      exact paintAll_secure enters around area outer rest
        (fun placed member => measured placed (List.mem_append_right _ member))
        (fun placed member => secure placed (List.mem_append_right _ member)) _ _

end

variable {answers : Answers}

theorem paint_of_overflows {node : Node} {area : Area} (measured : node.attributes.Measured)
    (overflows : Block.overflows x y ⟨node, area⟩ = true) (material : Option MaterialPair)
    (children : List Layer) (below : MaterialPair) (state : σ) :
    Layer.paint? host x y (.mk node area material children) (below, state) = none := by
  have contained : area.contains x y = true := (Bool.and_eq_true_iff.mp overflows).1
  simp only [Layer.paint?, contained, coversPoint_checked measured area state contained,
    overflows, if_true]

/-- Where a layer covers a point, the painter fails, or goes on with the layers inside of it. -/
theorem paint_into (gives : host.Gives answers) {node : Node} {area : Area}
    (measured : node.attributes.Measured) (covers : Block.covers answers x y ⟨node, area⟩ = true)
    (material : Option MaterialPair) (children : List Layer) (below : MaterialPair) (state : σ) :
    Layer.paint? host x y (.mk node area material children) (below, state) = none ∨
      Exists fun painted : MaterialPair × σ =>
        Layer.paint? host x y (.mk node area material children) (below, state) =
          Layer.paintAll? host x y children painted := by
  rcases Bool.and_eq_true_iff.mp covers with ⟨contained, hits⟩
  have asked := coversPoint_eq_hits gives node area x y state
  rw [hits] at asked
  rcases covered : coversPoint host node area x y state with ⟨answer, next⟩
  rw [covered] at asked
  cases asked
  have checked := @coversPoint_checked σ host x y node measured area state contained
  cases overflows : Block.overflows x y ⟨node, area⟩ with
  | true => exact Or.inl (paint_of_overflows measured overflows material children below state)
  | false =>
      rw [overflows, covered] at checked
      refine Or.inr ⟨(laidOver node.attributes.mask material below, next), ?_⟩
      have inside : area.contains x y = true := contained
      simp only [Layer.paint?, inside, if_true, checked, Bool.false_eq_true, if_false]

mutual

/-- The painter fails in an overlay if it comes to one that overflows. -/
theorem paint_overflows (gives : host.Gives answers) (around : List Block) (area : Area) :
    ∀ node : Node, AllMeasured (Placed.ofNode around area node) ->
      (Exists fun placed => placed ∈ Placed.ofNode around area node ∧
        placed.overflows answers x y = true) ->
      ∀ (below : MaterialPair) (state : σ),
        Layer.paint? host x y (Layer.ofNode resolver (area.inside node.attributes) node)
          (below, state) = none
  | .mk header attributes children, measured, ⟨placed, member, overflows⟩, below, state => by
      let block : Block := ⟨.mk header attributes children, area.inside attributes⟩
      have own : block.node.attributes.Measured := measured _ List.mem_cons_self
      rcases Bool.and_eq_true_iff.mp overflows with ⟨outside, reached⟩
      rw [Layer.ofNode]
      rcases List.mem_cons.mp member with same | inner
      · rw [same] at outside
        exact paint_of_overflows own outside _ _ below state
      -- This block is one of those around the overlay that overflows, so it covers the point.
      · have outermost : block ∈ placed.around :=
          around_ofNodes _ _ children placed inner block
            (List.mem_append_right _ List.mem_cons_self)
        have covers : block.covers answers x y = true :=
          List.all_eq_true.mp reached block outermost
        rcases paint_into gives own covers (attributes.materialSpec.bind resolver.resolve)
          (Layer.ofNodes resolver (area.inside attributes) children) below state with
          fails | ⟨painted, goesOn⟩
        · exact fails
        · exact goesOn.trans (paintAll_overflows gives _ _ children
            (fun placed member => measured placed (List.mem_cons_of_mem _ member))
            ⟨placed, inner, overflows⟩ painted.1 painted.2)

theorem paintAll_overflows (gives : host.Gives answers) (around : List Block) (area : Area) :
    ∀ nodes : List Node, AllMeasured (Placed.ofNodes around area nodes) ->
      (Exists fun placed => placed ∈ Placed.ofNodes around area nodes ∧
        placed.overflows answers x y = true) ->
      ∀ (below : MaterialPair) (state : σ),
        Layer.paintAll? host x y (Layer.ofNodes resolver area nodes) (below, state) = none
  | [], _, ⟨_, impossible, _⟩, _, _ => (List.not_mem_nil impossible).elim
  | .mk header attributes children :: rest, measured, ⟨placed, member, overflows⟩, below,
      state => by
      rw [Layer.ofNodes, Layer.paintAll?]
      rcases List.mem_append.mp member with here | later
      · have first := paint_overflows gives around area (.mk header attributes children)
          (fun placed member => measured placed (List.mem_append_left _ member))
          ⟨placed, here, overflows⟩ below state
        simp only [Node.attributes] at first
        rw [first, Option.bind_none]
      · cases Layer.paint? host x y (Layer.ofNode resolver (area.inside attributes)
          (.mk header attributes children)) (below, state) with
        | none => rfl
        | some painted =>
            exact paintAll_overflows gives around area rest
              (fun placed member => measured placed (List.mem_append_right _ member))
              ⟨placed, later, overflows⟩ painted.1 painted.2

end

end

/-! ## All points -/

theorem fold_secure {α : Type u} {step? : Nat -> α -> Option α} {step : Nat -> α -> α}
    (count : Nat)
    (secure : ∀ index, index < count -> ∀ now, step? index now = some (step index now))
    (start : α) :
    Nat.fold count (fun index _ now => now.bind (step? index)) (some start) =
      some (Nat.fold count (fun index _ now => step index now) start) := by
  induction count with
  | zero => rfl
  | succ count inductionHypothesis =>
      rw [Nat.fold_succ, Nat.fold_succ,
        inductionHypothesis fun index below => secure index (Nat.lt_succ_of_lt below),
        Option.bind_some, secure count (Nat.lt_succ_self count)]

theorem fold_fails {α : Type u} {step? : Nat -> α -> Option α} {index count : Nat}
    (below : index < count) (fails : ∀ now, step? index now = none) (start : Option α) :
    Nat.fold count (fun index _ now => now.bind (step? index)) start = none := by
  induction count with
  | zero => exact absurd below (Nat.not_lt_zero index)
  | succ count inductionHypothesis =>
      rw [Nat.fold_succ]
      rcases Nat.lt_succ_iff_lt_or_eq.mp below with earlier | last
      · rw [inductionHypothesis earlier, Option.bind_none]
      · rw [← last]
        exact Option.bind_eq_none_iff.mpr fun now _ => fails now

section

variable {σ : Type u} {host : ScriptHost σ} (resolver : Resolver)

/-- A map is painted without failing if nothing overflows that the painter may come to. -/
theorem paint_some {may : Nat -> Nat -> Block -> Prop}
    (enters : ∀ x y : Nat, MayEnter host x y (may x y)) (map : Node) (width height : Nat)
    (measured : AllMeasured (overlaysOf map (width, height)))
    (secure : ∀ x y : Nat, x < width -> y < height ->
      Secure x y (may x y) (overlaysOf map (width, height))) (state : σ) :
    paint? host resolver map width height state =
      some (paint host resolver map width height state) := by
  rw [paint?, layer_checked, Option.bind_some]
  refine fold_secure height (fun y inHeight canvas => ?_) _
  refine fold_secure width (fun x inWidth now => ?_) canvas
  cases map with
  | mk header attributes children =>
      have painted := paintAll_secure resolver (enters x y) [] (mapArea width height)
        (List.forall_mem_nil _) children measured
        (secure x y inWidth inHeight) (baseMaterial resolver (.mk header attributes children))
        now.state
      simp only [Canvas.paintPoint?, Canvas.paintPoint, Layer.ofNode, Layer.children]
      rw [painted]
      rfl

/-- Painting fails if it comes to an overlay that overflows. -/
theorem paint_none {answers : Answers} (gives : host.Gives answers) (map : Node)
    {width height : Nat} (measured : AllMeasured (overlaysOf map (width, height))) {x y : Nat}
    (inWidth : x < width) (inHeight : y < height)
    (overflows : Exists fun placed => placed ∈ overlaysOf map (width, height) ∧
      placed.overflows answers x y = true) (state : σ) :
    paint? host resolver map width height state = none := by
  rw [paint?, layer_checked, Option.bind_some]
  refine fold_fails inHeight (fun canvas => ?_) _
  refine fold_fails inWidth (fun now => ?_) _
  cases map with
  | mk header attributes children =>
      have fails := paintAll_overflows resolver gives [] (mapArea width height) children measured
        overflows (baseMaterial resolver (.mk header attributes children)) now.state
      simp only [Canvas.paintPoint?, Layer.ofNode, Layer.children]
      rw [fails]
      rfl

end

/-! ## Numbers that were read -/

/-- The numbers among the attributes of a block. -/
def Attributes.numbers (attributes : Attributes) : List Int :=
  [attributes.x, attributes.y, attributes.width, attributes.height, attributes.zoomX,
    attributes.zoomY, attributes.a, attributes.b]

/-- Settings that are written somehow. -/
def AllWritten (settings : List Setting) : Prop :=
  ∀ setting ∈ settings, Exists fun keyWord => Exists fun valueWord =>
    setting.IsWritten keyWord valueWord

theorem lastValue_isValue {settings : List Setting} (written : AllWritten settings) {key : Key}
    {value : key.Value} (last : lastValue settings key = some value) :
    Exists fun word => key.IsValue word value := by
  rcases List.mem_filterMap.mp (List.mem_of_getLast? last) with ⟨setting, member, given⟩
  rcases written setting member with ⟨keyWord, valueWord, _, isValue⟩
  unfold Setting.valueOf? at given
  split at given
  · rename_i same
    subst same
    cases given
    exact ⟨valueWord, isValue⟩
  · cases given

theorem contains_number {value? : Option Int} {usual : Int}
    (inside : int32.contains usual = true)
    (written : ∀ n, value? = some n -> Exists fun word => IsNumber word n) :
    int32.contains (value?.getD usual) = true := by
  cases value? with
  | none => exact inside
  | some n =>
      rcases written n rfl with ⟨_, _, _, _, _, _, _, _, contained⟩
      exact contained

/-- What settings come to has numbers of 32 bits. -/
theorem ofSettings_numbers {settings : List Setting} (written : AllWritten settings) :
    ∀ n ∈ (Attributes.ofSettings settings).numbers, int32.contains n = true := by
  simp only [Attributes.numbers, List.forall_mem_cons]
  refine ⟨?_, ?_, ?_, ?_, ?_, ?_, ?_, ?_, List.forall_mem_nil _⟩
  all_goals exact contains_number (by decide) fun n last => lastValue_isValue written last

/-- Blocks that have, with all inside of them, numbers of 32 bits. -/
def AllNumbered (nodes : List Node) : Prop :=
  ∀ node ∈ nodes, ∀ inner ∈ node.preorder, ∀ n ∈ inner.attributes.numbers,
    int32.contains n = true

mutual

theorem numbered_block : ∀ {depth : Nat} {tokens : List Token} {node : Node},
    IsBlock depth tokens node -> AllNumbered [node]
  | _, _, _, @IsBlock.braced _ _ _ _ _ _ _ children _ _ _ _ _ _ items => by
      rcases numbered_items items with ⟨written, inside⟩
      intro node isBlock inner member
      rw [List.mem_singleton.mp isBlock] at member
      rcases List.mem_cons.mp member with same | deeper
      · rw [same]
        exact ofSettings_numbers written
      · rcases (mem_preorderAll children inner).mp deeper with ⟨child, held, below⟩
        exact inside child held inner below

theorem numbered_items : ∀ {depth : Nat} {tokens : List Token} {settings : List Setting}
    {nodes : List Node}, IsItems depth tokens settings nodes ->
      AllWritten settings ∧ AllNumbered nodes
  | _, _, _, _, .nothing =>
      ⟨List.forall_mem_nil _, List.forall_mem_nil _⟩
  | _, _, _, _, .semicolon before place => numbered_items before
  | _, _, _, _, .block before block => by
      rcases numbered_items before with ⟨written, earlier⟩
      refine ⟨written, fun node member => ?_⟩
      rcases List.mem_append.mp member with old | new
      · exact earlier node old
      · exact numbered_block block node new
  | _, _, _, _, .setting before key equals value free written => by
      rcases numbered_items before with ⟨earlier, nodes⟩
      refine ⟨fun setting member => ?_, nodes⟩
      rcases List.mem_append.mp member with old | new
      · exact earlier setting old
      · rw [List.mem_singleton.mp new]
        exact ⟨_, _, written⟩

end

/-- All numbers of a description that was read have 32 bits. -/
theorem ofText_numbers {source : String} {document : Document}
    (read : Document.ofText source = .ok document) : AllNumbered document.maps := by
  unfold Document.ofText at read
  split at read
  · exact (numbered_items ((Document.ofTokens_eq_ok_iff _ document).mp read)).2
  · cases read

/-- Every overlay of a map is in its tree. -/
theorem overlaysOf_mem {map : Node} {size : Nat × Nat} {placed : Placed}
    (inside : placed ∈ overlaysOf map size) : placed.block.node ∈ map.preorder := by
  apply List.mem_of_mem_tail
  rw [← overlaysOf_nodes map size]
  exact List.mem_map_of_mem inside

theorem ofText_measured {source : String} {document : Document}
    (read : Document.ofText source = .ok document) {map : Node} (member : map ∈ document.maps)
    (size : Nat × Nat) : AllMeasured (overlaysOf map size) := by
  intro placed inside
  have numbers := ofText_numbers read map member placed.block.node (overlaysOf_mem inside)
  simp only [Attributes.numbers, List.forall_mem_cons] at numbers
  rcases numbers with ⟨_, _, _, _, _, _, a, b, _⟩
  exact ⟨((int32.contains_iff _).mp a).2, ((int32.contains_iff _).mp b).2⟩

/-! ## Renderings -/

/-- **Where rendering fails.**  Take a map of a description that was read, a size of any kind,
and any host.  Only a checker with squares of one point can overflow.  If none does at a point
of the map, every operation stays in its range, none divides by zero, and the rendering is the
one in arithmetic without an end.  If the host's answers depend on nothing but the questions, it
is enough that none does that the painter comes to, and if one does, rendering fails. -/
theorem render_checked {source : String} {document : Document}
    (read : Document.ofText source = .ok document) {map : Node} (member : map ∈ document.maps)
    {σ : Type u} (host : ScriptHost σ) (resolver : Resolver) (format : MapFormat)
    (players : Nat) (state : σ) :
    let size := format.sizeFor players
    let rendering := render host resolver format players map state
    let checked := render? host resolver format players map state
    (∀ placed ∈ overlaysOf map size, ∀ x y, placed.block.overflows x y = true ->
        placed.block.node.attributes.pattern = .checker ∧
          placed.block.node.attributes.a = 1) ∧
      ((∀ x y : Nat, x < size.1 -> y < size.2 -> ∀ placed ∈ overlaysOf map size,
        placed.block.overflows x y = false) -> checked = some rendering) ∧
      ∀ answers : Answers, host.Gives answers ->
        ((∀ x y : Nat, x < size.1 -> y < size.2 -> ∀ placed ∈ overlaysOf map size,
          placed.overflows answers x y = false) -> checked = some rendering) ∧
        ∀ x y : Nat, x < size.1 -> y < size.2 ->
          (Exists fun placed => placed ∈ overlaysOf map size ∧
            placed.overflows answers x y = true) -> checked = none := by
  intro size rendering checked
  have measured : AllMeasured (overlaysOf map (size.1, size.2)) :=
    ofText_measured read member size
  have renders (may : Nat -> Nat -> Block -> Prop)
      (enters : ∀ x y : Nat, MayEnter host x y (may x y))
      (secure : ∀ x y : Nat, x < size.1 -> y < size.2 ->
        Secure x y (may x y) (overlaysOf map size)) : checked = some rendering :=
    congrArg (Option.map _)
      (paint_some resolver enters map size.1 size.2 measured secure state)
  refine ⟨?_, fun free => ?_, fun answers gives => ⟨fun free => ?_, ?_⟩⟩
  · intro placed _ x y overflows
    exact overflows_narrow (Area.contains_zoomed _ _) (Area.contains_zoomed _ _)
      (Bool.and_eq_true_iff.mp overflows).2
  -- Nothing is known of the host's answers, so any block may be entered.
  · exact renders (fun _ _ _ => True) (fun _ _ _ _ _ _ => trivial)
      fun x y inWidth inHeight placed inside _ => free x y inWidth inHeight placed inside
  · refine renders (fun x y block => block.covers answers x y = true) ?_ ?_
    · intro x y block state contained covered
      rw [coversPoint_eq_hits gives] at covered
      exact Bool.and_eq_true_iff.mpr ⟨contained, covered⟩
    · intro x y inWidth inHeight placed inside reached
      have unreached := free x y inWidth inHeight placed inside
      have all : placed.around.all (Block.covers answers x y) = true :=
        List.all_eq_true.mpr reached
      rwa [Placed.overflows, all, Bool.and_true] at unreached
  · intro x y inWidth inHeight overflows
    exact congrArg (Option.map _)
      (paint_none resolver gives map measured inWidth inHeight overflows state)

/-- A map with overlays inside of overlays, each twenty million times as wide as the one around
it.  The innermost lies beside the map but for its end, and shows one percent of its pattern. -/
def magnified (settings : String) : String :=
  "map\x7boverlay\x7bwdt=2000000000 hgt=2000000000 overlay\x7bwdt=2000000000 hgt=2000000000 " ++
    "overlay\x7bwdt=2000000000 hgt=2000000000 overlay\x7bx=-99 y=-99 zoomX=1 zoomY=1 mat=Earth " ++
    settings ++ "\x7d\x7d\x7d\x7d\x7d"

/-- Squares of two points are safe there. -/
theorem render_checked_magnified :
    Exists fun document => Document.ofText (magnified "algo=checker a=2") = .ok document ∧
      document.maps.length = 1 ∧ ∀ map ∈ document.maps,
        render? ScriptHost.absent ⟨[], [("earth", 1)]⟩ (MapFormat.fixed 1 1) 1 map none =
          some (render ScriptHost.absent ⟨[], [("earth", 1)]⟩ (MapFormat.fixed 1 1) 1 map
            none) := by
  have wide : (Document.ofText (magnified "algo=checker a=2")).toOption.map
      (fun document => (document.maps.length,
        (Node.preorderAll document.maps).all fun inner => inner.attributes.a != 1)) =
        some (1, true) := by
    decide +kernel
  cases read : Document.ofText (magnified "algo=checker a=2") with
  | error offence =>
      rw [read] at wide
      cases wide
  | ok document =>
      rw [read] at wide
      rcases Prod.mk.inj (Option.some.inj wide) with ⟨one, wider⟩
      refine ⟨document, rfl, one, fun map member => ?_⟩
      rcases render_checked read member ScriptHost.absent ⟨[], [("earth", 1)]⟩
        (MapFormat.fixed 1 1) 1 none with ⟨narrow, safe, _⟩
      refine safe fun x y _ _ placed inside => Bool.eq_false_iff.mpr fun overflows => ?_
      have other := List.all_eq_true.mp wider placed.block.node
        ((mem_preorderAll _ _).mpr ⟨map, member, overlaysOf_mem inside⟩)
      rw [(narrow placed inside x y overflows).2] at other
      cases other

/-- Squares of one point are not, although the rendering itself has nothing special. -/
theorem render_magnified_fails :
    Exists fun document => Document.ofText (magnified "algo=checker a=1") = .ok document ∧
      Exists fun map => map ∈ document.maps ∧
        render? ScriptHost.absent ⟨[], [("earth", 1)]⟩ (MapFormat.fixed 1 1) 1 map none = none ∧
        (render ScriptHost.absent ⟨[], [("earth", 1)]⟩ (MapFormat.fixed 1 1) 1 map
          none).foreground.cells = #[1] := by
  have fails : (Document.ofText (magnified "algo=checker a=1")).toOption.map
      (fun document => document.maps.map fun map =>
        ((render? ScriptHost.absent ⟨[], [("earth", 1)]⟩ (MapFormat.fixed 1 1) 1 map none).isNone,
          (render ScriptHost.absent ⟨[], [("earth", 1)]⟩ (MapFormat.fixed 1 1) 1 map
            none).foreground.cells)) = some [(true, #[1])] := by
    decide +kernel
  cases read : Document.ofText (magnified "algo=checker a=1") with
  | error offence =>
      rw [read] at fails
      cases fails
  | ok document =>
      rw [read] at fails
      rcases List.map_eq_singleton_iff.mp (Option.some.inj fails) with ⟨map, only, seen⟩
      rcases Prod.mk.inj seen with ⟨nothing, cells⟩
      refine ⟨document, rfl, map, ?_, Option.isNone_iff_eq_none.mp nothing, cells⟩
      rw [only]
      exact List.mem_singleton_self map

end Landscape
end Landform
