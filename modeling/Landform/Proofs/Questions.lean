import Landform.Proofs.LastOverlay
import Landform.Proofs.Painting
import Mathlib.Data.List.Nodup

namespace Landform
namespace Landscape

/-!
# The questions of a rendering

A host may change its state at every question, so what it is asked later depends on all that it
has answered before: an overlay that did not cover a point hides the overlays inside of it.
Which questions a rendering has can be said all the same without following the painter.  Give
every overlay of the map, at every point, the answer it got there, or a no if it got none.  By
these answers a script overlay is asked at a point just when the point lies in its area and all
overlays around it cover the point.

Two overlays may share their name and their area, so an overlay is known by the way that leads to
it (`Site`).  The answers are not chosen freely: the host gives them, one after another, when it
is asked these very questions (`ScriptHost.Replies`).  The painter is followed point by point,
and at a point by the recursion over the layers; what the overlays lay is carried along and has
no part in it.
-/

/-! ## Hosts that note their questions -/

/-- A question about a point of an overlay, in the overlay's own coordinates, and its answer. -/
structure Question where
  function : String
  x : Int
  y : Int
  answer : Bool
  deriving DecidableEq

namespace ScriptHost

variable {σ : Type u}

/-- The host that answers as another one does, and notes the questions it is asked. -/
def noting (host : ScriptHost σ) : ScriptHost (σ × List Question) where
  covers := fun (state, noted) function x y =>
    let (covered, next) := host.covers state function x y
    (covered, next, noted ++ [⟨function, x, y, covered⟩])

/-- Asked some questions in turn, a host gives the answers they have and ends in a state. -/
def Replies (host : ScriptHost σ) : σ -> List Question -> σ -> Prop
  | state, [], last => last = state
  | state, question :: rest, last =>
      (host.covers state question.function question.x question.y).1 = question.answer ∧
        host.Replies (host.covers state question.function question.x question.y).2 rest last

theorem replies_append {host : ScriptHost σ} {first second : List Question}
    {state between last : σ} (before : host.Replies state first between)
    (after : host.Replies between second last) : host.Replies state (first ++ second) last := by
  induction first generalizing state with
  | nil =>
      have same : between = state := before
      exact same ▸ after
  | cons question rest inductionHypothesis =>
      exact ⟨before.1, inductionHypothesis before.2⟩

/-- Noting questions makes no difference to the answers. -/
theorem noting_alike (host : ScriptHost σ) :
    AnswerAlike host host.noting fun state noting => noting.1 = state := by
  rintro state ⟨other, noted⟩ same function x y
  have equal : other = state := same
  subst equal
  exact ⟨rfl, rfl⟩

end ScriptHost

/-! ## The overlays of a map, by the ways that lead to them -/

/-- The way from a block to an overlay inside of it: for every step the number of overlays that
stand in front of the one it leads into. -/
abbrev Way := List Nat

/-- A way that begins beside one more overlay. -/
def Way.later : Way -> Way
  | [] => []
  | number :: rest => (number + 1) :: rest

/-- A block at the end of a way. -/
structure Spot where
  way : Way
  block : Block

/-- An overlay inside of a block, and the overlays around it from the outermost. -/
structure Site where
  spot : Spot
  around : List Spot

namespace Spot

/-- A spot whose way is counted from somewhere else. -/
def rename (f : Way -> Way) (spot : Spot) : Spot :=
  ⟨f spot.way, spot.block⟩

/-- Whether a point lies in the area of a block and the block covers it, with the answers that
the overlays at the ends of the ways have got there. -/
def covers (answers : Way -> Bool) (x y : Int) (spot : Spot) : Bool :=
  spot.block.covers (fun _ _ _ => answers spot.way) x y

end Spot

namespace Site

/-- A site whose ways are counted from somewhere else. -/
def rename (f : Way -> Way) (site : Site) : Site :=
  ⟨site.spot.rename f, site.around.map (Spot.rename f)⟩

/-- A site with one more overlay around it. -/
def within (outer : Spot) (site : Site) : Site :=
  ⟨site.spot, outer :: site.around⟩

mutual

/-- An overlay inside an area and the overlays inside of it, in the order of a description.  The
ways begin at the overlay. -/
def ofNode (area : Area) : Node -> List Site
  | .mk header attributes children =>
      let spot : Spot := ⟨[], .mk header attributes children, area.inside attributes⟩
      ⟨spot, []⟩ :: (ofNodes (area.inside attributes) children).map (within spot)

/-- Overlays inside an area and all overlays inside of them, in the order of a description.  The
ways begin at the block around them. -/
def ofNodes (area : Area) : List Node -> List Site
  | [] => []
  | node :: rest =>
      (ofNode area node).map (rename (0 :: ·)) ++ (ofNodes area rest).map (rename Way.later)

end

/-- A site without its ways, inside of some blocks. -/
def placedIn (around : List Block) (site : Site) : Placed :=
  ⟨site.spot.block, around ++ site.around.map Spot.block⟩

end Site

/-- All overlays of a map of a size with their ways, in the order of its description. -/
def sitesOf (map : Node) (size : Nat × Nat) : List Site :=
  Site.ofNodes (mapArea size.1 size.2) map.children

namespace Site

theorem placedIn_rename (around : List Block) (f : Way -> Way) (site : Site) :
    (site.rename f).placedIn around = site.placedIn around := by
  simp only [placedIn, rename, List.map_map]
  rfl

theorem placedIn_within (around : List Block) (outer : Spot) (site : Site) :
    (site.within outer).placedIn around = site.placedIn (around ++ [outer.block]) := by
  simp only [placedIn, within, List.map_cons, List.append_assoc, List.singleton_append]

mutual

theorem placed_ofNode (around : List Block) (area : Area) :
    ∀ node : Node, (ofNode area node).map (placedIn around) = Placed.ofNode around area node
  | .mk header attributes children => by
      simp only [ofNode, Placed.ofNode, List.map_cons, List.map_map]
      have inner := placed_ofNodes
        (around ++ [⟨.mk header attributes children, area.inside attributes⟩])
        (area.inside attributes) children
      rw [← inner]
      simp only [placedIn, List.map_nil, List.append_nil, List.cons.injEq, true_and]
      exact List.map_congr_left fun site _ => placedIn_within around _ site

theorem placed_ofNodes (around : List Block) (area : Area) :
    ∀ nodes : List Node,
      (ofNodes area nodes).map (placedIn around) = Placed.ofNodes around area nodes
  | [] => rfl
  | node :: rest => by
      have renamed (f : Way -> Way) : placedIn around ∘ rename f = placedIn around :=
        funext fun site => placedIn_rename around f site
      rw [ofNodes, Placed.ofNodes, List.map_append, List.map_map, List.map_map, renamed, renamed,
        placed_ofNode, placed_ofNodes]

end

/-- Without their ways, the sites are the overlays of the map. -/
theorem placed_sitesOf (map : Node) (size : Nat × Nat) :
    (sitesOf map size).map (placedIn []) = overlaysOf map size :=
  placed_ofNodes [] (mapArea size.1 size.2) map.children

theorem ways_rename (f : Way -> Way) (sites : List Site) :
    (sites.map (rename f)).map (fun site => site.spot.way) =
      (sites.map fun site => site.spot.way).map f := by
  simp only [List.map_map]
  rfl

theorem ways_within (outer : Spot) (sites : List Site) :
    (sites.map (within outer)).map (fun site => site.spot.way) =
      sites.map fun site => site.spot.way := by
  simp only [List.map_map]
  rfl

theorem way_of_mem_ofNodes {area : Area} {nodes : List Node} {way : Way}
    (member : way ∈ (ofNodes area nodes).map fun site => site.spot.way) : way ≠ [] := by
  induction nodes generalizing way with
  | nil => cases member
  | cons node rest inductionHypothesis =>
      rw [ofNodes, List.map_append, ways_rename, ways_rename] at member
      rcases List.mem_append.mp member with here | behind
      · rcases List.mem_map.mp here with ⟨inner, _, same⟩
        rw [← same]
        exact List.cons_ne_nil 0 inner
      · rcases List.mem_map.mp behind with ⟨other, found, same⟩
        cases other with
        | nil => exact absurd rfl (inductionHypothesis found)
        | cons number further =>
            rw [← same]
            exact List.cons_ne_nil (number + 1) further

theorem later_injective : Function.Injective Way.later := by
  intro first second same
  cases first <;> cases second <;> simp_all [Way.later]

mutual

theorem ways_ofNode (area : Area) :
    ∀ node : Node, ((ofNode area node).map fun site => site.spot.way).Nodup
  | .mk header attributes children => by
      rw [ofNode, List.map_cons, ways_within, List.nodup_cons]
      exact ⟨fun member => way_of_mem_ofNodes member rfl,
        ways_ofNodes (area.inside attributes) children⟩

theorem ways_ofNodes (area : Area) :
    ∀ nodes : List Node, ((ofNodes area nodes).map fun site => site.spot.way).Nodup
  | [] => List.nodup_nil
  | node :: rest => by
      rw [ofNodes, List.map_append, ways_rename, ways_rename, List.nodup_append]
      refine ⟨(ways_ofNode area node).map fun _ _ same => (List.cons.inj same).2,
        (ways_ofNodes area rest).map later_injective, ?_⟩
      intro way here other behind same
      rcases List.mem_map.mp here with ⟨inner, _, rfl⟩
      rcases List.mem_map.mp behind with ⟨further, found, rfl⟩
      cases further with
      | nil => exact way_of_mem_ofNodes found rfl
      | cons number rest => cases same

end

end Site

/-- Every overlay of a map has a way of its own. -/
theorem ways_sitesOf (map : Node) (size : Nat × Nat) :
    ((sitesOf map size).map fun site => site.spot.way).Nodup :=
  Site.ways_ofNodes (mapArea size.1 size.2) map.children

/-! ## The questions at a point -/

/-- The question of a block about a point of the map, and its answer. -/
def Block.question (answer : Bool) (x y : Int) (block : Block) : Question :=
  let point := block.area.localPoint block.node.attributes x y
  ⟨block.node.scriptFunction, point.x, point.y, answer⟩

namespace Site

/-- Whether an overlay is asked for at a point: it is one of a script, the point lies in its
area, and all overlays around it cover the point. -/
def isAsked (answers : Way -> Bool) (x y : Int) (site : Site) : Bool :=
  site.spot.block.node.attributes.pattern == .script &&
    site.spot.block.area.contains x y && site.around.all (Spot.covers answers x y)

/-- The question of an overlay about a point, with the answer that the overlay has got. -/
def question (answers : Way -> Bool) (x y : Int) (site : Site) : Question :=
  site.spot.block.question (answers site.spot.way) x y

end Site

/-- The questions of some overlays about a point, in the order of the overlays. -/
def questionsAt (answers : Way -> Bool) (x y : Int) (sites : List Site) : List Question :=
  (sites.filter (Site.isAsked answers x y)).map (Site.question answers x y)

/-- The way leads to an overlay that is asked for at a point. -/
def IsAskedAt (answers : Way -> Bool) (x y : Int) (sites : List Site) (way : Way) : Prop :=
  Exists fun site => site ∈ sites ∧ site.isAsked answers x y = true ∧ site.spot.way = way

section

variable (answers : Way -> Bool) (x y : Int)

theorem isAsked_rename (f : Way -> Way) (site : Site) :
    (site.rename f).isAsked answers x y = site.isAsked (answers ∘ f) x y := by
  simp only [Site.isAsked, Site.rename, List.all_map]
  rfl

theorem isAsked_within (outer : Spot) (site : Site) :
    (site.within outer).isAsked answers x y =
      (outer.covers answers x y && site.isAsked answers x y) := by
  simp only [Site.isAsked, Site.within, List.all_cons, Bool.and_left_comm]

theorem questionsAt_append (first second : List Site) :
    questionsAt answers x y (first ++ second) =
      questionsAt answers x y first ++ questionsAt answers x y second := by
  simp only [questionsAt, List.filter_append, List.map_append]

theorem questionsAt_rename (f : Way -> Way) (sites : List Site) :
    questionsAt answers x y (sites.map (Site.rename f)) =
      questionsAt (answers ∘ f) x y sites := by
  have asked : Site.isAsked answers x y ∘ Site.rename f = Site.isAsked (answers ∘ f) x y :=
    funext fun site => isAsked_rename answers x y f site
  simp only [questionsAt, List.filter_map, List.map_map, asked]
  rfl

theorem questionsAt_within (outer : Spot) (sites : List Site) :
    questionsAt answers x y (sites.map (Site.within outer)) =
      if outer.covers answers x y then questionsAt answers x y sites else [] := by
  have asked : Site.isAsked answers x y ∘ Site.within outer =
      fun site => outer.covers answers x y && site.isAsked answers x y :=
    funext fun site => isAsked_within answers x y outer site
  simp only [questionsAt, List.filter_map, List.map_map, asked]
  cases outer.covers answers x y with
  | true => rfl
  | false =>
      have none : sites.filter (fun site => false && site.isAsked answers x y) = [] :=
        List.filter_eq_nil_iff.mpr fun _ _ impossible => nomatch impossible
      rw [none]
      rfl

theorem questionsAt_alone (block : Block) :
    questionsAt answers x y [⟨⟨[], block⟩, []⟩] =
      if block.node.attributes.pattern == .script && block.area.contains x y then
        [block.question (answers []) x y]
      else [] := by
  simp only [questionsAt, List.filter_cons, List.filter_nil, Site.isAsked, List.all_nil,
    Bool.and_true]
  split <;> rfl

variable {answers x y}

theorem IsAskedAt.rename {f : Way -> Way} {sites : List Site} {way : Way}
    (asked : IsAskedAt (answers ∘ f) x y sites way) :
    IsAskedAt answers x y (sites.map (Site.rename f)) (f way) := by
  rcases asked with ⟨site, member, asked, same⟩
  refine ⟨site.rename f, List.mem_map_of_mem member, ?_, congrArg f same⟩
  rw [isAsked_rename, asked]

theorem IsAskedAt.within {outer : Spot} (covers : outer.covers answers x y = true)
    {sites : List Site} {way : Way} (asked : IsAskedAt answers x y sites way) :
    IsAskedAt answers x y (sites.map (Site.within outer)) way := by
  rcases asked with ⟨site, member, asked, same⟩
  refine ⟨site.within outer, List.mem_map_of_mem member, ?_, same⟩
  rw [isAsked_within, covers, asked]
  rfl

theorem IsAskedAt.widen {some sites : List Site} (within : some ⊆ sites) {way : Way}
    (asked : IsAskedAt answers x y some way) : IsAskedAt answers x y sites way := by
  rcases asked with ⟨site, member, asked, same⟩
  exact ⟨site, within member, asked, same⟩

end

/-! ## Painting a point -/

section

variable {σ : Type u} {host : ScriptHost σ} {x y : Int}

/-- Painting a point, with any tables, asks just the questions of some overlays about it. -/
structure AsksAt (host : ScriptHost σ) (x y : Int) (sites : List Site)
    (paint : Resolver -> MaterialPair × σ × List Question -> MaterialPair × σ × List Question)
    (answers : Way -> Bool) (state last : σ) : Prop where
  replies : host.Replies state (questionsAt answers x y sites) last
  asks : ∀ resolver below noted, (paint resolver (below, state, noted)).2 =
    (last, noted ++ questionsAt answers x y sites)

theorem coversPoint_of_other (host : ScriptHost σ) {node : Node}
    (other : node.attributes.pattern ≠ .script) (answers : Answers) (area : Area) (state : σ) :
    coversPoint host node area x y state = (Block.hits answers x y ⟨node, area⟩, state) := by
  simp only [coversPoint, Block.hits]

/-- Whether a block covers a point that lies in its area takes one question if a script decides
it, and none otherwise. -/
theorem coversPoint_asks (host : ScriptHost σ) (node : Node) {area : Area}
    (contained : area.contains x y = true) (state : σ) :
    Exists fun answer => Exists fun next =>
      let questions := questionsAt (fun _ => answer) x y [⟨⟨[], node, area⟩, []⟩]
      (answer = true -> node.attributes.pattern = .script) ∧
        host.Replies state questions next ∧
        ∀ noted, coversPoint host.noting node area x y (state, noted) =
          (Block.hits (fun _ _ _ => answer) x y ⟨node, area⟩, next, noted ++ questions) := by
  simp only [questionsAt_alone, contained, Bool.and_true]
  by_cases script : node.attributes.pattern = .script
  · let point := area.localPoint node.attributes x y
    refine ⟨(host.covers state node.scriptFunction point.x point.y).1,
      (host.covers state node.scriptFunction point.x point.y).2, fun _ => script, ?_, ?_⟩
    · simp only [script, beq_self_eq_true, if_true]
      exact ⟨rfl, rfl⟩
    · intro noted
      simp only [coversPoint, Block.hits, script]
      rfl
  · have unasked : (node.attributes.pattern == .script) = false := beq_false_of_ne script
    simp only [unasked, Bool.false_eq_true, if_false]
    refine ⟨false, state, fun impossible => absurd impossible Bool.false_ne_true, rfl,
      fun noted => ?_⟩
    rw [coversPoint_of_other host.noting script, List.append_nil]

/-- An overlay and the overlays inside of it: the first one asks for itself, and the others ask
if it covers the point. -/
theorem questionsAt_ofNode (answers : Way -> Bool) (x y : Int) (area : Area)
    (header : NodeHeader) (attributes : Attributes) (children : List Node) :
    let block : Block := ⟨.mk header attributes children, area.inside attributes⟩
    questionsAt answers x y (Site.ofNode area (.mk header attributes children)) =
      questionsAt (fun _ => answers []) x y [⟨⟨[], block⟩, []⟩] ++
        if block.covers (fun _ _ _ => answers []) x y then
          questionsAt answers x y (Site.ofNodes (area.inside attributes) children)
        else [] := by
  intro block
  rw [Site.ofNode, ← List.singleton_append, questionsAt_append, questionsAt_within,
    questionsAt_alone, questionsAt_alone]
  rfl

section

variable {area : Area} (header : NodeHeader) {attributes : Attributes} (children : List Node)

/-- Beside the area of an overlay nothing is asked. -/
theorem questionsAt_outside (outside : (area.inside attributes).contains x y = false)
    (answers : Way -> Bool) :
    questionsAt answers x y (Site.ofNode area (.mk header attributes children)) = [] := by
  rw [questionsAt_ofNode, questionsAt_alone]
  simp only [Block.covers, outside, Bool.and_false, Bool.false_and, Bool.false_eq_true, if_false,
    List.append_nil]

/-- In the area of an overlay, what is asked inside of it depends on its own answer. -/
theorem questionsAt_contained (contained : (area.inside attributes).contains x y = true)
    {answers : Way -> Bool} {own : Bool} (same : answers [] = own) :
    let block : Block := ⟨.mk header attributes children, area.inside attributes⟩
    questionsAt answers x y (Site.ofNode area (.mk header attributes children)) =
      questionsAt (fun _ => own) x y [⟨⟨[], block⟩, []⟩] ++
        if block.hits (fun _ _ _ => own) x y then
          questionsAt answers x y (Site.ofNodes (area.inside attributes) children)
        else [] := by
  intro block
  rw [questionsAt_ofNode, same, Block.covers, contained, Bool.true_and]

/-- In its area an overlay of a script is asked for itself. -/
theorem isAskedAt_self (contained : (area.inside attributes).contains x y = true)
    (script : attributes.pattern = .script) (answers : Way -> Bool) :
    IsAskedAt answers x y (Site.ofNode area (.mk header attributes children)) [] := by
  refine ⟨⟨⟨[], .mk header attributes children, area.inside attributes⟩, []⟩,
    List.mem_cons_self, ?_, rfl⟩
  simp only [Site.isAsked, Node.attributes, script, contained, List.all_nil]
  rfl

end

/-- Answers in a block: its own, those in the first overlay, and those in the overlays behind. -/
def joined (own : Bool) (first others : Way -> Bool) : Way -> Bool
  | [] => own
  | 0 :: way => first way
  | (number + 1) :: way => others (number :: way)

/-- Overlays one beside another: the first one asks, and then the others do. -/
theorem questionsAt_ofNodes {own : Bool} (first : Way -> Bool) {others : Way -> Bool}
    (same : others [] = own) (x y : Int) (area : Area) (node : Node) (rest : List Node) :
    joined own first others ∘ Way.later = others ∧
      questionsAt (joined own first others) x y (Site.ofNodes area (node :: rest)) =
        questionsAt first x y (Site.ofNode area node) ++
          questionsAt others x y (Site.ofNodes area rest) := by
  have behind : joined own first others ∘ Way.later = others := by
    funext way
    cases way with
    | nil => exact same.symm
    | cons number way => rfl
  refine ⟨behind, ?_⟩
  rw [Site.ofNodes, questionsAt_append, questionsAt_rename, questionsAt_rename, behind]
  rfl

/-- Painting a point beside a layer does nothing. -/
theorem paint_outside (host : ScriptHost σ) {node : Node} {area : Area}
    (outside : area.contains x y = false) (material : Option MaterialPair)
    (children : List Layer) (below : MaterialPair) (state : σ) :
    Layer.paint host x y (.mk node area material children) (below, state) = (below, state) := by
  simp only [Layer.paint, outside, Bool.false_eq_true, if_false]

/-- Painting a point in the area of a layer goes on inside if the block covers the point. -/
theorem paint_inside {host : ScriptHost σ} {node : Node} {area : Area}
    (contained : area.contains x y = true) {covers : Bool} {state next : σ}
    (covered : coversPoint host node area x y state = (covers, next))
    (material : Option MaterialPair) (children : List Layer) (below : MaterialPair) :
    Layer.paint host x y (.mk node area material children) (below, state) =
      if covers then
        Layer.paintAll host x y children (laidOver node.attributes.mask material below, next)
      else (below, next) := by
  simp only [Layer.paint, contained, if_true, covered]
  cases covers <;> rfl

mutual

/-- Painting a point through a layer asks for the overlays that are reached, in their order. -/
theorem paint_asks (host : ScriptHost σ) (x y : Int) (area : Area) :
    ∀ (node : Node) (state : σ), Exists fun answers => Exists fun last =>
      AsksAt host x y (Site.ofNode area node)
        (fun resolver => Layer.paint host.noting x y
          (Layer.ofNode resolver (area.inside node.attributes) node)) answers state last ∧
      ∀ way, answers way = true -> IsAskedAt answers x y (Site.ofNode area node) way
  | .mk header attributes children, state => by
      cases contained : (area.inside attributes).contains x y with
      | false =>
          have none := questionsAt_outside header children contained fun _ => false
          refine ⟨fun _ => false, state, ⟨?_, ?_⟩, fun _ impossible => (nomatch impossible)⟩
          · rw [none]
            rfl
          · intro resolver below noted
            rw [none, List.append_nil]
            exact congrArg Prod.snd (paint_outside host.noting contained _ _ below (state, noted))
      | true =>
          rcases coversPoint_asks host (.mk header attributes children) contained state with
            ⟨own, next, script, replies, asks⟩
          cases hits : Block.hits (fun _ _ _ => own) x y
            ⟨.mk header attributes children, area.inside attributes⟩ with
          | false =>
              let answers : Way -> Bool := fun way => own && way.isEmpty
              have all := questionsAt_contained header children contained
                (show answers [] = own from Bool.and_true own)
              simp only [hits, Bool.false_eq_true, if_false, List.append_nil] at all
              refine ⟨answers, next, ⟨all ▸ replies, fun resolver below noted => ?_⟩, ?_⟩
              · have covered := asks noted
                rw [hits, ← all] at covered
                exact congrArg Prod.snd (paint_inside contained covered _ _ below)
              · intro way yes
                rcases Bool.and_eq_true_iff.mp yes with ⟨given, empty⟩
                rw [List.isEmpty_iff.mp empty]
                exact isAskedAt_self header children contained (script given) answers
          | true =>
              rcases paintAll_asks host x y (area.inside attributes) children own next with
                ⟨answers, last, ⟨innerReplies, innerAsks⟩, same, given⟩
              have all := questionsAt_contained header children contained same
              simp only [hits, if_true] at all
              refine ⟨answers, last, ⟨?_, fun resolver below noted => ?_⟩, ?_⟩
              · rw [all]
                exact ScriptHost.replies_append replies innerReplies
              · have covered := asks noted
                rw [hits] at covered
                rw [all, ← List.append_assoc]
                exact (congrArg Prod.snd (paint_inside contained covered _ _ below)).trans
                  (innerAsks resolver _ _)
              · intro way yes
                cases way with
                | nil =>
                    exact isAskedAt_self header children contained (script (same ▸ yes)) answers
                | cons number rest =>
                    have covers : Spot.covers answers x y
                        ⟨[], .mk header attributes children, area.inside attributes⟩ = true := by
                      rw [Spot.covers, same, Block.covers, contained, hits]
                      rfl
                    have found := given (number :: rest) (List.cons_ne_nil number rest) yes
                    exact (found.within covers).widen (List.subset_cons_self _ _)

theorem paintAll_asks (host : ScriptHost σ) (x y : Int) (area : Area) :
    ∀ (nodes : List Node) (own : Bool) (state : σ),
      Exists fun answers => Exists fun last =>
        AsksAt host x y (Site.ofNodes area nodes)
          (fun resolver => Layer.paintAll host.noting x y (Layer.ofNodes resolver area nodes))
          answers state last ∧
        answers [] = own ∧
        ∀ way, way ≠ [] -> answers way = true ->
          IsAskedAt answers x y (Site.ofNodes area nodes) way
  | [], own, state => by
      refine ⟨fun way => own && way.isEmpty, state, ⟨rfl, fun resolver below noted => ?_⟩,
        Bool.and_true own, ?_⟩
      · exact congrArg (Prod.mk state) (List.append_nil noted).symm
      · intro way inner yes
        exact absurd (List.isEmpty_iff.mp (Bool.and_eq_true_iff.mp yes).2) inner
  | .mk header attributes children :: rest, own, state => by
      rcases paint_asks host x y area (.mk header attributes children) state with
        ⟨first, between, ⟨replies, asks⟩, given⟩
      rcases paintAll_asks host x y area rest own between with
        ⟨others, last, ⟨otherReplies, otherAsks⟩, same, otherGiven⟩
      rcases questionsAt_ofNodes first same x y area (.mk header attributes children)
        rest with ⟨behind, all⟩
      refine ⟨joined own first others, last, ⟨?_, fun resolver below noted => ?_⟩, rfl, ?_⟩
      · rw [all]
        exact ScriptHost.replies_append replies otherReplies
      · rcases painted : Layer.paint host.noting x y (Layer.ofNode resolver
          (area.inside attributes) (.mk header attributes children)) (below, state, noted) with
          ⟨shown, now⟩
        have here := asks resolver below noted
        simp only [Node.attributes, painted] at here
        rw [Layer.ofNodes, Layer.paintAll, painted, here, otherAsks, all, List.append_assoc]
      · intro way inner yes
        match way with
        | [] => exact absurd rfl inner
        | 0 :: way =>
            have found : IsAskedAt (joined own first others ∘ (0 :: ·)) x y
                (Site.ofNode area (.mk header attributes children)) way := given way yes
            exact found.rename.widen (List.subset_append_left _ _)
        | (number + 1) :: way =>
            have found := otherGiven (number :: way) (List.cons_ne_nil number way) yes
            rw [← behind] at found
            exact found.rename.widen (List.subset_append_right _ _)

end

end

/-! ## All points -/

theorem pointsOf_nodup (size : Nat × Nat) : (pointsOf size).Nodup := by
  refine List.pairwise_flatMap.mpr ⟨fun y _ => ?_, ?_⟩
  · exact List.nodup_range.map fun _ _ same => (Prod.mk.inj same).1
  · refine List.nodup_range.imp fun {y row} differ point here other there same => ?_
    rcases List.mem_map.mp here with ⟨x, _, rfl⟩
    rcases List.mem_map.mp there with ⟨column, _, rfl⟩
    exact differ (Prod.mk.inj same).2

/-- The questions of a map of a size, with the answers its overlays have got at its points. -/
def questionsOf (map : Node) (size : Nat × Nat) (answers : Nat × Nat -> Way -> Bool) :
    List Question :=
  (pointsOf size).flatMap fun point =>
    questionsAt (answers point) point.1 point.2 (sitesOf map size)

section

variable {σ : Type u} (host : ScriptHost σ)

/-- Painting points one after another asks for the overlays that are reached at each of them. -/
theorem paintPoints_asks (area : Area) (nodes : List Node) {points : List (Nat × Nat)}
    (different : points.Nodup) (state : σ) :
    Exists fun answers : Nat × Nat -> Way -> Bool => Exists fun last =>
      let sites := Site.ofNodes area nodes
      let questions := points.flatMap fun point =>
        questionsAt (answers point) point.1 point.2 sites
      host.Replies state questions last ∧
      (∀ point way, answers point way = true ->
        point ∈ points ∧ IsAskedAt (answers point) point.1 point.2 sites way) ∧
      ∀ (resolver : Resolver) (base : MaterialPair) (foreground background : Raster)
        (noted : List Question),
        (Canvas.paintPoints host.noting base (Layer.ofNodes resolver area nodes) points
          ⟨foreground, background, state, noted⟩).state = (last, noted ++ questions) := by
  induction points generalizing state with
  | nil =>
      refine ⟨fun _ _ => false, state, rfl, fun _ _ impossible => (nomatch impossible), ?_⟩
      intro resolver base foreground background noted
      exact congrArg (Prod.mk state) (List.append_nil noted).symm
  | cons point rest inductionHypothesis =>
      rcases List.nodup_cons.mp different with ⟨fresh, differentRest⟩
      rcases paintAll_asks host point.1 point.2 area nodes false state with
        ⟨here, between, ⟨replies, asks⟩, none, given⟩
      rcases inductionHypothesis differentRest between with
        ⟨others, last, otherReplies, otherGiven, otherAsks⟩
      let answers : Nat × Nat -> Way -> Bool :=
        fun other => if other = point then here else others other
      have atPoint : answers point = here := if_pos rfl
      have behind : (rest.flatMap fun other =>
            questionsAt (answers other) other.1 other.2 (Site.ofNodes area nodes)) =
          rest.flatMap fun other =>
            questionsAt (others other) other.1 other.2 (Site.ofNodes area nodes) := by
        rw [List.flatMap_def, List.flatMap_def]
        refine congrArg List.flatten (List.map_congr_left fun other member => ?_)
        have elsewhere : answers other = others other :=
          if_neg fun same : other = point => fresh (same ▸ member)
        rw [elsewhere]
      refine ⟨answers, last, ?_, ?_, ?_⟩
      · rw [List.flatMap_cons, atPoint, behind]
        exact ScriptHost.replies_append replies otherReplies
      · intro other way yes
        by_cases same : other = point
        · rw [same, atPoint] at yes ⊢
          have inner : way ≠ [] := by
            intro empty
            rw [empty, none] at yes
            cases yes
          exact ⟨List.mem_cons_self, given way inner yes⟩
        · have elsewhere : answers other = others other := if_neg same
          rw [elsewhere] at yes ⊢
          rcases otherGiven other way yes with ⟨member, asked⟩
          exact ⟨List.mem_cons_of_mem point member, asked⟩
      · intro resolver base foreground background noted
        rcases painted : Layer.paintAll host.noting point.1 point.2
          (Layer.ofNodes resolver area nodes) (base, state, noted) with ⟨shown, now⟩
        have same : now = _ := (congrArg Prod.snd painted).symm.trans (asks resolver base noted)
        have first : Canvas.paintPoint host.noting base (Layer.ofNodes resolver area nodes)
            ⟨foreground, background, state, noted⟩ point.1 point.2 =
              ⟨foreground.set point.1 point.2 shown.foreground,
                background.set point.1 point.2 shown.background, now⟩ := by
          simp only [Canvas.paintPoint, painted]
        have later := congrArg (Canvas.paintPoints host.noting base
          (Layer.ofNodes resolver area nodes) rest) first
        rw [List.flatMap_cons, atPoint, behind, ← List.append_assoc]
        exact (congrArg Canvas.state later).trans (same ▸ otherAsks resolver base _ _ _)

/-- A map is painted with just the questions of its overlays at its points, in their order. -/
theorem paint_map_asks (map : Node) (width height : Nat) (state : σ) :
    Exists fun answers : Nat × Nat -> Way -> Bool =>
      let questions := questionsOf map (width, height) answers
      (∀ point way, answers point way = true -> point ∈ pointsOf (width, height) ∧
        IsAskedAt (answers point) point.1 point.2 (sitesOf map (width, height)) way) ∧
      ∀ resolver,
        let painted := paint host resolver map width height state
        host.Replies state questions painted.state ∧
          paint host.noting resolver map width height (state, []) =
            ⟨painted.foreground, painted.background, painted.state, questions⟩ := by
  rcases paintPoints_asks host (mapArea width height) map.children
    (pointsOf_nodup (width, height)) state with ⟨answers, last, replies, given, asks⟩
  refine ⟨answers, given, fun resolver => ?_⟩
  have noted : (paint host.noting resolver map width height (state, [])).state =
      (last, questionsOf map (width, height) answers) := by
    rw [paint, paintRows_eq_points]
    cases map with
    | mk header attributes children => exact asks resolver _ _ _ []
  rcases paint_alike host.noting_alike resolver map width height
    (show (state, ([] : List Question)).1 = state from rfl) with ⟨fores, backs, same⟩
  rcases here : paint host.noting resolver map width height (state, []) with
    ⟨foreground, background, now⟩
  rw [here] at noted fores backs same
  have ends : now = (last, questionsOf map (width, height) answers) := noted
  have left : last = (paint host resolver map width height state).state := by
    rw [← same, ends]
  refine ⟨left ▸ replies, ?_⟩
  rw [ends, left, fores, backs]

end

/-! ## Renderings -/

/--
**What a rendering asks its host.**  A host may answer as it likes, and let every answer depend
on all questions before.  It is asked row by row from the top, in a row from the left, and at a
point in the order of the description.  An overlay is asked for at a point once, just when it is
one of a script, the point lies in its area, and all overlays around it cover the point.  The
question names the function of the overlay and the point in the overlay's own coordinates.

Whether overlays around an overlay cover a point is told from the answers they got there, which
are the answers the host gives to just these questions.  The tables have no part in it, nor have
the masks, the materials and what is laid over what.
-/
theorem render_asks_in_order {σ : Type u} (host : ScriptHost σ) (format : MapFormat)
    (players : Nat) (map : Node) (state : σ) :
    let size := format.sizeFor players
    let sites := sitesOf map size
    sites.map (Site.placedIn []) = overlaysOf map size ∧
      (sites.map fun site => site.spot.way).Nodup ∧
      Exists fun answers : Nat × Nat -> Way -> Bool =>
        let questions := questionsOf map size answers
        (∀ point way, answers point way = true ->
          point ∈ pointsOf size ∧ IsAskedAt (answers point) point.1 point.2 sites way) ∧
        ∀ resolver,
          let rendering := render host resolver format players map state
          render host.noting resolver format players map (state, []) =
            ⟨rendering.foreground, rendering.background, rendering.messages,
              (rendering.state, questions)⟩ ∧
          host.Replies state questions rendering.state := by
  intro size sites
  refine ⟨Site.placed_sitesOf map size, ways_sitesOf map size, ?_⟩
  rcases paint_map_asks host map size.1 size.2 state with ⟨answers, given, asks⟩
  refine ⟨answers, given, fun resolver => ?_⟩
  rcases asks resolver with ⟨replies, noted⟩
  refine ⟨?_, replies⟩
  have painted : paint host.noting resolver map (format.sizeFor players).1
      (format.sizeFor players).2 (state, []) = _ := noted
  simp only [render, painted]
  rfl

/-- A host that covers every other point it is asked about. -/
def alternatingHost : ScriptHost Bool where
  covers := fun covers _ _ _ => (covers, !covers)

/-- An overlay inside of one of the same name is not asked for where the outer one does not
cover the point, although both ask the same.  Masks and unknown materials make no difference. -/
example : (render alternatingHost.noting ⟨[], []⟩ (MapFormat.fixed 3 1) 1
    (.mk ⟨.map, none, Place.unknown⟩ {}
      [.mk ⟨.overlay, some "Cave", Place.unknown⟩ { pattern := .script, mask := true }
        [.mk ⟨.overlay, some "Cave", Place.unknown⟩
          { pattern := .script, material := some "Gold" } []]])
    (false, [])).state.2 =
      [⟨"ScriptAlgoCave", 0, 0, false⟩,
        ⟨"ScriptAlgoCave", 1, 0, true⟩, ⟨"ScriptAlgoCave", 1, 0, false⟩,
        ⟨"ScriptAlgoCave", 2, 0, true⟩, ⟨"ScriptAlgoCave", 2, 0, false⟩] := by
  decide +kernel

end Landscape
end Landform
