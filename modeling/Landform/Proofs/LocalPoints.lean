import Landform.Proofs.PercentAreas

namespace Landform
namespace Landscape

/-!
# Points in the coordinates of overlays

Before the painter looks whether an overlay covers a point of the map, it puts the point into the
coordinates of the overlay.  It takes the distance from the corner of the overlay's area, and a
hundred times that distance, and both stop at the ends of 64 bits.  Areas may lie anywhere: each
is a part of the one around it in percent, of any sign and size, so corners and extents drift to
the ends of the range as blocks are put into blocks.

Still nothing ever stops there.  The painter looks at an overlay only where its area contains the
point, so the distance is less than the extent of the area.  A hundred times the extent is in the
range for the area of any overlay, as it was divided by a hundred (`Area.inside_isPlaced`); nothing
is asked of the blocks around, nor of the size of the map.  It follows that patterns and hosts are
given exact coordinates, which are not negative and do not exceed the overlay's own extent.

What is said of every look the painter takes is said of a record.  The painter is followed once
more with a `Sight` in place of its host, and the sight that keeps a record (`watching`) makes no
difference to what is painted.
-/

open Number (int64)

/-! ## One axis -/

/-- A coordinate of an overlay that lies in its extent under a zoom. -/
structure IsWithin (zoom coordinate extent : Int) : Prop where
  least : 0 ≤ coordinate
  most : coordinate ≤ extent
  before : zoom ≤ 100 -> coordinate < extent

/-- A distance under a zoom in percent, rounded down, in arithmetic without an end. -/
def exactlyZoomed (distance zoom : Int) : Int :=
  100 * distance / max zoom 1

section

variable {distance extent : Int} (least : 0 ≤ distance)

include least in
/-- A distance is zoomed exactly if a hundred times the distance stays in the range. -/
theorem zoomed_eq_exactly (most : distance * 100 ≤ int64.high) (zoom : Int) :
    Area.zoomed distance zoom = exactlyZoomed distance zoom := by
  have low : int64.low ≤ distance * 100 :=
    Int.le_trans (by decide) (Int.mul_nonneg least (by decide))
  rw [Area.zoomed, int64.saturate_of_mem low most,
    Int.tdiv_eq_ediv_of_nonneg (Int.mul_nonneg least (by decide)), Int.mul_comm, exactlyZoomed]

include least in
/-- A zoom keeps the order of distances.  If it enlarges them or leaves them as they are, then
different distances stay different. -/
theorem exactlyZoomed_isWithin (before : distance < extent) (zoom : Int) :
    IsWithin zoom (exactlyZoomed distance zoom) (exactlyZoomed extent zoom) := by
  have positive : 0 < max zoom 1 := by omega
  have next := Int.add_mul_ediv_right (100 * distance) 1 (Int.ne_of_gt positive)
  rw [Int.one_mul] at next
  refine ⟨Int.ediv_nonneg (by omega) (Int.le_of_lt positive),
    Int.ediv_le_ediv positive (by omega), fun fine => ?_⟩
  calc exactlyZoomed distance zoom
    _ < exactlyZoomed distance zoom + 1 := Int.lt_succ _
    _ = (100 * distance + max zoom 1) / max zoom 1 := next.symm
    _ ≤ exactlyZoomed extent zoom := Int.ediv_le_ediv positive (by omega)

end

/-- A coordinate in a placed stretch is less far from its beginning than the stretch extends. -/
theorem Stretch.distance_mem {stretch : Stretch} (placed : stretch.IsPlaced) {point : Int}
    (held : stretch.Holds point) :
    0 ≤ point - stretch.start ∧ point - stretch.start < stretch.extent := by
  have low := placed.low
  have least := placed.least
  rcases held with ⟨begins, ends⟩
  unfold stop Number.Span.saturate at ends
  omega

/-! ## Points -/

namespace Area

/-- A point of the map in the coordinates of an overlay, in arithmetic without an end. -/
def exactPoint (area : Area) (attributes : Attributes) (x y : Int) : LocalPoint where
  x := exactlyZoomed (x - area.x) attributes.zoomX
  y := exactlyZoomed (y - area.y) attributes.zoomY
  width := exactlyZoomed area.width attributes.zoomX
  height := exactlyZoomed area.height attributes.zoomY

/-- The distances that are zoomed for a point of the map. -/
def distances (area : Area) (x y : Int) : List Int :=
  [x - area.x, y - area.y, area.width, area.height]

section

variable {area : Area} (placed : area.IsPlaced) {x y : Int}
variable (contained : area.contains x y = true)

include placed contained in
/-- No distance to a point in an area leaves its range, nor does a hundred times the distance. -/
theorem distances_mem : ∀ distance ∈ area.distances x y,
    0 ≤ distance ∧ distance * 100 ≤ int64.high := by
  rcases (contains_iff area x y).mp contained with ⟨inColumns, inRows⟩
  have column : 0 ≤ x - area.x ∧ x - area.x < area.width :=
    Stretch.distance_mem placed.columns inColumns
  have row : 0 ≤ y - area.y ∧ y - area.y < area.height :=
    Stretch.distance_mem placed.rows inRows
  have width := placed.width
  have height := placed.height
  simp only [distances, List.forall_mem_cons]
  refine ⟨⟨column.1, by omega⟩, ⟨row.1, by omega⟩, width, height, List.forall_mem_nil _⟩

include placed contained in
/-- The coordinates of a point in an area are exact, whatever the zoom. -/
theorem localPoint_eq_exact (attributes : Attributes) :
    area.localPoint attributes x y = area.exactPoint attributes x y := by
  have mem := distances_mem placed contained
  simp only [distances, List.forall_mem_cons] at mem
  rcases mem with ⟨column, row, width, height, _⟩
  have unmoved {distance : Int} (mem : 0 ≤ distance ∧ distance * 100 ≤ int64.high) :
      int64.saturate distance = distance :=
    int64.saturate_of_mem (Int.le_trans (by decide) mem.1) (by omega)
  rw [localPoint, exactPoint, unmoved column, unmoved row, zoomed_eq_exactly column.1 column.2,
    zoomed_eq_exactly row.1 row.2, zoomed_eq_exactly width.1 width.2,
    zoomed_eq_exactly height.1 height.2]

include placed contained in
/-- They lie in the extent of the area under the zoom. -/
theorem exactPoint_isWithin (attributes : Attributes) :
    let point := area.exactPoint attributes x y
    IsWithin attributes.zoomX point.x point.width ∧
      IsWithin attributes.zoomY point.y point.height := by
  rcases (contains_iff area x y).mp contained with ⟨inColumns, inRows⟩
  have column := Stretch.distance_mem placed.columns inColumns
  have row := Stretch.distance_mem placed.rows inRows
  exact ⟨exactlyZoomed_isWithin column.1 column.2 _, exactlyZoomed_isWithin row.1 row.2 _⟩

end

end Area

/-! ## Renderings by a sight -/

section

variable {σ : Type u}

/-- Renders a map by a sight. -/
def renderBy (sight : Sight σ) (resolver : Resolver) (format : MapFormat) (players : Nat)
    (map : Node) (state : σ) : Rendering σ :=
  let canvas := paintBy sight resolver map (format.sizeFor players) state
  ⟨canvas.foreground, canvas.background, unknownMaterials resolver map, canvas.state⟩

/-- Rendering with a host is rendering by what its answers let one see. -/
theorem renderBy_coversPoint (host : ScriptHost σ) (resolver : Resolver) (format : MapFormat)
    (players : Nat) (map : Node) (state : σ) :
    renderBy (coversPoint host) resolver format players map state =
      render host resolver format players map state := by
  simp only [renderBy, render, ← paintBy_coversPoint]

variable {τ : Type v} {first : Sight σ} {second : Sight τ} {alike : σ -> τ -> Prop}

/-- Sights that see the overlays of a map alike, at each of its points, render it alike. -/
theorem renderBy_alike (resolver : Resolver) (format : MapFormat) (players : Nat) (map : Node)
    (see : ∀ point ∈ pointsOf (format.sizeFor players),
      ∀ placed ∈ overlaysOf map (format.sizeFor players),
        SeeAlike first second alike point.1 point.2 placed.block)
    {state : σ} {other : τ} (before : alike state other) :
    let rendering := renderBy first resolver format players map state
    let others := renderBy second resolver format players map other
    rendering.foreground = others.foreground ∧ rendering.background = others.background ∧
      rendering.messages = others.messages ∧ alike rendering.state others.state := by
  have painted := paintBy_alike resolver see before
  exact ⟨painted.1, painted.2.1, rfl, painted.2.2⟩

end

/-! ## The record of a painter -/

/-- A look at an overlay: a point of the map, and the point of the overlay that is given to the
pattern or to the host. -/
structure Look where
  block : Block
  x : Int
  y : Int
  point : LocalPoint

namespace Look

/-- Whether a host is asked, since a script decides the overlay. -/
def asksScript (look : Look) : Bool :=
  look.block.node.attributes.pattern == .script

/-- What a host is asked at a look: the function and the point. -/
def asked (look : Look) : String × Int × Int :=
  (look.block.node.scriptFunction, look.point.x, look.point.y)

/-- A look at an overlay of a map of a size, at a point of the map and of the overlay's area. -/
structure IsAt (look : Look) (map : Node) (size : Nat × Nat) : Prop where
  overlay : look.block ∈ (overlaysOf map size).map Placed.block
  point : Exists fun point => point ∈ pointsOf size ∧ look.x = point.1 ∧ look.y = point.2
  contained : look.block.area.contains look.x look.y = true

/-- A look without any loss.  The distances and a hundred times each are in the range, so none of
them is moved into it; the point that is given is the exact one; it lies in the overlay's own
extent. -/
structure IsExact (look : Look) : Prop where
  inRange : ∀ distance ∈ look.block.area.distances look.x look.y,
    int64.contains distance = true ∧ int64.contains (distance * 100) = true
  exact : look.point = look.block.area.exactPoint look.block.node.attributes look.x look.y
  column : IsWithin look.block.node.attributes.zoomX look.point.x look.point.width
  row : IsWithin look.block.node.attributes.zoomY look.point.y look.point.height

theorem isExact_of_contained {block : Block} (placed : block.area.IsPlaced) {x y : Int}
    (contained : block.area.contains x y = true) :
    IsExact ⟨block, x, y, block.area.localPoint block.node.attributes x y⟩ where
  inRange := by
    intro distance member
    rcases Area.distances_mem placed contained distance member with ⟨least, most⟩
    rw [int64.contains_iff, int64.contains_iff]
    have low : int64.low ≤ 0 := by decide
    omega
  exact := Area.localPoint_eq_exact placed contained _
  column := by
    rw [Area.localPoint_eq_exact placed contained]
    exact (Area.exactPoint_isWithin placed contained _).1
  row := by
    rw [Area.localPoint_eq_exact placed contained]
    exact (Area.exactPoint_isWithin placed contained _).2

end Look

/-- What a host was asked by a question: the function and the point. -/
def Question.asked (question : Question) : String × Int × Int :=
  (question.function, question.x, question.y)

section

variable {σ : Type u} (host : ScriptHost σ)

/-- Whether a block covers a point of its own; a script overlay asks the host. -/
def coversLocal (node : Node) (point : LocalPoint) (state : σ) : Bool × σ :=
  match node.attributes.pattern with
  | .script =>
      let (covered, next) := host.covers state node.scriptFunction point.x point.y
      (covered != node.attributes.invert, next)
  | pattern =>
      (pattern.covers node.attributes.measures point != node.attributes.invert, state)

/-- The sight that goes by a host and keeps a record of every look. -/
def watching : Sight (σ × List Look) := fun node area x y (state, looks) =>
  let point := area.localPoint node.attributes x y
  let (covers, next) := coversLocal host node point state
  (covers, next, looks ++ [⟨⟨node, area⟩, x, y, point⟩])

/-- Blocks are looked at in their own coordinates only. -/
theorem coversPoint_eq_local (node : Node) (area : Area) (x y : Int) (state : σ) :
    coversPoint host node area x y state =
      coversLocal host node (area.localPoint node.attributes x y) state :=
  rfl

/-- A state of a host beside a record of looks that all have a property. -/
def Records (kept : Look -> Prop) (watched : σ × List Look) (state : σ) : Prop :=
  watched.1 = state ∧ ∀ look ∈ watched.2, kept look

/-- A record of looks beside the questions that a host has noted: it was asked at the looks at
script overlays, in their order. -/
def Notes (watched : σ × List Look) (noting : σ × List Question) : Prop :=
  watched.1 = noting.1 ∧
    noting.2.map Question.asked = (watched.2.filter Look.asksScript).map Look.asked

/-- Keeping a record makes no difference, and what holds of the looks that are taken holds of the
record. -/
theorem watching_records {kept : Look -> Prop} {x y : Int} {block : Block}
    (keeps : block.area.contains x y = true ->
      kept ⟨block, x, y, block.area.localPoint block.node.attributes x y⟩) :
    SeeAlike (watching host) (coversPoint host) (Records kept) x y block := by
  rintro contained ⟨state, looks⟩ other ⟨same, before⟩
  have equal : state = other := same
  subst equal
  rw [coversPoint_eq_local]
  refine ⟨rfl, rfl, fun look member => ?_⟩
  rcases List.mem_append.mp member with earlier | last
  · exact before look earlier
  · rw [List.mem_singleton.mp last]
    exact keeps contained

/-- A host that notes its questions sees the same, and notes a look if it is asked at all. -/
theorem coversLocal_noting (look : Look) (state : σ) (noted : List Question) :
    let seen := coversLocal host look.block.node look.point state
    let noting := coversLocal host.noting look.block.node look.point (state, noted)
    seen.1 = noting.1 ∧ seen.2 = noting.2.1 ∧
      noting.2.2.map Question.asked =
        noted.map Question.asked ++ ([look].filter Look.asksScript).map Look.asked := by
  by_cases script : look.block.node.attributes.pattern = .script
  · have asks : look.asksScript = true := beq_iff_eq.mpr script
    simp only [coversLocal, script, ScriptHost.noting, List.filter_cons_of_pos asks,
      List.map_append, true_and]
    rfl
  · have unasked : ¬ look.asksScript = true := fun asks => script (beq_iff_eq.mp asks)
    simp only [coversLocal, List.filter_cons_of_neg unasked, true_and]
    exact (List.append_nil _).symm

/-- The questions a host notes are the looks of the record at script overlays. -/
theorem watching_notes (x y : Int) (block : Block) :
    SeeAlike (watching host) (coversPoint host.noting) Notes x y block := by
  rintro _ ⟨state, looks⟩ ⟨other, noted⟩ ⟨same, before⟩
  have equal : state = other := same
  subst equal
  let look : Look := ⟨block, x, y, block.area.localPoint block.node.attributes x y⟩
  rcases coversLocal_noting host look state noted with ⟨sees, left, asks⟩
  rw [coversPoint_eq_local]
  refine ⟨sees, left, asks.trans ?_⟩
  rw [show noted.map Question.asked = _ from before, ← List.map_append, ← List.filter_append]
  rfl

end

/-! ## Renderings -/

mutual

theorem areas_ofNode (around : List Block) (area : Area) :
    ∀ node : Node, ∀ placed ∈ Placed.ofNode around area node, placed.block.area.IsPlaced
  | .mk header attributes children => by
      intro placed member
      rcases List.mem_cons.mp member with same | inner
      · rw [same]
        exact area.inside_isPlaced attributes
      · exact areas_ofNodes _ _ children placed inner

theorem areas_ofNodes (around : List Block) (area : Area) :
    ∀ nodes : List Node, ∀ placed ∈ Placed.ofNodes around area nodes, placed.block.area.IsPlaced
  | [] => List.forall_mem_nil _
  | node :: rest => by
      intro placed member
      rcases List.mem_append.mp member with first | later
      · exact areas_ofNode around area node placed first
      · exact areas_ofNodes around area rest placed later

end

/--
**Overlays are looked at in exact coordinates.**  Take a map with blocks of any geometry, of any
size, and any host.  The painter that keeps a record of its looks paints the same map and leaves
the host in the same state, and the host is asked just what the record says of script overlays.
Every look of the record is at an overlay of the map and at a point of the map in the overlay's
area.  On the way to the coordinates that the pattern or the host is given nothing leaves the
range of 64 bits: they are the distances from the corner times a hundred, over the zoom in
percent, rounded down.  They are not negative and do not exceed the overlay's own extent, and they
stay below it along an axis whose zoom is at most a hundred percent.
-/
theorem render_looks_exactly {σ : Type u} (host : ScriptHost σ) (resolver : Resolver)
    (format : MapFormat) (players : Nat) (map : Node) (state : σ) :
    let rendering := render host resolver format players map state
    let noting := render host.noting resolver format players map (state, [])
    let watched := renderBy (watching host) resolver format players map (state, [])
    (watched.foreground = rendering.foreground ∧ watched.background = rendering.background ∧
        watched.messages = rendering.messages ∧ watched.state.1 = rendering.state) ∧
      noting.state.2.map Question.asked =
        (watched.state.2.filter Look.asksScript).map Look.asked ∧
      ∀ look ∈ watched.state.2, look.IsAt map (format.sizeFor players) ∧ look.IsExact := by
  intro rendering noting watched
  let size := format.sizeFor players
  let kept : Look -> Prop := fun look => look.IsAt map size ∧ look.IsExact
  have records : ∀ point ∈ pointsOf size, ∀ placed ∈ overlaysOf map size,
      SeeAlike (watching host) (coversPoint host) (Records kept) point.1 point.2 placed.block :=
    fun point inMap placed inside => watching_records host fun contained =>
      ⟨⟨List.mem_map_of_mem inside, ⟨point, inMap, rfl, rfl⟩, contained⟩,
        Look.isExact_of_contained (areas_ofNodes _ _ _ placed inside) contained⟩
  have notes : ∀ point ∈ pointsOf size, ∀ placed ∈ overlaysOf map size,
      SeeAlike (watching host) (coversPoint host.noting) Notes point.1 point.2 placed.block :=
    fun point _ placed _ => watching_notes host point.1 point.2 placed.block
  have blank : Records kept (state, []) state := ⟨rfl, List.forall_mem_nil _⟩
  have unasked : Notes (state, []) (state, []) := ⟨rfl, rfl⟩
  have recorded := renderBy_alike resolver format players map records blank
  have noted := renderBy_alike resolver format players map notes unasked
  rw [renderBy_coversPoint] at recorded noted
  rcases recorded with ⟨fores, backs, messages, left, all⟩
  exact ⟨⟨fores, backs, messages, left⟩, noted.2.2.2.2, all⟩

/-- A map of one point with overlays inside of overlays, each twenty million times as wide and high
as the one around it.  The innermost begins as far to the left and above as it can, so that the
point lies near its lower right corner, and shows one percent of what its script says. -/
def drifted : Node :=
  let vast : Attributes := { width := 2000000000, height := 2000000000 }
  let header : NodeHeader := ⟨.overlay, none, Place.unknown⟩
  .mk ⟨.map, none, Place.unknown⟩ {}
    [.mk header vast [.mk header vast [.mk header vast
      [.mk header { pattern := .script, x := -99, y := -99, zoomX := 1, zoomY := 200 } []]]]]

/-- The script is asked about a point near the end of the range across, and about half of the
distance down. -/
theorem render_looks_exactly_drifted :
    Exists fun look : Look =>
      look.asked = ("ScriptAlgo", 9131138316486228000, 45655691582431140) ∧ look.IsExact := by
  let watched := renderBy (watching ScriptHost.absent) ⟨[], []⟩ (MapFormat.fixed 1 1) 1 drifted
    (none, [])
  have last : (watched.state.2.filter Look.asksScript).map Look.asked =
      [("ScriptAlgo", 9131138316486228000, 45655691582431140)] := by
    decide +kernel
  rcases List.map_eq_singleton_iff.mp last with ⟨look, only, asks⟩
  have member : look ∈ watched.state.2.filter Look.asksScript :=
    only ▸ List.mem_singleton_self look
  exact ⟨look, asks, ((render_looks_exactly ScriptHost.absent ⟨[], []⟩ (MapFormat.fixed 1 1) 1
    drifted none).2.2 look (List.mem_of_mem_filter member)).2⟩

end Landscape
end Landform
