import Landform.Landscape.Area
import Landform.MapSize
import Landform.Material.Resolver
import Landform.Raster

namespace Landform
namespace Landscape

/-!
Rendering a map of a landscape description.  Every point of the map starts with the
map's own material and then goes through the overlays in their order: an overlay whose
area contains the point and whose pattern covers it lays its material over what is there,
and then its own overlays follow.  A mask lays no material and only restricts the
overlays inside it.

Overlays of pattern `script` are decided by a host.  The host may change its state at
every question, so questions are put in a fixed order: rows from the top, points from the
left, overlays in their order.
-/

/-- What decides the points of script overlays, by the name of a script function. -/
structure ScriptHost (σ : Type u) where
  covers : σ -> String -> Int -> Int -> Bool × σ

/-- The host of maps rendered without scripts: it covers nothing and keeps the first name. -/
def ScriptHost.absent : ScriptHost (Option String) where
  covers := fun first function _ _ => (false, some (first.getD function))

/-- What the absence of a host is reported by, for the first function asked for. -/
def noScriptMessage (function : String) : String :=
  function ++ ": no script loaded for algo=script"

/-- A block ready to be painted: its area and the material it lays. -/
inductive Layer where
  | mk (node : Node) (area : Area) (material : Option MaterialPair) (children : List Layer)

mutual

/-- A block that takes up an area, made ready to be painted. -/
def Layer.ofNode (resolver : Resolver) (area : Area) : Node -> Layer
  | .mk header attributes children =>
      .mk (.mk header attributes children) area
        (attributes.materialSpec.bind resolver.resolve)
        (Layer.ofNodes resolver area children)

/-- The overlays inside an area, made ready to be painted. -/
def Layer.ofNodes (resolver : Resolver) (area : Area) : List Node -> List Layer
  | [] => []
  | .mk header attributes children :: rest =>
      Layer.ofNode resolver (area.inside attributes) (.mk header attributes children) ::
        Layer.ofNodes resolver area rest

end

namespace Layer

/-- The block a layer was made of. -/
def node : Layer -> Node
  | mk node _ _ _ => node

/-- The area a layer takes up. -/
def area : Layer -> Area
  | mk _ area _ _ => area

/-- The material a layer lays. -/
def material : Layer -> Option MaterialPair
  | mk _ _ material _ => material

/-- The layers inside a layer. -/
def children : Layer -> List Layer
  | mk _ _ _ children => children

end Layer

/-- Whether a block in an area covers a point of the map; a script overlay asks the host. -/
def coversPoint {σ : Type u} (host : ScriptHost σ) (node : Node) (area : Area) (x y : Int)
    (state : σ) : Bool × σ :=
  let attributes := node.attributes
  let point := area.localPoint attributes x y
  match attributes.pattern with
  | .script =>
      let (covered, next) := host.covers state node.scriptFunction point.x point.y
      (covered != attributes.invert, next)
  | pattern => (pattern.covers attributes.measures point != attributes.invert, state)

/-- What shows after a block has laid its material over something. -/
def laidOver (mask : Bool) (material : Option MaterialPair) (below : MaterialPair) :
    MaterialPair :=
  if mask then below else material.getD below

mutual

/-- Takes a point of the map through a layer and everything inside it. -/
def Layer.paint {σ : Type u} (host : ScriptHost σ) (x y : Int) :
    Layer -> MaterialPair × σ -> MaterialPair × σ
  | .mk node area material children, (below, state) =>
      if area.contains x y then
        match coversPoint host node area x y state with
        | (true, next) =>
            Layer.paintAll host x y children
              (laidOver node.attributes.mask material below, next)
        | (false, next) => (below, next)
      else (below, state)

/-- Takes a point of the map through several layers. -/
def Layer.paintAll {σ : Type u} (host : ScriptHost σ) (x y : Int) :
    List Layer -> MaterialPair × σ -> MaterialPair × σ
  | [], below => below
  | layer :: rest, below => Layer.paintAll host x y rest (Layer.paint host x y layer below)

end

/-- The two rasters of a map as far as they are painted, and the state of the host. -/
structure Canvas (σ : Type u) where
  foreground : Raster
  background : Raster
  state : σ

namespace Canvas

/-- Paints one point. -/
def paintPoint {σ : Type u} (host : ScriptHost σ) (base : MaterialPair)
    (layers : List Layer) (canvas : Canvas σ) (x y : Nat) : Canvas σ :=
  let ⟨foreground, background, state⟩ := canvas
  let (shown, next) := Layer.paintAll host x y layers (base, state)
  ⟨foreground.set x y shown.foreground, background.set x y shown.background, next⟩

/-- Paints the given number of points of a row, from the left. -/
def paintRow {σ : Type u} (host : ScriptHost σ) (base : MaterialPair) (layers : List Layer)
    (y : Nat) (width : Nat) (canvas : Canvas σ) : Canvas σ :=
  Nat.fold width (fun x _ painted => painted.paintPoint host base layers x y) canvas

/-- Paints the given number of rows, from the top. -/
def paintRows {σ : Type u} (host : ScriptHost σ) (base : MaterialPair) (layers : List Layer)
    (width height : Nat) (canvas : Canvas σ) : Canvas σ :=
  Nat.fold height (fun y _ painted => painted.paintRow host base layers y width) canvas

end Canvas

/-- The message about a block whose material is not in the tables. -/
def unknownMaterial? (resolver : Resolver) (node : Node) : Option String :=
  match node.attributes.materialSpec with
  | none => none
  | some spec =>
      match resolver.resolve spec with
      | some _ => none
      | none =>
          some (s!"{node.header.place.line}:{node.header.place.column}: " ++
            "Unknown material '" ++ spec ++ "'")

/-- The messages about all blocks of a map whose material is not in the tables. -/
def unknownMaterials (resolver : Resolver) (map : Node) : List String :=
  map.preorder.filterMap (unknownMaterial? resolver)

/-- The area of a whole map. -/
def mapArea (width height : Nat) : Area :=
  ⟨0, 0, width, height⟩

/-- The material a map starts from; a map without one starts from the sky. -/
def baseMaterial (resolver : Resolver) (map : Node) : MaterialPair :=
  (map.attributes.materialSpec.bind resolver.resolve).getD ⟨0, 0⟩

/-- Paints a map of the given size. -/
def paint {σ : Type u} (host : ScriptHost σ) (resolver : Resolver) (map : Node)
    (width height : Nat) (state : σ) : Canvas σ :=
  Canvas.paintRows host (baseMaterial resolver map)
    (Layer.ofNode resolver (mapArea width height) map).children width height
    ⟨Raster.blank width height, Raster.blank width height, state⟩

/-- A rendered map, what was reported about it, and the state its host was left in. -/
structure Rendering (σ : Type u) where
  foreground : Raster
  background : Raster
  messages : List String
  state : σ

/-- Renders a map with a host for a number of players. -/
def render {σ : Type u} (host : ScriptHost σ) (resolver : Resolver) (format : MapFormat)
    (players : Nat) (map : Node) (state : σ) : Rendering σ :=
  let (width, height) := format.sizeFor players
  let canvas := paint host resolver map width height state
  ⟨canvas.foreground, canvas.background, unknownMaterials resolver map, canvas.state⟩

/-- Renders a map without a host; the first script function asked for is reported. -/
def renderAlone (resolver : Resolver) (format : MapFormat) (players : Nat) (map : Node) :
    Rendering Unit :=
  let rendering := render ScriptHost.absent resolver format players map none
  ⟨rendering.foreground, rendering.background,
    rendering.messages ++ (rendering.state.map noScriptMessage).toList, ()⟩

end Landscape
end Landform
