import Landform.Fault
import Landform.Landscape.Pattern

namespace Landform
namespace Landscape

/-!
Landscape descriptions as trees.  A description is a list of maps; a map holds overlays,
which hold overlays in turn.  Geometry is given in percent of the block around.
-/

/-- What a block is: a map, or an overlay inside another block. -/
inductive NodeKind where
  | map
  | overlay
  deriving DecidableEq, Inhabited

/-- What the settings of a block say. -/
structure Attributes where
  pattern : Pattern := .solid
  material : Option String := none
  texture : Option String := none
  back : Option String := none
  x : Int := 0
  y : Int := 0
  width : Int := 100
  height : Int := 100
  zoomX : Int := 100
  zoomY : Int := 100
  a : Int := 0
  b : Int := 0
  seed : UInt32 := 0
  invert : Bool := false
  mask : Bool := false
  deriving DecidableEq, Inhabited

namespace Attributes

/-- The numbers that set the measures of the pattern. -/
def measures (attributes : Attributes) : PatternMeasures :=
  ⟨attributes.a, attributes.b, attributes.seed⟩

/-- The spec of the block's material; a block without one shows what lies below it. -/
def materialSpec (attributes : Attributes) : Option String :=
  attributes.material.map fun material =>
    material ++ (attributes.texture.elim "" fun texture => "-" ++ texture) ++
      (attributes.back.elim "" fun back => ":" ++ back)

/-- A spec is spelled `mat`, `mat-tex`, `mat:back` or `mat-tex:back`, by what the block sets
besides its material. -/
theorem materialSpec_eq_some_iff {attributes : Attributes} {spec : String} :
    attributes.materialSpec = some spec ↔
      Exists fun material => attributes.material = some material ∧
        spec = match attributes.texture, attributes.back with
          | none, none => material
          | some texture, none => material ++ "-" ++ texture
          | none, some back => material ++ ":" ++ back
          | some texture, some back => material ++ "-" ++ texture ++ ":" ++ back := by
  rw [materialSpec, Option.map_eq_some_iff]
  refine exists_congr fun material => and_congr_right fun _ => eq_comm.trans ?_
  cases attributes.texture <;> cases attributes.back <;>
    simp only [Option.elim_none, Option.elim_some, String.append_empty, String.append_assoc]

end Attributes

/-- The head of a block: what it is, its name, and where its keyword stands. -/
structure NodeHeader where
  kind : NodeKind
  name : Option String
  place : Place
  deriving DecidableEq, Inhabited

/-- A block: its head, its settings, and the overlays inside in their order. -/
inductive Node where
  | mk (header : NodeHeader) (attributes : Attributes) (children : List Node)
  deriving Inhabited

namespace Node

/-- The head of a block. -/
def header : Node -> NodeHeader
  | mk header _ _ => header

/-- The settings of a block. -/
def attributes : Node -> Attributes
  | mk _ attributes _ => attributes

/-- The overlays inside a block. -/
def children : Node -> List Node
  | mk _ _ children => children

/-- What every script function of an overlay is called, up to the overlay's name. -/
def scriptFunctionMark : String := "ScriptAlgo"

/-- The script function that a block of pattern `script` asks. -/
def scriptFunction (node : Node) : String :=
  scriptFunctionMark ++ node.header.name.getD ""

/-- An overlay with a name asks the function `ScriptAlgo` followed by it, one without a name asks
`ScriptAlgo`. -/
theorem scriptFunction_eq_iff {node : Node} {function : String} :
    node.scriptFunction = function ↔
      (node.header.name = none ∧ function = "ScriptAlgo") ∨
        Exists fun name => node.header.name = some name ∧ function = "ScriptAlgo" ++ name := by
  rw [scriptFunction, scriptFunctionMark]
  cases node.header.name with
  | none => simp [eq_comm]
  | some name => simp [eq_comm]

/-- Whether a block is an overlay that asks a script. -/
def isScriptOverlay (node : Node) : Bool :=
  node.header.kind == .overlay && node.attributes.pattern == .script

mutual

/-- A block followed by everything inside it, every block in front of what it holds. -/
def preorder : Node -> List Node
  | mk header attributes children => mk header attributes children :: preorderAll children

/-- The blocks of a list, each followed by everything inside it. -/
def preorderAll : List Node -> List Node
  | [] => []
  | node :: rest => preorder node ++ preorderAll rest

end

mutual

/-- The blocks of a tree in front of what they hold, each with its depth. -/
def preorderWithDepth (depth : Nat) : Node -> List (Nat × Node)
  | mk header attributes children =>
      (depth, mk header attributes children) :: preorderAllWithDepth (depth + 1) children

/-- The blocks of trees at one depth, each followed by everything inside it. -/
def preorderAllWithDepth (depth : Nat) : List Node -> List (Nat × Node)
  | [] => []
  | node :: rest => preorderWithDepth depth node ++ preorderAllWithDepth depth rest

end

/-- Whether an overlay of a tree asks a script. -/
def asksScript (node : Node) : Bool :=
  node.preorder.any isScriptOverlay

end Node

/-- A description: its maps in order.  Only the first is rendered, the others are alternatives. -/
structure Document where
  maps : List Node := []
  deriving Inhabited

namespace Document

/-- The map that is rendered. -/
def rootMap? (document : Document) : Option Node :=
  document.maps.head?

end Document

end Landscape
end Landform
