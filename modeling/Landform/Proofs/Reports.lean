import Landform.Journal
import Landform.Proofs.Questions

namespace Landform
namespace Landscape

/-!
# What a rendering reports

A rendering reports in two passes.  Before anything is painted, the blocks of the map are made
ready one after another, and each block whose material is not in the tables is reported, whether
it will show or not.  Then the points are painted, and a rendering without a host reports the
first overlay of a script that it comes to, and no further one.

`render` and `renderAlone` tell the reports apart from the painting.  Here they are written to a
journal where the two passes come to them: `Layer.readied` makes blocks ready and writes, and
`ScriptHost.reporting` writes in place of a host that is missing.  Both ways come to the same,
and what is in the journal before stays in front.
-/

/-! ## Blocks whose materials are not known -/

namespace Node

/-- Whether a block names a material that is not in the tables. -/
def lacksMaterial (resolver : Resolver) (node : Node) : Bool :=
  node.attributes.materialSpec.any fun spec => (resolver.resolve spec).isNone

/-- The report on a material that is not in the tables, with the place of the block's keyword. -/
def lackReport (node : Node) (spec : String) : String :=
  toString node.header.place.line ++ ":" ++ toString node.header.place.column ++ ": " ++
    "Unknown material '" ++ spec ++ "'"

/-- The report on the material of a block. -/
def materialReport (node : Node) : String :=
  node.lackReport (node.attributes.materialSpec.getD "")

/-- The material of a block; one that is not in the tables is reported. -/
def lookUp (resolver : Resolver) (node : Node) (journal : Journal) :
    Option MaterialPair × Journal :=
  match node.attributes.materialSpec with
  | none => (none, journal)
  | some spec =>
      match resolver.resolve spec with
      | some material => (some material, journal)
      | none => (none, journal.push (node.lackReport spec))

end Node

theorem unknownMaterial_eq (resolver : Resolver) (node : Node) :
    unknownMaterial? resolver node =
      if node.lacksMaterial resolver then some node.materialReport else none := by
  unfold unknownMaterial? Node.lacksMaterial Node.materialReport
  cases node.attributes.materialSpec with
  | none => rfl
  | some spec =>
      cases resolved : resolver.resolve spec with
      | none =>
          simp only [resolved, Option.any_some, Option.isNone_none, if_true]
          rfl
      | some material =>
          simp only [resolved, Option.any_some, Option.isNone_some, Bool.false_eq_true, if_false]

/-- Every block whose material is not in the tables is reported once, in the order of the
description. -/
theorem unknownMaterials_eq (resolver : Resolver) (map : Node) :
    unknownMaterials resolver map =
      (map.preorder.filter (Node.lacksMaterial resolver)).map Node.materialReport := by
  have each : unknownMaterial? resolver =
      fun node => if node.lacksMaterial resolver then some node.materialReport else none :=
    funext (unknownMaterial_eq resolver)
  rw [unknownMaterials, each, ← List.filterMap_eq_map, List.filterMap_filter]
  rfl

theorem lookUp_eq (resolver : Resolver) (node : Node) (journal : Journal) :
    node.lookUp resolver journal =
      (node.attributes.materialSpec.bind resolver.resolve,
        journal.append (unknownMaterial? resolver node).toList.toArray) := by
  unfold Node.lookUp unknownMaterial?
  cases node.attributes.materialSpec with
  | none => exact congrArg (Prod.mk none) journal.append_empty.symm
  | some spec =>
      cases resolved : resolver.resolve spec with
      | none =>
          simp only [resolved, Option.bind_some]
          exact congrArg (Prod.mk none) (journal.push_eq_append _)
      | some material =>
          simp only [resolved, Option.bind_some]
          exact congrArg (Prod.mk (some material)) journal.append_empty.symm

/-! ## The first pass -/

mutual

/-- Makes a block that takes up an area ready to be painted; the materials that are not in the
tables are reported on the way. -/
def Layer.readied (resolver : Resolver) (area : Area) : Node -> Journal -> Layer × Journal
  | .mk header attributes children, journal =>
      let (material, told) := (Node.mk header attributes children).lookUp resolver journal
      let (layers, after) := Layer.readiedAll resolver area children told
      (.mk (.mk header attributes children) area material layers, after)

/-- Makes the overlays inside an area ready to be painted. -/
def Layer.readiedAll (resolver : Resolver) (area : Area) :
    List Node -> Journal -> List Layer × Journal
  | [], journal => ([], journal)
  | .mk header attributes children :: rest, journal =>
      let (layer, told) :=
        Layer.readied resolver (area.inside attributes) (.mk header attributes children) journal
      let (layers, after) := Layer.readiedAll resolver area rest told
      (layer :: layers, after)

end

mutual

theorem readied_eq (resolver : Resolver) (area : Area) : ∀ (node : Node) (journal : Journal),
    Layer.readied resolver area node journal =
      (Layer.ofNode resolver area node,
        journal.append (node.preorder.filterMap (unknownMaterial? resolver)).toArray)
  | .mk header attributes children, journal => by
      have first : ((Node.mk header attributes children).preorder.filterMap
          (unknownMaterial? resolver)) =
            (unknownMaterial? resolver (.mk header attributes children)).toList ++
              (Node.preorderAll children).filterMap (unknownMaterial? resolver) := by
        rw [Node.preorder, List.filterMap_cons]
        cases unknownMaterial? resolver (.mk header attributes children) <;> rfl
      have inner := readiedAll_eq resolver area children
        (journal.append (unknownMaterial? resolver (.mk header attributes children)).toList.toArray)
      simp only [Layer.readied, lookUp_eq, inner, first, Journal.append_append,
        List.append_toArray]
      rfl

theorem readiedAll_eq (resolver : Resolver) (area : Area) :
    ∀ (nodes : List Node) (journal : Journal),
      Layer.readiedAll resolver area nodes journal =
        (Layer.ofNodes resolver area nodes,
          journal.append
            ((Node.preorderAll nodes).filterMap (unknownMaterial? resolver)).toArray)
  | [], journal => congrArg (Prod.mk []) journal.append_empty.symm
  | .mk header attributes children :: rest, journal => by
      have first := readied_eq resolver (area.inside attributes) (.mk header attributes children)
        journal
      have others := readiedAll_eq resolver area rest
        (journal.append ((Node.mk header attributes children).preorder.filterMap
          (unknownMaterial? resolver)).toArray)
      simp only [Layer.readiedAll, first, others, Layer.ofNodes, Node.preorderAll,
        List.filterMap_append, Journal.append_append, List.append_toArray]

end

/-! ## The second pass -/

namespace ScriptHost

/-- What stands in for a host that is missing: it covers nothing, and reports the first function
it is asked for.  It remembers whether it has done so. -/
def reporting : ScriptHost (Journal × Bool) where
  covers := fun (journal, reported) function _ _ =>
    (false, if reported then journal else journal.push (noScriptMessage function), true)

/-- A host beside a journal that it does not write to. -/
def beside {σ : Type u} (host : ScriptHost σ) : ScriptHost (σ × Journal) where
  covers := fun (state, journal) function x y =>
    let (covered, next) := host.covers state function x y
    (covered, next, journal)

/-- Reporting at the first question comes to keeping its function. -/
theorem absent_reporting (told : Journal) :
    AnswerAlike absent reporting fun first other => other =
      (told.append (first.map noScriptMessage).toList.toArray, first.isSome) := by
  rintro first other rfl function x y
  cases first with
  | none =>
      refine ⟨rfl, ?_⟩
      have before : told.append (Option.map noScriptMessage none).toList.toArray = told :=
        told.append_empty
      simp only [reporting, before, Option.isSome_none, Bool.false_eq_true, if_false]
      exact congrArg (Prod.mk · true) (told.push_eq_append (noScriptMessage function))
  | some earlier => exact ⟨rfl, rfl⟩

theorem beside_alike {σ : Type u} (host : ScriptHost σ) (told : Journal) :
    AnswerAlike host host.beside fun state both => both = (state, told) := by
  rintro state both rfl function x y
  exact ⟨rfl, rfl⟩

end ScriptHost

/-- Paints a map whose blocks report to a journal while they are made ready.  The host starts
from what the first pass has left in the journal. -/
def paintReporting {σ : Type u} (host : ScriptHost σ) (resolver : Resolver) (map : Node)
    (size : Nat × Nat) (start : Journal -> σ) (journal : Journal) : Canvas σ :=
  let (root, told) := Layer.readied resolver (mapArea size.1 size.2) map journal
  Canvas.paintRows host (root.material.getD ⟨0, 0⟩) root.children size.1 size.2
    ⟨Raster.blank size.1 size.2, Raster.blank size.1 size.2, start told⟩

theorem paintReporting_eq {σ : Type u} (host : ScriptHost σ) (resolver : Resolver) (map : Node)
    (size : Nat × Nat) (start : Journal -> σ) (journal : Journal) :
    paintReporting host resolver map size start journal =
      paint host resolver map size.1 size.2
        (start (journal.append (unknownMaterials resolver map).toArray)) := by
  rw [paintReporting, readied_eq]
  cases map
  rfl

/-! ## The first overlay that nobody decides -/

/-- Asked some questions, a host that is not there has answered no to all of them, and keeps
the function of the first. -/
theorem absent_replies {questions : List Question} {first last : Option String}
    (replies : ScriptHost.absent.Replies first questions last) :
    (∀ question ∈ questions, question.answer = false) ∧
      last = first.or (questions.head?.map Question.function) := by
  induction questions generalizing first with
  | nil =>
      refine ⟨fun _ impossible => (nomatch impossible), ?_⟩
      have still : last = first := replies
      rw [still, List.head?_nil, Option.map_none, Option.or_none]
  | cons question rest inductionHypothesis =>
      rcases replies with ⟨answer, later⟩
      rcases inductionHypothesis later with ⟨no, kept⟩
      refine ⟨fun other member => ?_, ?_⟩
      · rcases List.mem_cons.mp member with same | behind
        · rw [same]
          exact answer.symm
        · exact no other behind
      · rw [kept]
        cases first <;> rfl

/-- The script overlays that a rendering without a host comes to, and the first of them. -/
theorem paint_absent (resolver : Resolver) (map : Node) (size : Nat × Nat) :
    (paint ScriptHost.absent resolver map size.1 size.2 none).state =
      (questionsOf map size fun _ _ => false).head?.map Question.function := by
  rcases paint_map_asks ScriptHost.absent map size.1 size.2 none with ⟨answers, given, asks⟩
  rcases absent_replies (asks resolver).1 with ⟨no, first⟩
  have silent : answers = fun _ _ => false := by
    funext point way
    apply Bool.eq_false_iff.mpr
    intro yes
    rcases given point way yes with ⟨reached, site, member, asked, same⟩
    have question : site.question (answers point) point.1 point.2 ∈
        questionsOf map (size.1, size.2) answers :=
      List.mem_flatMap.mpr ⟨point, reached,
        List.mem_map_of_mem (List.mem_filter.mpr ⟨member, asked⟩)⟩
    have answer : answers point site.spot.way = false := no _ question
    rw [same, yes] at answer
    cases answer
  rw [first, silent]
  rfl

/-! ## Renderings -/

/--
**What a rendering reports.**  Every block of the map whose material is not in the tables is
reported once, in the order of the description, with the place of its keyword; blocks that are
masks, lie beside the map or are painted over are no exception.  With a host nothing else is
reported.  Without one, a single report follows if any overlay of a script is asked for at any
point, and it names the function of the first that is.  Written to a journal as the blocks are
made ready and the points are painted, the reports follow what the journal held before, and the
rendering is the same.
-/
theorem render_reports (resolver : Resolver) (format : MapFormat) (players : Nat) (map : Node)
    (journal : Journal) :
    let size := format.sizeFor players
    let unknown := (map.preorder.filter (Node.lacksMaterial resolver)).map Node.materialReport
    let unanswered := (questionsOf map size fun _ _ => false).head?.map Question.function
    let reports := unknown ++ (unanswered.map noScriptMessage).toList
    let alone := renderAlone resolver format players map
    (∀ {σ : Type u} (host : ScriptHost σ) (state : σ),
      let rendering := render host resolver format players map state
      rendering.messages = unknown ∧
        paintReporting host.beside resolver map size (fun told => (state, told)) journal =
          ⟨rendering.foreground, rendering.background,
            rendering.state, journal.append unknown.toArray⟩) ∧
      alone.messages = reports ∧
      paintReporting .reporting resolver map size (fun told => (told, false)) journal =
        ⟨alone.foreground, alone.background,
          journal.append reports.toArray, unanswered.isSome⟩ := by
  intro size unknown unanswered reports alone
  have listed : unknownMaterials resolver map = unknown := unknownMaterials_eq resolver map
  have first := paint_absent resolver map size
  refine ⟨fun host state => ⟨listed, ?_⟩, ?_, ?_⟩
  · rw [paintReporting_eq, listed]
    exact paint_told (host.beside_alike (journal.append unknown.toArray)) resolver map size.1
      size.2 state
  · simp only [alone, renderAlone, render]
    rw [listed]
    exact congrArg (fun first : Option String => unknown ++ (first.map noScriptMessage).toList)
      first
  · have told := ScriptHost.absent_reporting (journal.append unknown.toArray)
    have painted := paint_told told resolver map size.1 size.2 none
    simp only [Option.map_none, Option.toList_none, Option.isSome_none, Journal.append_empty, first]
      at painted
    rw [paintReporting_eq, listed, painted, Journal.append_append, List.append_toArray]
    rfl

end Landscape
end Landform
