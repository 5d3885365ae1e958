import Landform.Proofs.Description
import Landform.Proofs.Grammar

namespace Landform

open Script

variable {language : Language}

/-!
# Descriptions that ask no script

Whether a map needs a script is found out twice.  Before anything is painted, the tree of the
map is searched for an overlay of pattern `script`; and while a point is painted, every layer
that is come to is looked at for its pattern alone.  The search leaves out maps and the painter
leaves out the outermost block, whatever it is.  On trees that were read this is the same:
the outermost block is a map, and all the others are overlays (`asksScript_eq_asks`).

So a request whose search finds nothing is carried out without any script.  Its archive stays
closed, its session is left as it was but for the counts and the journal, and its result is made
of the description and the tables alone.
-/

namespace Landscape

/-! ## Blocks of trees that are read -/

/-- The blocks in a row are of the kind that a keyword in their place begins. -/
theorem items_keyword : ∀ {depth : Nat} {tokens : List Token} {settings : List Setting}
    {nodes : List Node}, IsItems depth tokens settings nodes -> ∀ node ∈ nodes,
      Exists fun word => IsKeyword depth word node.header.kind
  | _, _, _, _, .nothing, _, impossible => nomatch impossible
  | _, _, _, _, .semicolon before _, node, member => items_keyword before node member
  | _, _, _, _, .setting before _ _ _ _ _, node, member => items_keyword before node member
  | _, _, _, _, .block before block, node, member => by
      rcases List.mem_append.mp member with earlier | last
      · exact items_keyword before node earlier
      · rw [List.mem_singleton.mp last]
        cases block with
        | @braced depth word kind name front items settings children place opening closing keyword
            shallow named inside => exact ⟨word, keyword⟩

theorem ofText_maps {source : String} {document : Document}
    (read : Document.ofText source = .ok document) :
    ∀ map ∈ document.maps, map.header.kind = .map := by
  intro map member
  unfold Document.ofText at read
  split at read
  · rename_i list tokens
    have derived := (Document.ofTokens_eq_ok_iff list document).mp read
    rcases items_keyword derived map member with ⟨word, keyword⟩
    generalize map.header.kind = kind at keyword
    cases keyword
    rfl
  · cases read

/-- The search of a tree that was read finds the blocks of pattern `script` inside the map. -/
theorem asksScript_eq_inside {source : String} {document : Document}
    (read : Document.ofText source = .ok document) {map : Node} (member : map ∈ document.maps) :
    map.asksScript =
      (Node.preorderAll map.children).any fun inner => inner.attributes.pattern == .script := by
  have isMap := ofText_maps read map member
  have outermost : map.isScriptOverlay = false := by
    simp only [Node.isScriptOverlay, isMap]
    rfl
  have within : ∀ inner ∈ Node.preorderAll map.children,
      inner.isScriptOverlay = (inner.attributes.pattern == .script) :=
    fun inner => isScriptOverlay_inside read member
  calc
    map.asksScript = (Node.preorderAll map.children).any Node.isScriptOverlay := by
      cases map with
      | mk header attributes children =>
          simp only [Node.asksScript, Node.preorder, List.any_cons, outermost, Bool.false_or]
          rfl
    _ = ((Node.preorderAll map.children).map Node.isScriptOverlay).any id := by
      rw [List.any_map, Function.id_comp]
    _ = ((Node.preorderAll map.children).map
          fun inner => inner.attributes.pattern == .script).any id := by
      rw [List.map_congr_left within]
    _ = _ := List.any_map

/-! ## Layers that ask -/

/-- A host that counts its questions. -/
def ScriptHost.counting : ScriptHost Nat where
  covers := fun asked _ _ _ => (false, asked + 1)

namespace Layer

/-- Whether the painter has a question to its host when it comes to a layer. -/
def asks (x y : Int) (layer : Layer) : Bool :=
  (coversPoint ScriptHost.counting layer.node layer.area x y 0).2 != 0

mutual

/-- The layers inside a layer, every one in front of what it holds. -/
def inside : Layer -> List Layer
  | mk _ _ _ children => insideAll children

def insideAll : List Layer -> List Layer
  | [] => []
  | layer :: rest => layer :: inside layer ++ insideAll rest

end

theorem asks_eq (x y : Int) (layer : Layer) :
    layer.asks x y = (layer.node.attributes.pattern == .script) := by
  simp only [asks, coversPoint]
  cases layer.node.attributes.pattern <;> rfl

mutual

/-- Making a block ready to be painted keeps all that is inside it. -/
theorem inside_ofNode (resolver : Resolver) : ∀ (node : Node) (area : Area),
    (ofNode resolver area node).inside.map Layer.node = Node.preorderAll node.children
  | .mk _ _ children, area => by
      rw [ofNode, inside]
      exact insideAll_ofNodes resolver children area

theorem insideAll_ofNodes (resolver : Resolver) : ∀ (nodes : List Node) (area : Area),
    (insideAll (ofNodes resolver area nodes)).map Layer.node = Node.preorderAll nodes
  | [], _ => rfl
  | .mk header attributes children :: rest, area => by
      have here := inside_ofNode resolver (.mk header attributes children) (area.inside attributes)
      have later := insideAll_ofNodes resolver rest area
      rw [ofNodes, insideAll, List.map_append, List.map_cons, here, later]
      rfl

end

end Layer

/-- The search of a map that was read and the painter of the map agree, at every point and
whatever the tables and the size are. -/
theorem asksScript_eq_asks {source : String} {document : Document}
    (read : Document.ofText source = .ok document) {map : Node} (member : map ∈ document.maps)
    (resolver : Resolver) (area : Area) (x y : Int) :
    map.asksScript = (Layer.ofNode resolver area map).inside.any (Layer.asks x y) := by
  rw [asksScript_eq_inside read member, ← Layer.inside_ofNode resolver map area, List.any_map]
  exact List.any_congr rfl fun layer => (layer.asks_eq x y).symm

/-! ## Painting without questions -/

theorem noScriptMessage_not_unknown (resolver : Resolver) (map : Node) (function : String) :
    noScriptMessage function ∉ unknownMaterials resolver map := by
  intro member
  rcases List.mem_filterMap.mp member with ⟨node, _, reported⟩
  unfold unknownMaterial? at reported
  split at reported
  · cases reported
  · split at reported
    · cases reported
    · -- The two texts end with different characters.
      have last := congrArg (fun text => text.toList.getLast?) (Option.some.inj reported)
      simp [noScriptMessage, List.getLast?_cons, List.getLast?_append] at last

/-- Painting a map asks its host nothing, whatever the host, the tables and the size are, and
the absence of a host is not reported. -/
structure Node.AsksNobody (map : Node) : Prop where
  still : ∀ {σ : Type} (host : ScriptHost σ) (resolver : Resolver) (width height : Nat) (state : σ),
    (paint host resolver map width height state).state = state
  silent : ∀ (resolver : Resolver) (format : MapFormat) (players : Nat) (function : String),
    noScriptMessage function ∉ (renderAlone resolver format players map).messages

theorem asksNobody_of_askNothing {map : Node} (unasked : AskNothing map.children) :
    map.AsksNobody where
  still := fun host resolver => paint_unasked host resolver map unasked
  silent := by
    intro resolver format players function
    rw [Generation.renderAlone_messages unasked]
    exact noScriptMessage_not_unknown resolver map function

end Landscape

/-! ## Requests -/

namespace GenerationRequest

/-- A request whose description cannot be read, has no map, or has no overlay in its first map
that a script decides. -/
inductive IsUnscripted (request : GenerationRequest) : Prop where
  | unread {offence : Landscape.DescriptionFault}
      (read : Landscape.Document.ofText request.source = .error offence)
  | mapless {document : Landscape.Document}
      (read : Landscape.Document.ofText request.source = .ok document)
      (none : document.maps = [])
  | unasking {document : Landscape.Document} {map : Landscape.Node}
      {others : List Landscape.Node}
      (read : Landscape.Document.ofText request.source = .ok document)
      (first : document.maps = map :: others)
      (overlays : ∀ node ∈ map.preorder, node.header.kind = .overlay ->
        node.attributes.pattern ≠ .script)

/-- Two requests have the description, the tables and the size in common. -/
structure PaintsAlike (request other : GenerationRequest) : Prop where
  kind : other.kind = request.kind
  source : other.source = request.source
  fileName : other.fileName = request.fileName
  materials : other.materials = request.materials
  textures : other.textures = request.textures
  width : other.width = request.width
  height : other.height = request.height

/-- How a request ends that asks no script. -/
def unscriptedOutcome (request : GenerationRequest) : Except Fault GeneratedMap := do
  let map ← request.map?
  Generation.aloneOutcome request map

/-- What a request that asks no script leaves in a journal: nothing is written before there is
a map, and then only the unknown materials. -/
def unscriptedJournal (request : GenerationRequest) (journal : Journal) : Journal :=
  match request.map? with
  | .error _ => journal
  | .ok map => ⟨(Landscape.unknownMaterials request.resolver map).toArray⟩

variable {request : GenerationRequest}

theorem IsUnscripted.map_of (unscripted : request.IsUnscripted) {map : Landscape.Node}
    (first : request.map? = .ok map) :
    map.asksScript = false ∧ Landscape.AskNothing map.children := by
  cases unscripted with
  | unread read =>
      simp only [map?, read] at first
      cases first
  | mapless read none =>
      simp only [map?, read, none, List.head?_nil] at first
      cases first
  | @unasking document found others read begins overlays =>
      simp only [map?, read, begins, List.head?_cons] at first
      cases first
      have alone : map.asksScript = false := by
        refine List.any_eq_false.mpr fun node inside isOverlay => ?_
        rcases Bool.and_eq_true_iff.mp isOverlay with ⟨kind, pattern⟩
        exact overlays node inside (eq_of_beq kind) (eq_of_beq pattern)
      have member : map ∈ document.maps := by
        rw [begins]
        exact List.mem_cons_self
      exact ⟨alone, Generation.askNothing_of_read read member alone⟩

theorem PaintsAlike.unscriptedOutcome_eq {other : GenerationRequest}
    (alike : request.PaintsAlike other) :
    other.unscriptedOutcome = request.unscriptedOutcome := by
  rcases alike with ⟨_, source, fileName, materials, textures, width, height⟩
  simp only [unscriptedOutcome, Generation.aloneOutcome, map?, resolver, format, source, fileName,
    materials, textures, width, height]

theorem PaintsAlike.isUnscripted {other : GenerationRequest} (alike : request.PaintsAlike other)
    (unscripted : request.IsUnscripted) : other.IsUnscripted := by
  have source := alike.source
  cases unscripted with
  | unread read => exact .unread (source ▸ read)
  | mapless read none => exact .mapless (source ▸ read) none
  | unasking read first overlays => exact .unasking (source ▸ read) first overlays

end GenerationRequest

namespace Generation

variable {m : Type -> Type} [Monad m]

/-- A request that asks no script never comes to the opener of archives, and only the journal
of the session changes. -/
theorem byLandscape_unscripted (openArchive : String -> m (Except Fault Archive))
    {request : GenerationRequest} (unscripted : request.IsUnscripted)
    (session : Session language) :
    byLandscape openArchive request session =
      pure (request.unscriptedOutcome,
        { session with journal := request.unscriptedJournal session.journal }) := by
  unfold byLandscape GenerationRequest.unscriptedOutcome GenerationRequest.unscriptedJournal
  cases first : request.map? with
  | error fault => rfl
  | ok map =>
      rcases unscripted.map_of first with ⟨alone, unasked⟩
      simp only [alone, Bool.false_eq_true, if_false]
      rw [renderAlone_eq, renderAlone_messages unasked]
      rfl

end Generation

namespace Generator

/--
**Descriptions that ask no script.**  The result of such a request is one and the same for all
requests that have the description, the tables and the size in common, for all generators and
all openers.  The opener is never called, and the session keeps everything but the counts and
the journal.  Painting the map asks nobody, and nobody's absence is reported.  On trees that
were read, the search for script overlays and the painter agree.
-/
theorem generate_unscripted {request : GenerationRequest}
    (isLandscape : request.kind = .landscape) (unscripted : request.IsUnscripted) :
    (Exists fun result => ∀ other, request.PaintsAlike other ->
      ∀ {language : Language} (generator : Generator language)
        {m : Type -> Type} [Monad m] [LawfulMonad m]
        (openArchive : String -> m (Except Fault Archive)),
        generator.generate openArchive other =
          pure (result,
            { generator with
              session :=
                { generator.session with
                  players := other.players
                  teams := other.teams
                  journal := other.unscriptedJournal generator.session.journal } })) ∧
    (∀ map, request.map? = .ok map -> map.AsksNobody) ∧
    ∀ source document, Landscape.Document.ofText source = .ok document ->
      ∀ map ∈ document.maps, ∀ (resolver : Resolver) (area : Landscape.Area) (x y : Int),
        map.asksScript =
          (Landscape.Layer.ofNode resolver area map).inside.any (Landscape.Layer.asks x y) := by
  -- The outcome is one of the request alone, so it is chosen before any generator is known.
  refine ⟨⟨.ofOutcome request.unscriptedOutcome, ?_⟩, ?_, ?_⟩
  · intro other alike language generator m _ _ openArchive
    have carried := Generation.byLandscape_unscripted openArchive (alike.isUnscripted unscripted)
      (generator.session.withCounts other)
    have kind : other.kind = .landscape := alike.kind.trans isLandscape
    simp only [generate, kind, carried, pure_bind, alike.unscriptedOutcome_eq]
    rfl
  · intro map first
    exact Landscape.asksNobody_of_askNothing (unscripted.map_of first).2
  · intro source document read map member resolver area x y
    exact Landscape.asksScript_eq_asks read member resolver area x y

/-- A description whose first map has pattern `script` itself, before a map with such an overlay. -/
def scriptElsewhere : GenerationRequest where
  kind := .landscape
  fileName := "Landscape.txt"
  scriptPath? := some "Script.c"
  source :=
    "map \x7b algo=script; overlay \x7b mat=Earth hgt=50 \x7d \x7d " ++
      "map \x7b layer \x7b algo=script \x7d \x7d"
  textures := { entries := [⟨7, "Earth", "earth"⟩] }
  width := 1
  height := 2

theorem scriptElsewhere_unscripted : scriptElsewhere.IsUnscripted := by
  have evaluated : (Landscape.Document.ofText scriptElsewhere.source).toOption.any
      (fun document => document.rootMap?.any fun map =>
        map.preorder.all fun node => !node.isScriptOverlay) = true := by
    decide +kernel
  cases read : Landscape.Document.ofText scriptElsewhere.source with
  | error offence =>
      rw [read] at evaluated
      cases evaluated
  | ok document =>
      rw [read] at evaluated
      rcases document with ⟨_ | ⟨map, others⟩⟩
      · cases evaluated
      · refine .unasking read rfl fun node inside kind pattern => ?_
        have isNone := List.all_eq_true.mp evaluated node inside
        simp [Landscape.Node.isScriptOverlay, kind, pattern] at isNone

/-- The map is painted although the archive cannot be opened, for any number of players. -/
theorem generate_unscripted_elsewhere :
    scriptElsewhere.kind = .landscape ∧ scriptElsewhere.IsUnscripted ∧
    Exists fun result => result.foreground?.map Raster.cells = some #[7, 0] ∧
      ∀ players : Nat, Exists fun after =>
        (withLibrary : Generator interpreter).generate (m := Id) (fun _ => .error default)
          { scriptElsewhere with players := players, scriptPath? := none } =
            pure (result, after) := by
  have evaluated : (Id.run ((withLibrary : Generator interpreter).generate (m := Id)
      (fun _ => .error default) scriptElsewhere)).1.foreground?.map Raster.cells =
        some #[7, 0] := by
    decide +kernel
  refine ⟨rfl, scriptElsewhere_unscripted, ?_⟩
  rcases (generate_unscripted rfl scriptElsewhere_unscripted).1 with ⟨result, same⟩
  have alike (players : Nat) : scriptElsewhere.PaintsAlike
      { scriptElsewhere with players := players, scriptPath? := none } :=
    ⟨rfl, rfl, rfl, rfl, rfl, rfl, rfl⟩
  refine ⟨result, ?_, fun players => ⟨_, same _ (alike players) _ _⟩⟩
  rw [same _ ⟨rfl, rfl, rfl, rfl, rfl, rfl, rfl⟩] at evaluated
  exact evaluated

end Generator

end Landform
