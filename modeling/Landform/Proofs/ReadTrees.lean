import Landform.Landscape.Reader

namespace Landform
namespace Landscape

/-!
# The trees that are read

A description has its blocks in a strict order: maps stand outside of everything, and inside
of a block there are overlays only.  The types do not say so, since a block of either kind may
hold any blocks.  It is the reader that never puts a map inside of anything.

The invariant is about a reading that is under way.  Its maps hold overlays only, and so does
every open block; an open block inside of another is an overlay; and a block whose keyword was
read while others are open is going to be one.
-/

/-- Blocks that are overlays and hold nothing but overlays. -/
def OverlaysOnly (nodes : List Node) : Prop :=
  ∀ node ∈ nodes, ∀ inner ∈ node.preorder, inner.header.kind = .overlay

theorem mem_preorderAll (nodes : List Node) (inner : Node) :
    inner ∈ Node.preorderAll nodes ↔ Exists fun node => node ∈ nodes ∧ inner ∈ node.preorder := by
  induction nodes with
  | nil =>
      constructor
      · intro impossible
        cases impossible
      · rintro ⟨node, impossible, rest⟩
        cases impossible
  | cons first rest inductionHypothesis =>
      rw [Node.preorderAll, List.mem_append, inductionHypothesis]
      constructor
      · rintro (here | ⟨node, member, inside⟩)
        · exact ⟨first, List.mem_cons_self, here⟩
        · exact ⟨node, List.mem_cons_of_mem first member, inside⟩
      · rintro ⟨node, member, inside⟩
        rcases List.mem_cons.mp member with same | later
        · exact Or.inl (same ▸ inside)
        · exact Or.inr ⟨node, later, inside⟩

theorem overlaysOnly_cons {first : Node} {rest : List Node}
    (here : ∀ inner ∈ first.preorder, inner.header.kind = .overlay) (later : OverlaysOnly rest) :
    OverlaysOnly (first :: rest) := by
  intro node member
  rcases List.mem_cons.mp member with same | behind
  · rw [same]
    exact here
  · exact later node behind

/-- A block that closes as an overlay is one throughout. -/
theorem close_overlay {block : OpenBlock} (kind : block.header.kind = .overlay)
    (inside : OverlaysOnly block.inside) :
    ∀ inner ∈ block.close.preorder, inner.header.kind = .overlay := by
  intro inner member
  rcases List.mem_cons.mp member with same | deeper
  · rw [same]
    exact kind
  · rcases (mem_preorderAll _ inner).mp deeper with ⟨child, held, below⟩
    exact inside child (List.mem_reverse.mp held) inner below

theorem close_children {block : OpenBlock} (inside : OverlaysOnly block.inside) :
    OverlaysOnly block.close.children :=
  fun node member => inside node (List.mem_reverse.mp member)

/-- Open blocks that hold overlays only, each inside of the next. -/
def StackSound : List OpenBlock -> Prop
  | [] => True
  | block :: outer =>
      OverlaysOnly block.inside ∧ (outer ≠ [] -> block.header.kind = .overlay) ∧
        StackSound outer

/-- A kind of block that may be opened inside of some open blocks. -/
def MayOpen (stack : List OpenBlock) (kind : NodeKind) : Prop :=
  stack ≠ [] -> kind = .overlay

/-- What was begun may be opened where it stands. -/
def BegunSound (stack : List OpenBlock) : Begun -> Prop
  | .block kind _ => MayOpen stack kind
  | .named header => MayOpen stack header.kind
  | _ => True

/-- A reading in which blocks hold overlays only. -/
structure Reading.Sound (reading : Reading) : Prop where
  maps : ∀ map ∈ reading.maps, OverlaysOnly map.children
  stack : StackSound reading.stack
  begun : BegunSound reading.stack reading.begun

namespace Reading

theorem sound_empty : Reading.Sound {} where
  maps := fun _ impossible => nomatch impossible
  stack := trivial
  begun := trivial

theorem start_sound {reading next : Reading} (sound : reading.Sound) {kind : NodeKind}
    {place : Place} (mayOpen : MayOpen reading.stack kind)
    (started : reading.start kind place = .ok next) : next.Sound := by
  unfold start at started
  split at started
  · cases started
  · cases started
    exact ⟨sound.maps, sound.stack, mayOpen⟩

theorem openBlock_sound {reading : Reading} (sound : reading.Sound) {header : NodeHeader}
    (mayOpen : MayOpen reading.stack header.kind) : (reading.openBlock header).Sound where
  maps := sound.maps
  stack := ⟨fun _ impossible => (nomatch impossible), mayOpen, sound.stack⟩
  begun := trivial

theorem closeBlock_sound {reading : Reading} (sound : reading.Sound) {block : OpenBlock}
    {outer : List OpenBlock} (opened : reading.stack = block :: outer)
    (idle : reading.begun = .nothing) : (reading.closeBlock block outer).Sound := by
  have stack := sound.stack
  rw [opened] at stack
  rcases stack with ⟨inside, kind, outerSound⟩
  cases outer with
  | nil =>
      refine ⟨?_, trivial, by simp only [closeBlock, idle, BegunSound]⟩
      intro map member
      rcases List.mem_cons.mp member with same | earlier
      · rw [same]
        exact close_children inside
      · exact sound.maps map earlier
  | cons next more =>
      rcases outerSound with ⟨nextInside, nextKind, moreSound⟩
      have overlay := close_overlay (kind (List.cons_ne_nil next more)) inside
      refine ⟨sound.maps, ?_, by simp only [closeBlock, idle, BegunSound]⟩
      exact ⟨overlaysOnly_cons overlay nextInside, nextKind, moreSound⟩

theorem applySetting_sound {reading next : Reading} (sound : reading.Sound) {key : SettingKey}
    {value : String} {place : Place} (applied : reading.applySetting key value place = .ok next) :
    next.Sound := by
  unfold applySetting at applied
  cases opened : reading.stack with
  | nil =>
      have stack : StackSound reading.stack := sound.stack
      simp only [opened] at applied stack
      cases applied
      exact ⟨sound.maps, stack, trivial⟩
  | cons block outer =>
      have stack : StackSound reading.stack := sound.stack
      simp only [opened] at applied stack
      cases set : block.attributes.apply key value place with
      | error offence =>
          simp only [set, Except.map] at applied
          cases applied
      | ok attributes =>
          simp only [set, Except.map] at applied
          cases applied
          exact ⟨sound.maps, stack, trivial⟩

theorem takeOutside_sound {reading next : Reading} (sound : reading.Sound) {token : Token}
    (outside : reading.stack = []) (taken : reading.takeOutside token = .ok next) :
    next.Sound := by
  unfold takeOutside at taken
  split at taken
  · cases taken
    exact sound
  · exact start_sound sound (fun inside => absurd outside inside) taken
  · cases taken

theorem takeInside_sound {reading next : Reading} (sound : reading.Sound) {block : OpenBlock}
    {outer : List OpenBlock} {token : Token} (opened : reading.stack = block :: outer)
    (idle : reading.begun = .nothing) (taken : reading.takeInside block outer token = .ok next) :
    next.Sound := by
  unfold takeInside at taken
  split at taken
  · cases taken
    exact sound
  · cases taken
    exact closeBlock_sound sound opened idle
  · exact start_sound sound (fun _ => rfl) taken
  · exact start_sound sound (fun _ => rfl) taken
  · cases taken
    exact ⟨sound.maps, sound.stack, trivial⟩
  · cases taken

/-- No token makes a block hold anything but overlays. -/
theorem take_sound {reading next : Reading} (sound : reading.Sound) {token : Token}
    (taken : reading.take token = .ok next) : next.Sound := by
  have begun := sound.begun
  unfold take at taken
  cases phase : reading.begun with
  | nothing =>
      simp only [phase] at taken
      cases opened : reading.stack with
      | nil =>
          simp only [opened] at taken
          exact takeOutside_sound sound opened taken
      | cons block outer =>
          simp only [opened] at taken
          exact takeInside_sound sound opened phase taken
  | block kind place =>
      simp only [phase] at taken
      rw [phase] at begun
      split at taken
      · cases taken
        exact ⟨sound.maps, sound.stack, begun⟩
      · cases taken
        exact openBlock_sound sound begun
      · cases taken
  | named header =>
      simp only [phase] at taken
      rw [phase] at begun
      split at taken
      · cases taken
        exact openBlock_sound sound begun
      · cases taken
  | setting key =>
      simp only [phase] at taken
      split at taken
      · cases taken
        exact ⟨sound.maps, sound.stack, trivial⟩
      · cases taken
  | value key =>
      simp only [phase] at taken
      split at taken
      · exact applySetting_sound sound taken
      · cases taken

theorem takeAll_sound {reading last : Reading} (sound : reading.Sound) {tokens : List Token}
    (taken : reading.takeAll tokens = .ok last) : last.Sound := by
  induction tokens generalizing reading with
  | nil =>
      cases taken
      exact sound
  | cons token rest inductionHypothesis =>
      rw [takeAll] at taken
      cases step : reading.take token with
      | error offence =>
          rw [step] at taken
          cases taken
      | ok next =>
          rw [step] at taken
          exact inductionHypothesis (take_sound sound step) taken

end Reading

/-- All that is inside of a map that was read is an overlay. -/
theorem ofText_overlaysOnly {source : String} {document : Document}
    (read : Document.ofText source = .ok document) :
    ∀ map ∈ document.maps, OverlaysOnly map.children := by
  unfold Document.ofText at read
  split at read
  · rename_i list tokens
    unfold Document.ofTokens at read
    cases taken : Reading.takeAll {} list.tokens with
    | error offence =>
        simp only [taken] at read
        cases read
    | ok last =>
        have sound := Reading.takeAll_sound Reading.sound_empty taken
        simp only [taken, Reading.finish] at read
        split at read
        · split at read
          · cases read
            intro map member
            exact sound.maps map (List.mem_reverse.mp member)
          · cases read
        all_goals cases read
  · cases read

/-- Inside of a map that was read, a block asks a script if its pattern says so. -/
theorem isScriptOverlay_inside {source : String} {document : Document}
    (read : Document.ofText source = .ok document) {map : Node} (member : map ∈ document.maps)
    {inner : Node} (inside : inner ∈ Node.preorderAll map.children) :
    inner.isScriptOverlay = (inner.attributes.pattern == .script) := by
  rcases (mem_preorderAll _ inner).mp inside with ⟨child, held, below⟩
  have kind := ofText_overlaysOnly read map member child held inner below
  simp only [Node.isScriptOverlay, kind, beq_self_eq_true, Bool.true_and]

end Landscape
end Landform
