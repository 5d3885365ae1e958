import Landform.Proofs.Grammar
import Landform.Proofs.Layout

namespace Landform
namespace Landscape

/-!
# Descriptions written down

A description is written by its grammar: of every block the keyword, the name if it has one, and
in braces its attributes, each as a key, an equals sign, a value and a semicolon, and behind
them the blocks inside.  More semicolons may stand between the items of a block and between
maps, the attributes of a block may come in any order, and an overlay may be called a layer.

Not every tree can be written.  Its maps have to stand outside and its overlays inside, not
deeper than the reader follows; its names and texts have to be words, and its numbers to be of
32 bits.  `ofText_of_written` says that what can be written is read again, whatever gaps the
tokens are laid out with.  Only the places differ: they are those of the text.
-/

/-! ## Values as text -/

namespace Setting

/-- The value of a setting as it is written. -/
def text : Setting -> String
  | ⟨.algo, pattern⟩ => Pattern.name pattern
  | ⟨.mat, text⟩ | ⟨.tex, text⟩ | ⟨.back, text⟩ => text
  | ⟨.x, n⟩ | ⟨.y, n⟩ | ⟨.wdt, n⟩ | ⟨.hgt, n⟩ | ⟨.zoomX, n⟩ | ⟨.zoomY, n⟩ | ⟨.a, n⟩ | ⟨.b, n⟩
  | ⟨.seed, n⟩ => Int.repr n
  | ⟨.invert, flag⟩ | ⟨.mask, flag⟩ => cond flag "1" "0"

end Setting

instance (text : String) : Decidable (IsWord text) :=
  @instDecidableAnd _ _ inferInstance
    (List.decidableBAll (fun c => isWordChar c = true) text.toList)

theorem isWordChar_of_isDigit {c : Char} (digit : c.isDigit = true) : isWordChar c = true := by
  have ascii : c.toNat < 0x80 := by
    have bound : c.toNat ≤ 57 := (Bool.and_eq_true_iff.mp digit).2 |> of_decide_eq_true
    omega
  have alphanumeric : Text.isAlphanumeric c = true := by
    rw [Text.isAlphanumeric_of_ascii c ascii, Char.isAlphanum, digit, Bool.or_true]
  rw [isWordChar, alphanumeric]
  rfl

/-- A number is written as a sign or none and digits. -/
theorem repr_signed (n : Int) :
    Exists fun sign : Sign => Exists fun magnitude : Nat =>
      n.repr.toList = sign.chars ++ Nat.toDigits 10 magnitude ∧ n = sign.apply magnitude := by
  cases n with
  | ofNat magnitude => exact ⟨.unsigned, magnitude, String.toList_ofList, rfl⟩
  | negSucc magnitude =>
      refine ⟨.minus, magnitude + 1, ?_, Int.negSucc_eq magnitude⟩
      rw [Int.repr, String.toList_append]
      exact congrArg (_ ++ ·) String.toList_ofList

theorem isNumber_repr {n : Int} (inside : Number.int32.contains n = true) :
    IsNumber n.repr n := by
  rcases repr_signed n with ⟨sign, magnitude, shown, value⟩
  refine ⟨sign, Nat.toDigits 10 magnitude, 0, ?_, ?_, ?_, ?_, inside⟩
  · rw [shown, List.replicate_zero, List.append_nil]
  · exact Nat.toDigits_ne_nil
  · intro digit member
    exact Nat.isDigit_of_mem_toDigits (by decide) (by decide) member
  · rw [Nat.ofDigitChars_toDigits (by decide) (by decide)]
    exact value

theorem isWord_repr (n : Int) : IsWord n.repr := by
  rcases repr_signed n with ⟨sign, magnitude, shown, _⟩
  have signs : sign.chars.all isWordChar = true := by
    cases sign <;> decide +kernel
  rw [IsWord, shown]
  constructor
  · exact List.append_ne_nil_of_right_ne_nil _ Nat.toDigits_ne_nil
  · intro c member
    rcases List.mem_append.mp member with inSign | inDigits
    · exact List.all_eq_true.mp signs c inSign
    · exact isWordChar_of_isDigit (Nat.isDigit_of_mem_toDigits (by decide) (by decide) inDigits)

theorem isFlag_text (flag : Bool) : IsFlag (cond flag "1" "0") flag := by
  cases flag
  · exact Or.inl (Text.sameName_refl _)
  · exact Or.inl (Text.sameName_refl _)

/-! ## Attributes as settings -/

namespace Attributes

/-- The value of a key that attributes have, if they have one. -/
def value? (attributes : Attributes) : (key : Key) -> Option key.Value
  | .algo => some attributes.pattern
  | .mat => attributes.material
  | .tex => attributes.texture
  | .back => attributes.back
  | .x => some attributes.x
  | .y => some attributes.y
  | .wdt => some attributes.width
  | .hgt => some attributes.height
  | .zoomX => some attributes.zoomX
  | .zoomY => some attributes.zoomY
  | .a => some attributes.a
  | .b => some attributes.b
  | .seed => some attributes.seed.toInt32.toInt
  | .invert => some attributes.invert
  | .mask => some attributes.mask

/-- The settings that say what attributes say, in the order of the keys. -/
def settings (attributes : Attributes) : List Setting :=
  Key.all.filterMap fun key => (attributes.value? key).map (Setting.mk key)

/-- Attributes that can be written: the texts are words, and the numbers have 32 bits. -/
def IsWritable (attributes : Attributes) : Prop :=
  (∀ text ∈ attributes.material, IsWord text) ∧ (∀ text ∈ attributes.texture, IsWord text) ∧
  (∀ text ∈ attributes.back, IsWord text) ∧
  ∀ n ∈ [attributes.x, attributes.y, attributes.width, attributes.height, attributes.zoomX,
    attributes.zoomY, attributes.a, attributes.b], Number.int32.contains n = true

instance (attributes : Attributes) : Decidable attributes.IsWritable :=
  inferInstanceAs (Decidable (_ ∧ _ ∧ _ ∧ _))

theorem value_of_mem {attributes : Attributes} {setting : Setting}
    (member : setting ∈ attributes.settings) :
    attributes.value? setting.key = some setting.value := by
  rcases List.mem_filterMap.mp member with ⟨key, _, given⟩
  rcases Option.map_eq_some_iff.mp given with ⟨value, has, rfl⟩
  exact has

theorem contains_seed (seed : UInt32) : Number.int32.contains seed.toInt32.toInt = true := by
  have low := seed.toInt32.le_toInt
  have high := seed.toInt32.toInt_lt
  rw [Number.Span.contains_iff]
  simp only [Number.int32]
  omega

/-- What is written for an attribute makes the setting, and is a word. -/
theorem isWritten_of_mem {attributes : Attributes} (writable : attributes.IsWritable)
    {setting : Setting} (member : setting ∈ attributes.settings) :
    setting.IsWritten setting.key.name setting.text ∧ IsWord setting.text := by
  have has := value_of_mem member
  rcases writable with ⟨material, texture, back, numbers⟩
  simp only [List.forall_mem_cons] at numbers
  rcases numbers with ⟨x, y, width, height, zoomX, zoomY, a, b, _⟩
  rcases setting with ⟨key, value⟩
  have number {n : Int} (inside : Number.int32.contains n = true) :
      (Text.sameName key.name key.name = true ∧ IsNumber n.repr n) ∧ IsWord n.repr :=
    ⟨⟨Text.sameName_refl _, isNumber_repr inside⟩, isWord_repr n⟩
  cases key with
  | algo =>
      refine ⟨⟨Text.sameName_refl _, Text.sameName_refl _⟩, ?_⟩
      cases value <;> decide +kernel
  | mat => exact ⟨⟨Text.sameName_refl _, rfl⟩, material value has⟩
  | tex => exact ⟨⟨Text.sameName_refl _, rfl⟩, texture value has⟩
  | back => exact ⟨⟨Text.sameName_refl _, rfl⟩, back value has⟩
  | invert | mask =>
      refine ⟨⟨Text.sameName_refl _, isFlag_text value⟩, ?_⟩
      cases value <;> decide +kernel
  | seed =>
      cases has
      exact number (contains_seed _)
  | _ =>
      cases has
      apply number
      assumption

theorem values_settings (attributes : Attributes) (key : Key) :
    attributes.settings.filterMap (Setting.valueOf? key) = (attributes.value? key).toList := by
  rcases attributes with ⟨_, _ | _, _ | _, _ | _⟩ <;> cases key <;> rfl

theorem lastValue_of_perm {attributes : Attributes} {settings : List Setting}
    (each : settings.Perm attributes.settings) (key : Key) :
    lastValue settings key = attributes.value? key := by
  have values := each.filterMap (Setting.valueOf? key)
  rw [values_settings] at values
  cases has : attributes.value? key with
  | none =>
      rw [has] at values
      rw [lastValue, List.Perm.eq_nil values]
      rfl
  | some value =>
      rw [has] at values
      rw [lastValue, List.perm_singleton.mp values]
      rfl

/-- In whatever order the settings come, they come to the attributes. -/
theorem ofSettings_of_perm {attributes : Attributes} {settings : List Setting}
    (each : settings.Perm attributes.settings) : ofSettings settings = attributes := by
  have seed : seedOf attributes.seed.toInt32.toInt = attributes.seed := by
    rw [seedOf, Int32.ofInt_toInt, UInt32.toUInt32_toInt32]
  calc ofSettings settings
    _ = { attributes with seed := seedOf attributes.seed.toInt32.toInt } := by
      simp only [ofSettings, lastValue_of_perm each]
      rfl
    _ = attributes := by rw [seed]

end Attributes

/-! ## Trees that can be written -/

mutual

/-- A tree that can be written inside of a number of blocks. -/
def Node.IsWritable (depth : Nat) : Node -> Prop
  | .mk header attributes children =>
      depth ≤ deepestOverlay ∧ header.kind = (if depth = 0 then .map else .overlay) ∧
        (∀ name ∈ header.name, IsWord name) ∧ attributes.IsWritable ∧
        Node.AreWritable (depth + 1) children

def Node.AreWritable (depth : Nat) : List Node -> Prop
  | [] => True
  | node :: rest => node.IsWritable depth ∧ Node.AreWritable depth rest

end

/-- A description that can be written: its trees are maps, and below them are overlays. -/
def Document.IsWritable (document : Document) : Prop :=
  Node.AreWritable 0 document.maps

mutual

/-- A tree of which nothing tells where its blocks stand. -/
def Node.withoutPlaces : Node -> Node
  | .mk header attributes children =>
      .mk { header with place := textStart } attributes (Node.allWithoutPlaces children)

def Node.allWithoutPlaces : List Node -> List Node
  | [] => []
  | node :: rest => node.withoutPlaces :: Node.allWithoutPlaces rest

end

def Document.withoutPlaces (document : Document) : Document :=
  ⟨Node.allWithoutPlaces document.maps⟩

/-! ## Trees as tokens -/

/-- The words that a block may begin with. -/
def NodeKind.keywords : NodeKind -> List String
  | .map => ["map"]
  | .overlay => ["overlay", "layer"]

/-- A name as it is written. -/
def nameKinds (name : Option String) : List TokenKind :=
  (name.map TokenKind.word).toList

/-- Settings as they are written, with semicolons between them. -/
inductive SpellsSettings : List Setting -> List TokenKind -> Prop where
  | nothing : SpellsSettings [] []
  | semicolon {settings : List Setting} {kinds : List TokenKind}
      (spelled : SpellsSettings settings kinds) :
      SpellsSettings settings (.semicolon :: kinds)
  | setting {settings : List Setting} {kinds : List TokenKind} (setting : Setting)
      (spelled : SpellsSettings settings kinds) :
      SpellsSettings (setting :: settings)
        (.word setting.key.name :: .equals :: .word setting.text :: .semicolon :: kinds)

mutual

/-- A tree as it is written. -/
inductive SpellsNode : Node -> List TokenKind -> Prop where
  | braced {header : NodeHeader} {attributes : Attributes} {children : List Node}
      {settings : List Setting} {front back : List TokenKind} (keyword : String)
      (known : keyword ∈ header.kind.keywords) (each : settings.Perm attributes.settings)
      (spelledSettings : SpellsSettings settings front)
      (spelledChildren : SpellsNodes children back) :
      SpellsNode (.mk header attributes children)
        (.word keyword :: nameKinds header.name ++ .openBrace :: front ++ back ++ [.closeBrace])

/-- Trees as they are written, with semicolons between them. -/
inductive SpellsNodes : List Node -> List TokenKind -> Prop where
  | nothing : SpellsNodes [] []
  | semicolon {nodes : List Node} {kinds : List TokenKind} (spelled : SpellsNodes nodes kinds) :
      SpellsNodes nodes (.semicolon :: kinds)
  | node {node : Node} {rest : List Node} {front back : List TokenKind}
      (first : SpellsNode node front) (spelled : SpellsNodes rest back) :
      SpellsNodes (node :: rest) (front ++ back)

end

/-- A text that shows a description: its tokens, laid out with gaps. -/
def Document.IsWritten (document : Document) (text : String) : Prop :=
  Exists fun kinds => SpellsNodes document.maps kinds ∧ Laid false kinds text.toList

/-! ## What is written is derived -/

theorem first_of_kinds {tokens : List Token} {kind : TokenKind} {kinds : List TokenKind}
    (shown : tokens.map Token.kind = kind :: kinds) :
    Exists fun place => Exists fun rest =>
      tokens = ⟨kind, place⟩ :: rest ∧ rest.map Token.kind = kinds := by
  rcases List.map_eq_cons_iff.mp shown with ⟨⟨_, place⟩, rest, split, rfl, shownRest⟩
  exact ⟨place, rest, split, shownRest⟩

theorem isName_of_kinds {name : Option String} {tokens : List Token}
    (shown : tokens.map Token.kind = nameKinds name) : IsName tokens name := by
  cases name with
  | none =>
      rw [List.map_eq_nil_iff.mp shown]
      exact .missing
  | some name =>
      rcases first_of_kinds shown with ⟨place, rest, rfl, none⟩
      rw [List.map_eq_nil_iff.mp none]
      exact .word name place

/-- No key is taken for the beginning of a block. -/
theorem key_free (key : Key) (depth : Nat) (kind : NodeKind) :
    ¬ IsKeyword (depth + 1) key.name kind := by
  have notKeyword : key.name ≠ "overlay" ∧ key.name ≠ "layer" := by
    cases key <;> decide
  generalize key.name = word at notKeyword
  intro keyword
  cases keyword with
  | overlay => exact notKeyword.1 rfl
  | layer => exact notKeyword.2 rfl

theorem isKeyword_of_mem {depth : Nat} {kind : NodeKind}
    (fitting : kind = if depth = 0 then .map else .overlay) {word : String}
    (known : word ∈ kind.keywords) : IsKeyword depth word kind := by
  rcases depth with _ | depth
  · rw [if_pos rfl] at fitting
    subst fitting
    rw [List.mem_singleton.mp known]
    exact .map
  · rw [if_neg (Nat.succ_ne_zero depth)] at fitting
    subst fitting
    rcases List.mem_cons.mp known with rfl | layer
    · exact .overlay depth
    · rw [List.mem_singleton.mp layer]
      exact .layer depth

theorem isItems_of_settings {settings : List Setting} {kinds : List TokenKind}
    (spelled : SpellsSettings settings kinds)
    (written : ∀ setting ∈ settings, setting.IsWritten setting.key.name setting.text)
    {tokens : List Token} (shown : tokens.map Token.kind = kinds) {depth : Nat}
    {before : List Token} {earlier : List Setting} {nodes : List Node}
    (items : IsItems (depth + 1) before earlier nodes) :
    IsItems (depth + 1) (before ++ tokens) (earlier ++ settings) nodes := by
  induction spelled generalizing tokens before earlier with
  | nothing =>
      rw [List.map_eq_nil_iff.mp shown, List.append_nil, List.append_nil]
      exact items
  | semicolon _ inductionHypothesis =>
      rcases first_of_kinds shown with ⟨place, rest, rfl, shownRest⟩
      rw [List.append_cons]
      exact inductionHypothesis written shownRest (items.semicolon place)
  | @setting others _ setting _ inductionHypothesis =>
      rcases first_of_kinds shown with ⟨key, _, rfl, shownEquals⟩
      rcases first_of_kinds shownEquals with ⟨equals, _, rfl, shownValue⟩
      rcases first_of_kinds shownValue with ⟨value, _, rfl, shownSemicolon⟩
      rcases first_of_kinds shownSemicolon with ⟨semicolon, rest, rfl, shownRest⟩
      rw [List.forall_mem_cons] at written
      have longer := (items.setting key equals value (key_free setting.key depth)
        written.1).semicolon semicolon
      have all := inductionHypothesis written.2 shownRest longer
      simpa only [List.append_assoc, List.cons_append, List.nil_append] using all

mutual

/-- A tree that is written is derived, but for its places. -/
theorem isBlock_of_node : ∀ {node : Node} {kinds : List TokenKind}, SpellsNode node kinds ->
    ∀ {depth : Nat}, node.IsWritable depth -> ∀ {tokens : List Token},
      tokens.map Token.kind = kinds ->
      Exists fun read => IsBlock depth tokens read ∧ read.withoutPlaces = node.withoutPlaces
  | .mk header attributes children, _, .braced keyword known each spelledSettings spelledChildren,
      depth, writable, tokens, shown => by
      rcases writable with ⟨shallow, fitting, _, attributesWritable, below⟩
      rcases List.map_eq_append_iff.mp shown with ⟨most, last, rfl, shownMost, shownLast⟩
      rcases List.map_eq_append_iff.mp shownMost with ⟨head, inner, rfl, shownHead, shownBack⟩
      rcases List.map_eq_append_iff.mp shownHead with ⟨start, front, rfl, shownStart, shownFront⟩
      rcases first_of_kinds shownStart with ⟨place, named, rfl, shownName⟩
      rcases first_of_kinds shownFront with ⟨opening, outer, rfl, shownSettings⟩
      rcases first_of_kinds shownLast with ⟨closing, nothing, rfl, none⟩
      rw [List.map_eq_nil_iff.mp none]
      have settingsDerived := isItems_of_settings spelledSettings
        (fun setting member => (Attributes.isWritten_of_mem attributesWritable
          (each.mem_iff.mp member)).1) shownSettings (@IsItems.nothing (depth + 1))
      rcases isItems_of_nodes spelledChildren below shownBack settingsDerived with
        ⟨read, derived, same⟩
      refine ⟨.mk ⟨header.kind, header.name, place⟩ attributes read, ?_, ?_⟩
      · have block := IsBlock.braced place opening closing (isKeyword_of_mem fitting known) shallow
          (isName_of_kinds shownName) derived
        rw [List.nil_append, List.nil_append, List.nil_append,
          Attributes.ofSettings_of_perm each] at block
        simpa only [List.append_assoc, List.cons_append] using block
      · rw [Node.withoutPlaces, same, Node.withoutPlaces]

theorem isItems_of_nodes : ∀ {nodes : List Node} {kinds : List TokenKind},
    SpellsNodes nodes kinds -> ∀ {depth : Nat}, Node.AreWritable depth nodes ->
      ∀ {tokens : List Token}, tokens.map Token.kind = kinds ->
      ∀ {before : List Token} {settings : List Setting} {earlier : List Node},
      IsItems depth before settings earlier ->
      Exists fun read => IsItems depth (before ++ tokens) settings (earlier ++ read) ∧
        Node.allWithoutPlaces read = Node.allWithoutPlaces nodes
  | _, _, .nothing, _, _, _, shown, _, _, _, items => by
      refine ⟨[], ?_, rfl⟩
      rw [List.map_eq_nil_iff.mp shown, List.append_nil, List.append_nil]
      exact items
  | _, _, .semicolon spelled, _, writable, _, shown, _, _, _, items => by
      rcases first_of_kinds shown with ⟨place, rest, rfl, shownRest⟩
      rw [List.append_cons]
      exact isItems_of_nodes spelled writable shownRest (items.semicolon place)
  | _, _, .node first spelled, _, writable, _, shown, _, _, _, items => by
      rcases List.map_eq_append_iff.mp shown with ⟨front, back, rfl, shownFirst, shownRest⟩
      rcases isBlock_of_node first writable.1 shownFirst with ⟨node, derived, same⟩
      rcases isItems_of_nodes spelled writable.2 shownRest (items.block derived) with
        ⟨read, all, sameRest⟩
      refine ⟨node :: read, ?_, ?_⟩
      · rw [← List.append_assoc, List.append_cons]
        exact all
      · rw [Node.allWithoutPlaces, same, sameRest, Node.allWithoutPlaces]

end

/-! ## What is written consists of tokens -/

theorem sound_of_settings {settings : List Setting} {kinds : List TokenKind}
    (spelled : SpellsSettings settings kinds)
    (words : ∀ setting ∈ settings, IsWord setting.text) :
    ∀ kind ∈ kinds, kind.IsSound := by
  induction spelled with
  | nothing =>
      intro kind member
      cases member
  | semicolon _ inductionHypothesis =>
      rw [List.forall_mem_cons]
      exact ⟨trivial, inductionHypothesis words⟩
  | setting setting _ inductionHypothesis =>
      have key : IsWord setting.key.name := by
        generalize setting.key = key
        cases key <;> decide +kernel
      rw [List.forall_mem_cons] at words
      simp only [List.forall_mem_cons]
      exact ⟨key, trivial, words.1, trivial, inductionHypothesis words.2⟩

theorem keyword_isWord {kind : NodeKind} {word : String} (known : word ∈ kind.keywords) :
    IsWord word := by
  have all : ∀ word ∈ NodeKind.keywords .map ++ NodeKind.keywords .overlay, IsWord word := by
    decide +kernel
  apply all word
  cases kind with
  | map => exact List.mem_append_left _ known
  | overlay => exact List.mem_append_right _ known

mutual

/-- All words in a tree that is written are words. -/
theorem sound_of_node : ∀ {node : Node} {kinds : List TokenKind}, SpellsNode node kinds ->
    ∀ {depth : Nat}, node.IsWritable depth -> ∀ kind ∈ kinds, kind.IsSound
  | .mk header attributes children, _, .braced keyword known each spelledSettings spelledChildren,
      depth, writable => by
      rcases writable with ⟨_, _, named, attributesWritable, below⟩
      have settingsSound := sound_of_settings spelledSettings
        (fun setting member => (Attributes.isWritten_of_mem attributesWritable
          (each.mem_iff.mp member)).2)
      have childrenSound := sound_of_nodes spelledChildren below
      have nameSound : ∀ kind ∈ nameKinds header.name, kind.IsSound := by
        intro kind member
        rcases Option.map_eq_some_iff.mp (Option.mem_toList.mp member) with ⟨name, has, rfl⟩
        exact named name has
      simp only [List.forall_mem_append, List.forall_mem_cons]
      exact ⟨⟨⟨⟨keyword_isWord known, nameSound⟩, trivial, settingsSound⟩, childrenSound⟩,
        trivial, fun _ member => nomatch member⟩

theorem sound_of_nodes : ∀ {nodes : List Node} {kinds : List TokenKind},
    SpellsNodes nodes kinds -> ∀ {depth : Nat}, Node.AreWritable depth nodes ->
      ∀ kind ∈ kinds, kind.IsSound
  | _, _, .nothing, _, _, _, member => nomatch member
  | _, _, .semicolon spelled, _, writable, kind, member => by
      rcases List.mem_cons.mp member with rfl | later
      · exact trivial
      · exact sound_of_nodes spelled writable kind later
  | _, _, .node first spelled, _, writable, kind, member => by
      rcases List.mem_append.mp member with inFirst | later
      · exact sound_of_node first writable.1 kind inFirst
      · exact sound_of_nodes spelled writable.2 kind later

end

/--
A description that can be written is read from every text that shows it, whatever the order of
its attributes, the gaps between its tokens and the semicolons between its items, except that
the places are those of the text.
-/
theorem ofText_of_written {document : Document} (writable : document.IsWritable) {text : String}
    (written : document.IsWritten text) :
    Exists fun read => Document.ofText text = .ok read ∧
      read.withoutPlaces = document.withoutPlaces := by
  rcases written with ⟨kinds, spelled, laid⟩
  rcases scan_laid [] laid (sound_of_nodes spelled writable) textStart with
    ⟨tokens, stop, scanned, shown⟩
  rcases isItems_of_nodes spelled writable shown (@IsItems.nothing 0) with ⟨maps, derived, same⟩
  refine ⟨⟨maps⟩, ?_, congrArg Document.mk same⟩
  have consists : tokenize text = .ok ⟨tokens, stop⟩ := scanned
  rw [Document.ofText, consists]
  exact (Document.ofTokens_eq_ok_iff ⟨tokens, stop⟩ ⟨maps⟩).mpr derived

/-! ## A text of every description -/

/-- A setting as tokens. -/
def Setting.kinds (setting : Setting) : List TokenKind :=
  [.word setting.key.name, .equals, .word setting.text, .semicolon]

/-- The usual word that a block begins with. -/
def NodeKind.keyword : NodeKind -> String
  | .map => "map"
  | .overlay => "overlay"

mutual

/-- A tree as tokens, with no more semicolons than there have to be. -/
def Node.kinds : Node -> List TokenKind
  | .mk header attributes children =>
      .word header.kind.keyword :: nameKinds header.name ++
        .openBrace :: attributes.settings.flatMap Setting.kinds ++ Node.allKinds children ++
        [.closeBrace]

def Node.allKinds : List Node -> List TokenKind
  | [] => []
  | node :: rest => node.kinds ++ Node.allKinds rest

end

/-- A description as text, with one gap in front of every token. -/
def Document.text (document : Document) (gap : String) : String :=
  String.ofList ((Node.allKinds document.maps).flatMap fun kind => gap.toList ++ kind.chars)

theorem spells_settings (settings : List Setting) :
    SpellsSettings settings (settings.flatMap Setting.kinds) := by
  induction settings with
  | nil => exact .nothing
  | cons setting rest inductionHypothesis => exact .setting setting inductionHypothesis

mutual

theorem spells_node : ∀ node : Node, SpellsNode node node.kinds
  | .mk header attributes children => by
      have known : header.kind.keyword ∈ header.kind.keywords := by
        cases header.kind <;> decide
      exact .braced _ known (List.Perm.refl _) (spells_settings attributes.settings)
        (spells_nodes children)

theorem spells_nodes : ∀ nodes : List Node, SpellsNodes nodes (Node.allKinds nodes)
  | [] => .nothing
  | node :: rest => .node (spells_node node) (spells_nodes rest)

end

theorem laid_flatMap {gap : List Char} (isGap : IsGap gap) (nonempty : gap ≠ [])
    (kinds : List TokenKind) (afterWord : Bool) :
    Laid afterWord kinds (kinds.flatMap fun kind => gap ++ kind.chars) := by
  induction kinds generalizing afterWord with
  | nil => exact .ending (.gap .nothing)
  | cons kind rest inductionHypothesis =>
      exact .token isGap (fun _ _ => nonempty) (inductionHypothesis kind.isWord)

/-- Every description is shown by some text. -/
theorem isWritten_text (document : Document) {gap : String} (isGap : IsGap gap.toList)
    (nonempty : gap.toList ≠ []) : document.IsWritten (document.text gap) := by
  refine ⟨_, spells_nodes document.maps, ?_⟩
  rw [Document.text, String.toList_ofList]
  exact laid_flatMap isGap nonempty _ false

/-- A map and an overlay named like keywords, with numbers as far out as they go. -/
def farOut : Document where
  maps := [.mk ⟨.map, some "map", ⟨7, 7⟩⟩ { material := some "Earth", x := -2147483648 }
    [.mk ⟨.overlay, some "overlay", ⟨8, 8⟩⟩
      { pattern := .bozo, b := 2147483647, seed := 4294967295, mask := true } []]]

/-- With a comment in front of every token it is read again. -/
theorem ofText_of_written_farOut :
    farOut.IsWritable ∧ farOut.IsWritten (farOut.text "/*;*/") ∧
      Exists fun read => Document.ofText (farOut.text "/*;*/") = .ok read ∧
        read.withoutPlaces = farOut.withoutPlaces := by
  have writable : farOut.IsWritable := by
    simp only [Document.IsWritable, farOut, Node.AreWritable, Node.IsWritable]
    decide +kernel
  have comment : IsGap "/*;*/".toList := @IsGap.block [';'] [] (by decide) .nothing
  have written := isWritten_text farOut comment (by decide)
  exact ⟨writable, written, ofText_of_written writable written⟩

end Landscape
end Landform
