import Landform.Proofs.Settings

namespace Landform
namespace Landscape

/-!
# The grammar of descriptions

The reader takes tokens in one after another and keeps a stack of open blocks.  What it accepts
can be said without a stack, by a grammar: a description is a sequence of blocks, and a block is
a keyword, a name or none, and a sequence of settings and blocks in braces, with semicolons
anywhere between them.  The tree of a description is built along the derivation: maps and
overlays in the order they stand in, the place of every block from its keyword, and its
attributes from all of its settings together.

That the reader accepts nothing else is an invariant of its steps: what it has taken in so far
is a sequence of items, then the head of a block that is still open and items of it, and so on
for every open block, and behind all this the beginning of one more item.  `take_follows` is the
step and `takeAll_follows` the run.  That it accepts everything is an induction on derivations,
`takeAll_of_block` and `takeAll_of_items`.
-/

/-! ## Derivations -/

/-- The words that begin a block inside of a number of blocks, and what they begin. -/
inductive IsKeyword : Nat -> String -> NodeKind -> Prop where
  | map : IsKeyword 0 "map" .map
  | overlay (depth : Nat) : IsKeyword (depth + 1) "overlay" .overlay
  | layer (depth : Nat) : IsKeyword (depth + 1) "layer" .overlay

/-- The tokens of a name, which may be missing.  Any word is a name. -/
inductive IsName : List Token -> Option String -> Prop where
  | missing : IsName [] none
  | word (name : String) (place : Place) : IsName [⟨.word name, place⟩] (some name)

mutual

/-- The tokens of a block inside of a number of blocks, and its tree. -/
inductive IsBlock : Nat -> List Token -> Node -> Prop where
  | braced {depth : Nat} {word : String} {kind : NodeKind} {name : Option String}
      {front items : List Token} {settings : List Setting} {children : List Node}
      (place opening closing : Place) (keyword : IsKeyword depth word kind)
      (shallow : depth ≤ deepestOverlay) (named : IsName front name)
      (inside : IsItems (depth + 1) items settings children) :
      IsBlock depth
        (⟨.word word, place⟩ :: front ++ ⟨.openBrace, opening⟩ :: items ++
          [⟨.closeBrace, closing⟩])
        (.mk ⟨kind, name, place⟩ (Attributes.ofSettings settings) children)

/-- The tokens of what stands in a row inside of a number of blocks, and the settings and trees
among it.  Outside of all blocks there are no settings. -/
inductive IsItems : Nat -> List Token -> List Setting -> List Node -> Prop where
  | nothing {depth : Nat} : IsItems depth [] [] []
  | semicolon {depth : Nat} {tokens : List Token} {settings : List Setting}
      {nodes : List Node} (before : IsItems depth tokens settings nodes) (place : Place) :
      IsItems depth (tokens ++ [⟨.semicolon, place⟩]) settings nodes
  | block {depth : Nat} {tokens more : List Token} {settings : List Setting}
      {nodes : List Node} {node : Node} (before : IsItems depth tokens settings nodes)
      (block : IsBlock depth more node) :
      IsItems depth (tokens ++ more) settings (nodes ++ [node])
  | setting {depth : Nat} {tokens : List Token} {settings : List Setting}
      {nodes : List Node} {keyWord valueWord : String} {setting : Setting}
      (before : IsItems (depth + 1) tokens settings nodes) (key equals value : Place)
      (free : ∀ kind, ¬ IsKeyword (depth + 1) keyWord kind)
      (written : setting.IsWritten keyWord valueWord) :
      IsItems (depth + 1)
        (tokens ++ [⟨.word keyWord, key⟩, ⟨.equals, equals⟩, ⟨.word valueWord, value⟩])
        (settings ++ [setting]) nodes

end

/-- The tokens of a description, and its trees. -/
def IsDocument (tokens : List Token) (document : Document) : Prop :=
  IsItems 0 tokens [] document.maps

/-- The places of the tokens of a text, of which its end is the last. -/
def TokenList.places (list : TokenList) : List Place :=
  list.tokens.map Token.place ++ [list.stop]

/-! ## Items behind what has been read -/

namespace Reading

/-- A reading after more settings and blocks in its innermost block, or outside of all. -/
def withItems (reading : Reading) (settings : List Setting) (nodes : List Node) : Reading :=
  match reading.stack with
  | [] => { reading with maps := nodes.reverse ++ reading.maps }
  | block :: outer =>
      { reading with
        stack :=
          { block with
            attributes := settings.foldl Attributes.set block.attributes
            inside := nodes.reverse ++ block.inside } :: outer }

section

variable (reading : Reading)

theorem withItems_nil : reading.withItems [] [] = reading := by
  rcases reading with ⟨maps, _ | ⟨block, outer⟩, begun⟩ <;> rfl

theorem withItems_append (settings more : List Setting) (nodes others : List Node) :
    (reading.withItems settings nodes).withItems more others =
      reading.withItems (settings ++ more) (nodes ++ others) := by
  rcases reading with ⟨maps, _ | ⟨block, outer⟩, begun⟩ <;>
    simp only [withItems, List.reverse_append, List.append_assoc, List.foldl_append]

theorem withItems_begun (settings : List Setting) (nodes : List Node) :
    (reading.withItems settings nodes).begun = reading.begun := by
  rcases reading with ⟨maps, _ | ⟨block, outer⟩, begun⟩ <;> rfl

theorem withItems_depth (settings : List Setting) (nodes : List Node) :
    (reading.withItems settings nodes).stack.length = reading.stack.length := by
  rcases reading with ⟨maps, _ | ⟨block, outer⟩, begun⟩ <;> rfl

theorem closeBlock_eq (block : OpenBlock) (outer : List OpenBlock) :
    reading.closeBlock block outer =
      { reading with stack := outer }.withItems [] [block.close] := by
  cases outer <;> rfl

end

section

variable {reading : Reading}

/-- A word is applied as a setting if it makes one together with the key. -/
theorem applySetting_eq_ok_iff {key : SettingKey} {word : String} {place : Place}
    {next : Reading} (inside : reading.stack ≠ []) :
    reading.applySetting key word place = .ok next ↔
      Exists fun setting : Setting => setting.IsWritten key.key word ∧
        next = { reading with begun := .nothing }.withItems [setting] [] := by
  rcases reading with ⟨maps, _ | ⟨block, outer⟩, begun⟩
  · exact absurd rfl inside
  · have outcome (attributes : Attributes) :
        block.attributes.apply key word place = .ok attributes ↔
          Exists fun setting : Setting =>
            setting.IsWritten key.key word ∧ attributes = block.attributes.set setting :=
      apply_eq_ok_iff block.attributes word place
    cases applied : block.attributes.apply key word place with
    | error offence =>
        simp only [applySetting, applied]
        constructor
        · intro impossible
          cases impossible
        · rintro ⟨setting, written, _⟩
          have accepted := (outcome _).mpr ⟨setting, written, rfl⟩
          rw [applied] at accepted
          cases accepted
    | ok attributes =>
        simp only [applySetting, applied]
        constructor
        · intro same
          cases same
          rcases (outcome attributes).mp applied with ⟨setting, written, rfl⟩
          exact ⟨setting, written, rfl⟩
        · rintro ⟨setting, written, rfl⟩
          have accepted := (outcome _).mpr ⟨setting, written, rfl⟩
          rw [applied] at accepted
          cases accepted
          rfl

theorem applySetting_place {key : SettingKey} {word : String} {place : Place}
    {offence : DescriptionFault}
    (refused : reading.applySetting key word place = .error offence) :
    offence.place = key.place ∨ offence.place = place := by
  rcases reading with ⟨maps, _ | ⟨block, outer⟩, begun⟩
  · cases refused
  · apply apply_place block.attributes word place
    cases applied : block.attributes.apply key word place with
    | error cause =>
        simp only [applySetting, applied] at refused
        cases refused
        rfl
    | ok attributes =>
        simp only [applySetting, applied] at refused
        cases refused

theorem start_place {kind : NodeKind} {place : Place} {offence : DescriptionFault}
    (refused : reading.start kind place = .error offence) : offence.place = place := by
  unfold start at refused
  split at refused <;> cases refused
  rfl

theorem takeOutside_place {token : Token} {offence : DescriptionFault}
    (refused : reading.takeOutside token = .error offence) : offence.place = token.place := by
  unfold takeOutside at refused
  split at refused
  · cases refused
  · exact start_place refused
  · cases refused
    rfl

theorem takeInside_place {token : Token} {block : OpenBlock} {outer : List OpenBlock}
    {offence : DescriptionFault}
    (refused : reading.takeInside block outer token = .error offence) :
    offence.place = token.place := by
  unfold takeInside at refused
  split at refused
  · cases refused
  · cases refused
  · exact start_place refused
  · exact start_place refused
  · cases refused
  · cases refused
    rfl

end

end Reading

/-! ## What has been read is derived -/

/-- The open blocks and the complete maps that some tokens have come to, between two items. -/
inductive Stands : List OpenBlock -> List Node -> List Token -> Prop where
  | outside {maps : List Node} {tokens : List Token} (items : IsItems 0 tokens [] maps.reverse) :
      Stands [] maps tokens
  | inside {stack : List OpenBlock} {maps : List Node} {before front body : List Token}
      {word : String} {kind : NodeKind} {name : Option String} {settings : List Setting}
      {children : List Node} (around : Stands stack maps before) (place opening : Place)
      (keyword : IsKeyword stack.length word kind) (shallow : stack.length ≤ deepestOverlay)
      (named : IsName front name) (items : IsItems (stack.length + 1) body settings children) :
      Stands
        (⟨⟨kind, name, place⟩, Attributes.ofSettings settings, children.reverse⟩ :: stack) maps
        (before ++ (⟨.word word, place⟩ :: front ++ ⟨.openBrace, opening⟩ :: body))

/-- The tokens with which a block or a setting has begun. -/
inductive Begins (stack : List OpenBlock) : Begun -> List Token -> Prop where
  | nothing : Begins stack .nothing []
  | block {word : String} {kind : NodeKind} (place : Place)
      (keyword : IsKeyword stack.length word kind) (shallow : stack.length ≤ deepestOverlay) :
      Begins stack (.block kind place) [⟨.word word, place⟩]
  | named {word : String} {kind : NodeKind} (name : String) (place : Place) (behind : Place)
      (keyword : IsKeyword stack.length word kind) (shallow : stack.length ≤ deepestOverlay) :
      Begins stack (.named ⟨kind, some name, place⟩) [⟨.word word, place⟩, ⟨.word name, behind⟩]
  | setting (key : SettingKey) (inside : stack ≠ [])
      (free : ∀ kind, ¬ IsKeyword stack.length key.key kind) :
      Begins stack (.setting key) [⟨.word key.key, key.place⟩]
  | value (key : SettingKey) (equals : Place) (inside : stack ≠ [])
      (free : ∀ kind, ¬ IsKeyword stack.length key.key kind) :
      Begins stack (.value key) [⟨.word key.key, key.place⟩, ⟨.equals, equals⟩]

namespace Reading

/-- A reading between two items that some tokens have led to. -/
def StandsAt (reading : Reading) (tokens : List Token) : Prop :=
  Stands reading.stack reading.maps tokens

/-- A reading that some tokens have led to. -/
def Follows (reading : Reading) (tokens : List Token) : Prop :=
  Exists fun front => Exists fun back =>
    tokens = front ++ back ∧ reading.StandsAt front ∧ Begins reading.stack reading.begun back

section

variable {reading : Reading} {tokens : List Token}

theorem follows_of_stands (idle : reading.begun = .nothing) (stands : reading.StandsAt tokens) :
    reading.Follows tokens :=
  ⟨tokens, [], (List.append_nil tokens).symm, stands, idle ▸ .nothing⟩

theorem stands_of_follows (idle : reading.begun = .nothing) (follows : reading.Follows tokens) :
    reading.StandsAt tokens := by
  rcases follows with ⟨front, back, split, stands, begins⟩
  rw [idle] at begins
  cases begins
  rw [split, List.append_nil]
  exact stands

theorem standsAt_semicolon (stands : reading.StandsAt tokens) (place : Place) :
    reading.StandsAt (tokens ++ [⟨.semicolon, place⟩]) := by
  rcases reading with ⟨maps, stack, begun⟩
  cases stands with
  | outside items => exact .outside (items.semicolon place)
  | inside around keywordPlace opening keyword shallow named items =>
      have more := Stands.inside around keywordPlace opening keyword shallow named
        (items.semicolon place)
      simpa only [StandsAt, List.append_assoc, List.cons_append] using more

theorem standsAt_block (stands : reading.StandsAt tokens) {more : List Token} {node : Node}
    (derived : IsBlock reading.stack.length more node) :
    (reading.withItems [] [node]).StandsAt (tokens ++ more) := by
  rcases reading with ⟨maps, stack, begun⟩
  cases stands with
  | outside items =>
      have longer := items.block derived
      rw [← List.reverse_cons] at longer
      exact .outside longer
  | inside around keywordPlace opening keyword shallow named items =>
      have longer := Stands.inside around keywordPlace opening keyword shallow named
        (items.block derived)
      rw [List.reverse_append] at longer
      simpa only [StandsAt, withItems, List.foldl_nil, List.append_assoc, List.cons_append]
        using longer

theorem standsAt_setting (stands : reading.StandsAt tokens) (inside : reading.stack ≠ [])
    {keyWord valueWord : String} {setting : Setting} (key equals value : Place)
    (free : ∀ kind, ¬ IsKeyword reading.stack.length keyWord kind)
    (written : setting.IsWritten keyWord valueWord) :
    (reading.withItems [setting] []).StandsAt
      (tokens ++ [⟨.word keyWord, key⟩, ⟨.equals, equals⟩, ⟨.word valueWord, value⟩]) := by
  rcases reading with ⟨maps, stack, begun⟩
  cases stands with
  | outside items => exact absurd rfl inside
  | inside around keywordPlace opening keyword shallow named items =>
      have longer := Stands.inside around keywordPlace opening keyword shallow named
        (items.setting key equals value free written)
      rw [← foldl_set] at longer
      simpa only [StandsAt, withItems, List.reverse_nil, List.nil_append, List.append_assoc,
        List.cons_append] using longer

theorem standsAt_openBlock (stands : reading.StandsAt tokens) {word : String} {kind : NodeKind}
    {name : Option String} {front : List Token} (place opening : Place)
    (keyword : IsKeyword reading.stack.length word kind)
    (shallow : reading.stack.length ≤ deepestOverlay) (named : IsName front name) :
    (reading.openBlock ⟨kind, name, place⟩).StandsAt
      (tokens ++ (⟨.word word, place⟩ :: front ++ [⟨.openBrace, opening⟩])) :=
  .inside stands place opening keyword shallow named .nothing

/-- At its closing brace an open block is derived, and one more item of the block around it. -/
theorem standsAt_closeBlock {block : OpenBlock} {outer : List OpenBlock}
    (stands : reading.StandsAt tokens) (stack : reading.stack = block :: outer)
    (closing : Place) :
    (reading.closeBlock block outer).StandsAt (tokens ++ [⟨.closeBrace, closing⟩]) := by
  rcases reading with ⟨maps, _, begun⟩
  subst stack
  rw [closeBlock_eq]
  cases stands with
  | inside around keywordPlace opening keyword shallow named items =>
      have stands : StandsAt ⟨maps, outer, begun⟩ _ := around
      have closed := standsAt_block stands
        (.braced keywordPlace opening closing keyword shallow named items)
      simpa only [OpenBlock.close, List.reverse_reverse, List.append_assoc, List.cons_append,
        List.nil_append] using closed

theorem follows_start (stands : reading.StandsAt tokens) {word : String} {kind : NodeKind}
    {place : Place} {next : Reading} (keyword : IsKeyword reading.stack.length word kind)
    (started : reading.start kind place = .ok next) :
    next.Follows (tokens ++ [⟨.word word, place⟩]) := by
  unfold start at started
  split at started
  · cases started
  · rename_i shallow
    cases started
    exact ⟨tokens, _, rfl, stands, .block place keyword (Nat.le_of_not_lt shallow)⟩

theorem takeOutside_follows {token : Token} {next : Reading} (idle : reading.begun = .nothing)
    (outside : reading.stack = []) (stands : reading.StandsAt tokens)
    (taken : reading.takeOutside token = .ok next) : next.Follows (tokens ++ [token]) := by
  rcases token with ⟨kind, place⟩
  unfold takeOutside at taken
  split at taken
  · rename_i semicolon
    cases semicolon
    cases taken
    exact follows_of_stands idle (standsAt_semicolon stands place)
  · rename_i word
    cases word
    refine follows_start stands ?_ taken
    rw [outside]
    exact .map
  · cases taken

theorem takeInside_follows {token : Token} {next : Reading} {block : OpenBlock}
    {outer : List OpenBlock} (idle : reading.begun = .nothing)
    (inside : reading.stack = block :: outer) (stands : reading.StandsAt tokens)
    (taken : reading.takeInside block outer token = .ok next) :
    next.Follows (tokens ++ [token]) := by
  rcases token with ⟨kind, place⟩
  have deep : reading.stack.length = outer.length + 1 := by rw [inside, List.length_cons]
  unfold takeInside at taken
  split at taken
  · rename_i semicolon
    cases semicolon
    cases taken
    exact follows_of_stands idle (standsAt_semicolon stands place)
  · rename_i brace
    cases brace
    cases taken
    refine follows_of_stands ?_ (standsAt_closeBlock stands inside place)
    rw [closeBlock_eq, withItems_begun]
    exact idle
  · rename_i word
    cases word
    refine follows_start stands ?_ taken
    rw [deep]
    exact .overlay outer.length
  · rename_i word
    cases word
    refine follows_start stands ?_ taken
    rw [deep]
    exact .layer outer.length
  · rename_i word notOverlay notLayer key
    cases key
    cases taken
    refine ⟨tokens, _, rfl, stands, .setting ⟨_, place⟩ ?_ ?_⟩
    · rw [inside]
      exact List.cons_ne_nil block outer
    · rw [deep]
      intro kind keyword
      cases keyword with
      | overlay => exact notOverlay rfl
      | layer => exact notLayer rfl
  · cases taken

/-- The step: what a reading has taken in and one token more. -/
theorem take_follows {token : Token} {next : Reading} (follows : reading.Follows tokens)
    (taken : reading.take token = .ok next) : next.Follows (tokens ++ [token]) := by
  rcases reading with ⟨maps, stack, begun⟩
  rcases follows with ⟨front, back, split, stands, begins⟩
  subst split
  cases begins with
  | nothing =>
      rw [List.append_nil]
      cases stack with
      | nil => exact takeOutside_follows rfl rfl stands taken
      | cons block outer => exact takeInside_follows rfl rfl stands taken
  | block keywordPlace keyword shallow =>
      rcases token with ⟨_ | _ | _ | _ | _, place⟩ <;> cases taken
      · exact ⟨front, _, List.append_assoc _ _ _, stands,
          .named _ keywordPlace place keyword shallow⟩
      · refine follows_of_stands rfl ?_
        rw [List.append_assoc]
        exact standsAt_openBlock stands keywordPlace place keyword shallow .missing
  | named name keywordPlace behind keyword shallow =>
      rcases token with ⟨_ | _ | _ | _ | _, place⟩ <;> cases taken
      refine follows_of_stands rfl ?_
      rw [List.append_assoc]
      exact standsAt_openBlock stands keywordPlace place keyword shallow (.word name behind)
  | setting key inside free =>
      rcases token with ⟨_ | _ | _ | _ | _, place⟩ <;> cases taken
      exact ⟨front, _, List.append_assoc _ _ _, stands, .value key place inside free⟩
  | value key equals inside free =>
      rcases token with ⟨word | _ | _ | _ | _, place⟩
      case word =>
        rcases (applySetting_eq_ok_iff inside).mp taken with
          ⟨setting, written, rfl⟩
        refine follows_of_stands (withItems_begun _ _ _) ?_
        rw [List.append_assoc]
        have idle : StandsAt ⟨maps, stack, .nothing⟩ front := stands
        exact standsAt_setting idle inside key.place equals place free written
      all_goals cases taken

theorem take_place {token : Token} {offence : DescriptionFault}
    (follows : reading.Follows tokens) (refused : reading.take token = .error offence) :
    offence.place ∈ (tokens ++ [token]).map Token.place := by
  rcases reading with ⟨maps, stack, begun⟩
  rcases follows with ⟨front, back, split, stands, begins⟩
  subst split
  rw [List.map_append, List.mem_append]
  have itself : offence.place = token.place ->
      offence.place ∈ (front ++ back).map Token.place ∨ offence.place ∈ [token].map Token.place :=
    fun same => Or.inr (same ▸ List.mem_singleton_self _)
  cases begins with
  | nothing =>
      apply itself
      cases stack with
      | nil => exact takeOutside_place refused
      | cons block outer => exact takeInside_place refused
  | value key equals inside free =>
      rcases token with ⟨word | _ | _ | _ | _, place⟩
      case word =>
        rcases applySetting_place refused with atKey | atValue
        · refine Or.inl (List.mem_map.mpr ⟨⟨.word key.key, key.place⟩, ?_, atKey.symm⟩)
          exact List.mem_append_right _ List.mem_cons_self
        · exact itself atValue
      all_goals
        cases refused
        exact itself rfl
  | _ =>
      rcases token with ⟨_ | _ | _ | _ | _, place⟩ <;> cases refused <;> exact itself rfl

end

theorem follows_nothing : Follows {} [] :=
  follows_of_stands rfl (.outside .nothing)

/-- The run: a reading follows the tokens that it has taken in. -/
theorem takeAll_follows {reading next : Reading} {tokens more : List Token}
    (follows : reading.Follows tokens) (taken : reading.takeAll more = .ok next) :
    next.Follows (tokens ++ more) := by
  induction more generalizing reading tokens with
  | nil =>
      cases taken
      rwa [List.append_nil]
  | cons token rest inductionHypothesis =>
      unfold takeAll at taken
      cases first : reading.take token with
      | error offence =>
          rw [first] at taken
          cases taken
      | ok middle =>
          rw [first] at taken
          rw [List.append_cons]
          exact inductionHypothesis (take_follows follows first) taken

theorem takeAll_place {reading : Reading} {tokens more : List Token} {offence : DescriptionFault}
    (follows : reading.Follows tokens) (refused : reading.takeAll more = .error offence) :
    offence.place ∈ (tokens ++ more).map Token.place := by
  induction more generalizing reading tokens with
  | nil => cases refused
  | cons token rest inductionHypothesis =>
      unfold takeAll at refused
      rw [List.append_cons]
      cases first : reading.take token with
      | error cause =>
          rw [first] at refused
          cases refused
          rw [List.map_append]
          exact List.mem_append_left _ (take_place follows first)
      | ok middle =>
          rw [first] at refused
          exact inductionHypothesis (take_follows follows first) refused

theorem finish_place {reading : Reading} {place : Place} {offence : DescriptionFault}
    (refused : reading.finish place = .error offence) : offence.place = place := by
  rcases reading with ⟨maps, _ | ⟨block, outer⟩, _ | _ | _ | _ | _⟩ <;> cases refused <;> rfl

/-! ## What is derived is read -/

section

variable {reading : Reading}

theorem take_semicolon (idle : reading.begun = .nothing) (place : Place) :
    reading.take ⟨.semicolon, place⟩ = .ok reading := by
  rcases reading with ⟨maps, _ | ⟨block, outer⟩, _⟩ <;> subst idle <;> rfl

theorem take_keyword (idle : reading.begun = .nothing) {word : String} {kind : NodeKind}
    (place : Place) (keyword : IsKeyword reading.stack.length word kind)
    (shallow : reading.stack.length ≤ deepestOverlay) :
    reading.take ⟨.word word, place⟩ = .ok { reading with begun := .block kind place } := by
  have started : reading.start kind place = .ok { reading with begun := .block kind place } :=
    if_neg (Nat.not_lt_of_le shallow)
  rcases reading with ⟨maps, _ | ⟨block, outer⟩, _⟩ <;> subst idle <;> cases keyword <;>
    exact started

theorem take_key (idle : reading.begun = .nothing) (inside : reading.stack ≠ [])
    {word : String} (place : Place) (free : ∀ kind, ¬ IsKeyword reading.stack.length word kind) :
    reading.take ⟨.word word, place⟩ = .ok { reading with begun := .setting ⟨word, place⟩ } := by
  rcases reading with ⟨maps, _ | ⟨block, outer⟩, _⟩
  · exact absurd rfl inside
  · subst idle
    have notOverlay : word ≠ "overlay" := fun same => free .overlay (same ▸ .overlay outer.length)
    have notLayer : word ≠ "layer" := fun same => free .overlay (same ▸ .layer outer.length)
    simp only [take, takeInside]

theorem takeAll_head (idle : reading.begun = .nothing) {word : String} {kind : NodeKind}
    {name : Option String} {front : List Token} (place opening : Place)
    (keyword : IsKeyword reading.stack.length word kind)
    (shallow : reading.stack.length ≤ deepestOverlay) (named : IsName front name) :
    reading.takeAll (⟨.word word, place⟩ :: front ++ [⟨.openBrace, opening⟩]) =
      .ok (reading.openBlock ⟨kind, name, place⟩) := by
  rw [List.cons_append, takeAll, take_keyword idle place keyword shallow]
  cases named <;> rfl

theorem takeAll_setting (idle : reading.begun = .nothing) (inside : reading.stack ≠ [])
    {keyWord valueWord : String} {setting : Setting} (key equals value : Place)
    (free : ∀ kind, ¬ IsKeyword reading.stack.length keyWord kind)
    (written : setting.IsWritten keyWord valueWord) :
    reading.takeAll [⟨.word keyWord, key⟩, ⟨.equals, equals⟩, ⟨.word valueWord, value⟩] =
      .ok (reading.withItems [setting] []) := by
  rw [takeAll, take_key idle inside key free]
  have applied : { reading with begun := .value ⟨keyWord, key⟩ }.applySetting ⟨keyWord, key⟩
      valueWord value = .ok (reading.withItems [setting] []) := by
    refine (applySetting_eq_ok_iff inside).mpr ⟨setting, written, ?_⟩
    rw [← idle]
  simp only [takeAll, take, applied]

theorem take_closeBrace (idle : reading.begun = .nothing) {block : OpenBlock}
    {outer : List OpenBlock} (inside : reading.stack = block :: outer) (place : Place) :
    reading.take ⟨.closeBrace, place⟩ =
      .ok ({ reading with stack := outer }.withItems [] [block.close]) := by
  rcases reading with ⟨maps, stack, _⟩
  subst idle inside
  rw [← closeBlock_eq]
  rfl

/-- A block is read if what it holds is. -/
theorem takeAll_braced (idle : reading.begun = .nothing) {word : String} {kind : NodeKind}
    {name : Option String} {front items : List Token} {settings : List Setting}
    {children : List Node} (place opening closing : Place)
    (keyword : IsKeyword reading.stack.length word kind)
    (shallow : reading.stack.length ≤ deepestOverlay) (named : IsName front name)
    (inside : (reading.openBlock ⟨kind, name, place⟩).takeAll items =
      .ok ((reading.openBlock ⟨kind, name, place⟩).withItems settings children)) :
    reading.takeAll (⟨.word word, place⟩ :: front ++ ⟨.openBrace, opening⟩ :: items ++
        [⟨.closeBrace, closing⟩]) =
      .ok (reading.withItems []
        [.mk ⟨kind, name, place⟩ (Attributes.ofSettings settings) children]) := by
  let inner := reading.openBlock ⟨kind, name, place⟩
  have opened := takeAll_head idle place opening keyword shallow named
  have idleInside : (inner.withItems settings children).begun = .nothing :=
    withItems_begun inner settings children
  have closed := take_closeBrace idleInside rfl closing
  have outer : { inner.withItems settings children with stack := reading.stack } = reading := by
    rcases reading with ⟨maps, stack, _⟩
    subst idle
    rfl
  rw [outer] at closed
  rw [List.append_cons (⟨.word word, place⟩ :: front), takeAll_append, takeAll_append, opened]
  simp only [Except.bind, inside, takeAll]
  rw [closed]
  simp only [OpenBlock.close, List.append_nil, List.reverse_reverse, ← ofSettings_nil, foldl_set,
    List.nil_append]

end

mutual

/-- A derived block is read as one more item. -/
theorem takeAll_of_block : ∀ {depth : Nat} {tokens : List Token} {node : Node},
    IsBlock depth tokens node -> ∀ reading : Reading, reading.begun = .nothing ->
      reading.stack.length = depth ->
      reading.takeAll tokens = .ok (reading.withItems [] [node])
  | _, _, _, .braced place opening closing keyword shallow named items, _, idle, depth =>
      takeAll_braced idle place opening closing (depth.symm ▸ keyword) (depth.symm ▸ shallow)
        named (takeAll_of_items items _ rfl (congrArg Nat.succ depth))

/-- Derived items are read one after another. -/
theorem takeAll_of_items : ∀ {depth : Nat} {tokens : List Token} {settings : List Setting}
    {nodes : List Node}, IsItems depth tokens settings nodes ->
      ∀ reading : Reading, reading.begun = .nothing -> reading.stack.length = depth ->
      reading.takeAll tokens = .ok (reading.withItems settings nodes)
  | _, _, _, _, .nothing, reading, _, _ =>
      congrArg Except.ok reading.withItems_nil.symm
  | _, _, settings, nodes, .semicolon before place, reading, idle, depth => by
      have still := (reading.withItems_begun settings nodes).trans idle
      rw [takeAll_append, takeAll_of_items before reading idle depth]
      simp only [Except.bind, takeAll, take_semicolon still]
  | _, _, settings, _, @IsItems.block _ _ _ _ nodes _ before block, reading, idle, depth => by
      have still := (reading.withItems_begun settings nodes).trans idle
      have stack := (reading.withItems_depth settings nodes).trans depth
      have longer := takeAll_of_block block _ still stack
      rw [withItems_append, List.append_nil] at longer
      rwa [takeAll_append, takeAll_of_items before reading idle depth]
  | _, _, _, nodes, @IsItems.setting _ _ settings _ _ _ _ before key equals value free written,
      reading, idle, depth => by
      have still := (reading.withItems_begun settings nodes).trans idle
      have stack := (reading.withItems_depth settings nodes).trans depth
      have longer := takeAll_setting still (List.ne_nil_of_length_eq_add_one stack) key equals
        value (stack.symm ▸ free) written
      rw [withItems_append, List.append_nil] at longer
      rwa [takeAll_append, takeAll_of_items before reading idle depth]

end

end Reading

/-! ## Descriptions -/

namespace Document

/-- The tokens that are read as a description are those of one. -/
theorem ofTokens_eq_ok_iff (list : TokenList) (document : Document) :
    ofTokens list = .ok document ↔ IsDocument list.tokens document := by
  constructor
  · intro read
    unfold ofTokens at read
    cases taken : Reading.takeAll {} list.tokens with
    | error offence =>
        rw [taken] at read
        cases read
    | ok reading =>
        rw [taken] at read
        have follows := Reading.takeAll_follows Reading.follows_nothing taken
        rcases reading with ⟨maps, stack, begun⟩
        cases begun with
        | nothing =>
            cases stack with
            | nil =>
                cases read
                cases Reading.stands_of_follows rfl follows with
                | outside items => exact items
            | cons block outer => cases read
        | _ => cases read
  · intro derived
    have taken := Reading.takeAll_of_items derived {} rfl rfl
    rw [ofTokens, taken]
    simp only [Reading.withItems, List.append_nil, Reading.finish, List.reverse_reverse]

/-- Tokens that are no description are refused at one of them or at the end of the text. -/
theorem ofTokens_place {list : TokenList} {offence : DescriptionFault}
    (refused : ofTokens list = .error offence) : offence.place ∈ list.places := by
  unfold ofTokens at refused
  cases taken : Reading.takeAll {} list.tokens with
  | error cause =>
      rw [taken] at refused
      cases refused
      exact List.mem_append_left _ (Reading.takeAll_place Reading.follows_nothing taken)
  | ok reading =>
      rw [taken] at refused
      rw [Reading.finish_place refused]
      exact List.mem_append_right _ List.mem_cons_self

end Document

/--
A text is read as a description exactly if it consists of tokens and these are derived by the
grammar, and what is read is the description derived.  If it consists of tokens that are not
derived, the fault says so, and stands where one of them does.
-/
theorem ofText_reads_grammar (source : String) :
    (∀ document, Document.ofText source = .ok document ↔
      Exists fun list => tokenize source = .ok list ∧ IsDocument list.tokens document) ∧
    (∀ list, tokenize source = .ok list ->
      ∀ offence, Document.ofText source = .error offence -> ∀ file,
        (offence.fault file).code = "LANDSCAPE_PARSE" ∧
        Exists fun place => place ∈ list.places ∧
          (offence.fault file).stretch = some ⟨place, place⟩) := by
  unfold Document.ofText
  cases tokens : tokenize source with
  | error lexical =>
      constructor
      · intro document
        constructor
        · intro impossible
          cases impossible
        · rintro ⟨list, impossible, _⟩
          cases impossible
      · intro list impossible
        cases impossible
  | ok list =>
      constructor
      · intro document
        constructor
        · intro read
          exact ⟨list, rfl, (Document.ofTokens_eq_ok_iff list document).mp read⟩
        · rintro ⟨_, same, derived⟩
          cases same
          exact (Document.ofTokens_eq_ok_iff list document).mpr derived
      · intro _ same offence refused file
        cases same
        exact ⟨rfl, offence.place, Document.ofTokens_place refused, rfl⟩

/-- A description but for one value, which is no whole number. -/
def fractionalHeight : String :=
  "map \x7b x = +5%; overlay \x7b algo = Bozo hgt = 1.5 \x7d \x7d"

/-- Nothing is derived from its tokens, and the fault stands at one of them. -/
theorem ofText_reads_grammar_fractionalHeight :
    Exists fun list => tokenize fractionalHeight = .ok list ∧
      (∀ document, ¬ IsDocument list.tokens document) ∧
      Exists fun offence => Document.ofText fractionalHeight = .error offence ∧
        (offence.fault "Landscape.txt").code = "LANDSCAPE_PARSE" ∧
        Exists fun place => place ∈ list.places ∧
          (offence.fault "Landscape.txt").stretch = some ⟨place, place⟩ := by
  have consistsOfTokens : (tokenize fractionalHeight).toOption.isSome = true := by
    decide +kernel
  have isRefused : (Document.ofText fractionalHeight).toOption.isNone = true := by
    decide +kernel
  cases tokens : tokenize fractionalHeight with
  | error lexical =>
      rw [tokens] at consistsOfTokens
      cases consistsOfTokens
  | ok list =>
      cases refused : Document.ofText fractionalHeight with
      | ok document =>
          rw [refused] at isRefused
          cases isRefused
      | error offence =>
          have reads := ofText_reads_grammar fractionalHeight
          refine ⟨list, rfl, ?_, offence, rfl, reads.2 list tokens offence refused _⟩
          intro document derived
          have accepted := (reads.1 document).mpr ⟨list, tokens, derived⟩
          rw [refused] at accepted
          cases accepted

end Landscape
end Landform
