import Landform.Proofs.JsonRecords
import Landform.Proofs.JsonRendering
import Landform.Scenario.Json

namespace Landform

/-!
# Tables and parameters are read as they were written

Material tables, texture tables, parameters and scenarios are exchanged as texts.  Each has an
interchange form, which is rendered, and a shape, by which a text is read.  The form of a table is
full: it has a member for every field, in the order of the fields, so it is fitted to itself.
What is left to be shown is that the form says all that the table says.

`interchange_readsBack` is about all texts of a form and not only about its rendering, and about
texts in which defaults are left out.
-/

namespace Json

/-! ## Full forms -/

/-- A form has all members that its shape asks for, and no floating-point numbers. -/
structure IsFull (shape : Shape) (form : Json) : Prop where
  complete : shape.fit .exactElements form = .ok form
  exact' : IsExact form

namespace IsFull

variable {shape inner : Shape} {form : Json}

theorem text (s : String) : IsFull .text (.text s) where
  complete := rfl
  exact' := .text s

theorem integer {span : Number.Span} (title : String) {n : Int} (inSpan : span.contains n = true) :
    IsFull (.integer span title) (.whole n) where
  complete := by rw [Shape.fit, fitInteger, if_pos inSpan]
  exact' := .whole n

theorem absent : IsFull inner.optional .null where
  complete := rfl
  exact' := .null

/-- A form stands for itself where it may be missing, unless it is the form of nothing. -/
theorem optional (full : IsFull inner form) (present : form ≠ .null) :
    IsFull inner.optional form where
  complete := by
    cases form with
    | null => exact absurd rfl present
    | _ => exact full.complete
  exact' := full.exact'

theorem list {items : List Json} (full : ∀ item ∈ items, IsFull inner item) :
    IsFull inner.list (.list items) where
  complete := fit_list_complete fun item member => (full item member).complete
  exact' := .list fun item member => (full item member).exact'

theorem dictionary {members : List (String × Json)}
    (full : ∀ member ∈ members, IsFull inner member.2) :
    IsFull inner.dictionary (.object members) where
  complete := fit_dictionary_complete fun member inMembers => (full member inMembers).complete
  exact' := .object fun member inMembers => (full member inMembers).exact'

/-- The full form of a record has the members of its fields, in their order. -/
theorem record {title : String} {fields : Fields} {members : List (String × Json)}
    (full : List.Forall₂ (fun field member => field.name = member.1 ∧ IsFull field.shape member.2)
      fields.list members)
    (apart : (members.map Prod.fst).Nodup) : IsFull (.record title fields) (.object members) where
  complete := by
    refine fit_record_complete ?_ apart
    rw [Fields.fits_eq, List.forall₂_map_left_iff]
    exact full.imp fun _ _ pair => ⟨pair.1, pair.2.complete⟩
  exact' := .object fun member inMembers => by
    rcases related_of_mem full.flip inMembers with ⟨_, _, _, isFull⟩
    exact isFull.exact'

/-- A text of a full form is read as that form. -/
theorem ofText (full : IsFull shape form) (plain : shape.isPlain = true) {s : String}
    (holds : Holds s form) : shape.ofText s = .ok form := by
  have read := ofText_holds plain holds
  rw [full.complete] at read
  cases outcome : shape.ofText s with
  | error fault =>
      rw [outcome] at read
      cases read
  | ok found =>
      rw [outcome] at read
      exact congrArg Except.ok (Option.some.inj read)

end IsFull

/-! ## What readings do -/

section Readings

variable {α : Type} {shape : Shape}

/-- A form is rendered as one of its texts, what is rendered is read back, and so is every other
text of the form. -/
structure ReadsBack (read : String -> Except ReadFault α) (form : Json) (a : α) : Prop where
  isText : Holds form.render form
  back : read form.render = .ok a
  every : ∀ s, Holds s form -> read s = .ok a

theorem IsFull.readsBack {form : Json} (full : IsFull shape form) (plain : shape.isPlain = true)
    {build : Json -> α} {a : α} (built : build form = a) :
    ReadsBack (fun s => (shape.ofText s).map build) form a := by
  have every : ∀ s, Holds s form -> (shape.ofText s).map build = .ok a := by
    intro s holds
    rw [full.ofText plain holds, Except.map, built]
  have isText := holds_render full.exact'
  exact ⟨isText, every form.render isText, every⟩

/-- What is read from texts does not change when defaults are written out in them. -/
def IgnoresDefaults (shape : Shape) (read : String -> Except ReadFault α) : Prop :=
  ∀ value written s s', WrittenOut shape value written -> Holds s value -> Holds s' written ->
    (read s).toOption = (read s').toOption

theorem ignoresDefaults_of_sound (plain : shape.isPlain = true)
    (sound : shape.IsSound .exactElements) (build : Json -> α) :
    IgnoresDefaults shape fun s => (shape.ofText s).map build := by
  intro value written s s' out holds holds'
  have same : (shape.ofText s).toOption = (shape.ofText s').toOption := by
    rw [ofText_holds plain holds, ofText_holds plain holds', fit_writtenOut out sound]
  dsimp only
  cases first : shape.ofText s <;> cases second : shape.ofText s' <;>
    rw [first, second] at same <;> cases same <;> rfl

end Readings

end Json

open Json (IsFull ReadsBack IgnoresDefaults)

/-! ## Material tables -/

theorem Material.isFull (material : Material) : IsFull shape material.toJson :=
  .record (.cons ⟨rfl, .text _⟩ (.cons ⟨rfl, .text _⟩ .nil))
    (show ["name", "textureOverlay"].Nodup from by decide)

theorem Material.ofJson_toJson (material : Material) : ofJson material.toJson = material :=
  rfl

/-- The items of a list of forms are what the forms are of. -/
theorem map_forms {α : Type} {toJson : α -> Json} {ofJson : Json -> α}
    (back : ∀ a, ofJson (toJson a) = a) (items : List α) :
    (items.map toJson).map ofJson = items := by
  rw [List.map_map]
  exact (List.map_congr_left fun a _ => back a).trans (List.map_id' items)

theorem MaterialTable.isFull (table : MaterialTable) : IsFull shape table.toJson := by
  refine .record (.cons ⟨rfl, .list fun item member => ?_⟩ .nil)
    (show ["materials"].Nodup from by decide)
  rcases List.mem_map.mp member with ⟨material, _, rfl⟩
  exact material.isFull

theorem MaterialTable.ofJson_toJson (table : MaterialTable) : ofJson table.toJson = table :=
  congrArg MaterialTable.mk (map_forms Material.ofJson_toJson table.materials)

/-! ## Texture tables -/

/-- A colour is a number of 32 bits. -/
def Texture.InRange (texture : Texture) : Prop :=
  Number.nat32.contains texture.averageColor = true

/-- The colours of a table are numbers of 32 bits. -/
def TextureTable.InRange (table : TextureTable) : Prop :=
  ∀ texture ∈ table.textures, texture.InRange

theorem Texture.isFull {texture : Texture} (inRange : texture.InRange) :
    IsFull shape texture.toJson :=
  .record (.cons ⟨rfl, .text _⟩ (.cons ⟨rfl, .integer _ inRange⟩ .nil))
    (show ["name", "averageColor"].Nodup from by decide)

theorem Texture.ofJson_toJson (texture : Texture) : ofJson texture.toJson = texture :=
  rfl

theorem IndexEntry.isFull (entry : IndexEntry) : IsFull shape entry.toJson := by
  have inByte : Number.nat8.contains entry.index.toNat = true := by
    have below := entry.index.toNat_lt
    rw [Number.Span.contains_iff]
    simp only [Number.nat8]
    omega
  exact .record (.cons ⟨rfl, .integer _ inByte⟩ (.cons ⟨rfl, .text _⟩ (.cons ⟨rfl, .text _⟩ .nil)))
    (show ["index", "material", "texture"].Nodup from by decide)

theorem IndexEntry.ofJson_toJson (entry : IndexEntry) : ofJson entry.toJson = entry := by
  have index : (entry.index.toNat : Int).toNat.toUInt8 = entry.index := by simp
  exact congrArg (fun index => IndexEntry.mk index entry.material entry.texture) index

theorem TextureTable.isFull {table : TextureTable} (inRange : table.InRange) :
    IsFull shape table.toJson := by
  refine .record (.cons ⟨rfl, .list fun item member => ?_⟩
    (.cons ⟨rfl, .list fun item member => ?_⟩ .nil))
    (show ["textures", "entries"].Nodup from by decide)
  · rcases List.mem_map.mp member with ⟨texture, inTable, rfl⟩
    exact Texture.isFull (inRange texture inTable)
  · rcases List.mem_map.mp member with ⟨entry, _, rfl⟩
    exact entry.isFull

theorem TextureTable.ofJson_toJson (table : TextureTable) : ofJson table.toJson = table :=
  congrArg₂ TextureTable.mk (map_forms Texture.ofJson_toJson table.textures)
    (map_forms IndexEntry.ofJson_toJson table.entries)

/-! ## Scenarios -/

/-- The numbers of a parameter have 32 bits. -/
structure Parameter.InRange (parameter : Parameter) : Prop where
  default : Number.int32.contains parameter.default = true
  least : ∀ n ∈ parameter.least, Number.int32.contains n = true
  most : ∀ n ∈ parameter.most, Number.int32.contains n = true

theorem Parameter.isFull_bound {bound : Option Int}
    (inRange : ∀ n ∈ bound, Number.int32.contains n = true) :
    IsFull (.optional .number) (boundJson bound) := by
  cases bound with
  | none => exact .absent
  | some n => exact .optional (.integer _ (inRange n rfl)) nofun

theorem Parameter.isFull {parameter : Parameter} (inRange : parameter.InRange) :
    IsFull shape parameter.toJson :=
  .record
    (.cons ⟨rfl, .text _⟩ (.cons ⟨rfl, .text _⟩ (.cons ⟨rfl, .integer _ inRange.default⟩
      (.cons ⟨rfl, isFull_bound inRange.least⟩ (.cons ⟨rfl, isFull_bound inRange.most⟩ .nil)))))
    (show ["id", "name", "default", "min", "max"].Nodup from by decide)

theorem Parameter.whole?_boundJson (bound : Option Int) : (boundJson bound).whole? = bound := by
  cases bound <;> rfl

theorem Parameter.ofJson_toJson (parameter : Parameter) : ofJson parameter.toJson = parameter :=
  congrArg₂ (Parameter.mk parameter.id parameter.name parameter.default)
    (whole?_boundJson parameter.least) (whole?_boundJson parameter.most)

namespace SortedMap

variable {α : Type}

/-- The keys of a map ascend. -/
def IsAscending (map : SortedMap α) : Prop :=
  map.entries.Pairwise fun first second => first.1 < second.1

/-- A key behind all others is put at the end. -/
theorem insertEntry_last {key : String} {entries : List (String × α)}
    (behind : ∀ entry ∈ entries, entry.1 < key) (value : α) :
    insertEntry key value entries = entries ++ [(key, value)] := by
  induction entries with
  | nil => rfl
  | cons entry entries inductionHypothesis =>
      have before := behind entry List.mem_cons_self
      have apart : (key == entry.1) = false := beq_false_of_ne fun same =>
        String.lt_irrefl key (same ▸ before)
      have notBefore : ¬ key < entry.1 := String.lt_asymm before
      rw [insertEntry, apart, if_neg Bool.false_ne_true, if_neg notBefore,
        inductionHypothesis fun entry member => behind entry (List.mem_cons_of_mem _ member)]
      rfl

/-- A map is filled from its own pairs. -/
theorem ofList_entries {map : SortedMap α} (ascending : map.IsAscending) :
    ofList map.entries = map := by
  -- The pairs from the front are in the map already.
  have go : ∀ rest front : List (String × α),
      IsAscending ⟨front ++ rest⟩ ->
        rest.foldl (fun map pair => map.insert pair.1 pair.2) ⟨front⟩ =
          (⟨front ++ rest⟩ : SortedMap α) := by
    intro rest
    induction rest with
    | nil =>
        intro front _
        rw [List.append_nil]
        rfl
    | cons pair rest inductionHypothesis =>
        intro front sorted
        have behind : ∀ entry ∈ front, entry.1 < pair.1 := fun entry member =>
          (List.pairwise_append.mp sorted).2.2 entry member pair List.mem_cons_self
        have next := inductionHypothesis (front ++ [pair])
          (by rw [List.append_assoc]; exact sorted)
        rw [List.foldl_cons, insert, insertEntry_last behind, next, List.append_assoc]
        rfl
  exact go map.entries [] ascending

theorem mem_insertEntry {key : String} {value : α} {entry : String × α}
    {entries : List (String × α)} (member : entry ∈ insertEntry key value entries) :
    entry = (key, value) ∨ entry ∈ entries := by
  induction entries with
  | nil => exact Or.inl (List.mem_singleton.mp member)
  | cons first entries inductionHypothesis =>
      rw [insertEntry] at member
      split at member
      · exact (List.mem_cons.mp member).imp_right (List.mem_cons_of_mem _)
      · split at member
        · exact List.mem_cons.mp member
        · rcases List.mem_cons.mp member with rfl | inRest
          · exact Or.inr List.mem_cons_self
          · exact (inductionHypothesis inRest).imp_right (List.mem_cons_of_mem _)

/-- Keys ascend after a pair has been put at its place. -/
theorem IsAscending.insert {map : SortedMap α} (ascending : map.IsAscending) (key : String)
    (value : α) : (map.insert key value).IsAscending := by
  rcases map with ⟨entries⟩
  rw [SortedMap.insert, IsAscending] at *
  dsimp only at *
  induction entries with
  | nil => exact List.pairwise_singleton _ _
  | cons entry entries inductionHypothesis =>
      rcases entry with ⟨other, kept⟩
      rw [List.pairwise_cons] at ascending
      rw [insertEntry]
      split
      · rename_i same
        rw [beq_iff_eq.mp same]
        exact List.pairwise_cons.mpr ascending
      · rename_i different
        split
        · rename_i before
          refine List.pairwise_cons.mpr ⟨fun entry member => ?_, List.pairwise_cons.mpr ascending⟩
          rcases List.mem_cons.mp member with rfl | inRest
          · exact before
          · exact String.lt_trans before (ascending.1 entry inRest)
        · rename_i notBefore
          refine List.pairwise_cons.mpr ⟨fun entry member => ?_, inductionHypothesis ascending.2⟩
          rcases mem_insertEntry member with rfl | inRest
          · have apart : other ≠ key := fun same => different (beq_iff_eq.mpr same.symm)
            exact Std.lt_of_le_of_ne (String.not_lt.mp notBefore) apart
          · exact ascending.1 entry inRest

end SortedMap

/-- The numbers of a scenario have 32 bits, and the values stand in the order of their ids. -/
structure Scenario.InRange (scenario : Scenario) : Prop where
  parameters : ∀ parameter ∈ scenario.parameters, parameter.InRange
  values : ∀ entry ∈ scenario.values.entries, Number.int32.contains entry.2 = true
  ascending : scenario.values.IsAscending

theorem Scenario.mem_place {parameter other : Parameter} {parameters : List Parameter}
    (member : other ∈ place parameter parameters) : other = parameter ∨ other ∈ parameters := by
  induction parameters with
  | nil => exact Or.inl (List.mem_singleton.mp member)
  | cons old parameters inductionHypothesis =>
      rw [place] at member
      split at member
      · exact (List.mem_cons.mp member).imp_right (List.mem_cons_of_mem _)
      · rcases List.mem_cons.mp member with rfl | inRest
        · exact Or.inr List.mem_cons_self
        · exact (inductionHypothesis inRest).imp_right (List.mem_cons_of_mem _)

/-- Scenarios stay in range when a number in range is chosen. -/
theorem Scenario.InRange.set {scenario : Scenario} (inRange : scenario.InRange) (id : String)
    {value : Int} (inSpan : Number.int32.contains value = true) (onlyIfLarger : Bool) :
    (scenario.set id value onlyIfLarger).InRange := by
  rw [Scenario.set]
  split
  · exact inRange
  · refine ⟨inRange.parameters, fun entry member => ?_, inRange.ascending.insert id value⟩
    rcases SortedMap.mem_insertEntry member with rfl | old
    · exact inSpan
    · exact inRange.values entry old

/-- Scenarios stay in range when a parameter in range is offered. -/
theorem Scenario.InRange.define {scenario : Scenario} (inRange : scenario.InRange)
    {parameter : Parameter} (offered : parameter.InRange) :
    (scenario.define parameter).InRange where
  parameters := by
    intro other member
    rcases mem_place member with rfl | old
    · exact offered
    · exact inRange.parameters other old
  values := inRange.values
  ascending := inRange.ascending

theorem Scenario.isFull {scenario : Scenario} (inRange : scenario.InRange) :
    IsFull shape scenario.toJson := by
  refine .record (.cons ⟨rfl, .list fun item member => ?_⟩
    (.cons ⟨rfl, .dictionary fun member inMembers => ?_⟩ .nil))
    (show ["definitions", "values"].Nodup from by decide)
  · rcases List.mem_map.mp member with ⟨parameter, inScenario, rfl⟩
    exact Parameter.isFull (inRange.parameters parameter inScenario)
  · rcases List.mem_map.mp inMembers with ⟨entry, inScenario, rfl⟩
    exact .integer _ (inRange.values entry inScenario)

theorem Scenario.pairsOf_entries (entries : List (String × Int)) :
    pairsOf (.object (entries.map fun entry => (entry.1, .whole entry.2))) = entries := by
  rw [pairsOf, Json.members, List.filterMap_map]
  exact List.filterMap_some

theorem Scenario.ofJson_toJson {scenario : Scenario} (inRange : scenario.InRange) :
    ofJson scenario.toJson = scenario := by
  have values : SortedMap.ofList (pairsOf (.object
      (scenario.values.entries.map fun entry => (entry.1, .whole entry.2)))) = scenario.values := by
    rw [pairsOf_entries, SortedMap.ofList_entries inRange.ascending]
  exact congrArg₂ Scenario.mk (map_forms Parameter.ofJson_toJson scenario.parameters) values

/-! ## Defaults -/

namespace Json.Fields

variable {rule : SurplusRule} {name : String} {shape : Shape} {rest : Fields}

theorem isSound_required (sound : shape.IsSound rule) (restSound : rest.IsSound rule) :
    (Fields.cons name none shape rest).IsSound rule :=
  ⟨nofun, sound, restSound⟩

theorem isSound_default {default : Json} (complete : shape.fit rule default = .ok default)
    (sound : shape.IsSound rule) (restSound : rest.IsSound rule) :
    (Fields.cons name (some default) shape rest).IsSound rule :=
  ⟨fun _ member => Option.some.inj member ▸ complete, sound, restSound⟩

end Json.Fields

open Json.Fields (isSound_required isSound_default)

theorem Material.isSound : shape.IsSound .exactElements :=
  ⟨by decide, isSound_required trivial (isSound_default rfl trivial trivial)⟩

theorem MaterialTable.isSound : shape.IsSound .exactElements :=
  ⟨by decide, isSound_default rfl Material.isSound trivial⟩

theorem Texture.isSound : shape.IsSound .exactElements :=
  ⟨by decide, isSound_required trivial (isSound_required trivial trivial)⟩

theorem IndexEntry.isSound : shape.IsSound .exactElements :=
  ⟨by decide, isSound_required trivial
    (isSound_required trivial (isSound_required trivial trivial))⟩

theorem TextureTable.isSound : shape.IsSound .exactElements :=
  ⟨by decide, isSound_default rfl Texture.isSound (isSound_default rfl IndexEntry.isSound trivial)⟩

theorem Parameter.isSound : shape.IsSound .exactElements :=
  ⟨by decide, isSound_required trivial (isSound_default rfl trivial (isSound_default rfl trivial
    (isSound_default rfl trivial (isSound_default rfl trivial trivial))))⟩

theorem Scenario.isSound : shape.IsSound .exactElements :=
  ⟨by decide, isSound_default rfl Parameter.isSound (isSound_default rfl trivial trivial)⟩

/-! ## Reading back -/

/-- Tables, parameters and scenarios are read back from what they are rendered as and from every other
text of their forms, and nothing that is read from a text depends on whether defaults are written
out in it. -/
theorem interchange_readsBack :
    ((∀ table : MaterialTable, ReadsBack MaterialTable.ofText table.toJson table) ∧
      (∀ table : TextureTable, table.InRange ->
        ReadsBack TextureTable.ofText table.toJson table) ∧
      (∀ parameter : Parameter, parameter.InRange ->
        ReadsBack Parameter.ofText parameter.toJson parameter) ∧
      (∀ scenario : Scenario, scenario.InRange ->
        ReadsBack Scenario.ofText scenario.toJson scenario)) ∧
    IgnoresDefaults MaterialTable.shape MaterialTable.ofText ∧
      IgnoresDefaults TextureTable.shape TextureTable.ofText ∧
      IgnoresDefaults Parameter.shape Parameter.ofText ∧
      IgnoresDefaults Scenario.shape Scenario.ofText := by
  refine ⟨⟨?_, ?_, ?_, ?_⟩, ?_, ?_, ?_, ?_⟩
  · exact fun table => table.isFull.readsBack (by decide) table.ofJson_toJson
  · exact fun table inRange =>
      (TextureTable.isFull inRange).readsBack (by decide) table.ofJson_toJson
  · exact fun parameter inRange =>
      (Parameter.isFull inRange).readsBack (by decide) parameter.ofJson_toJson
  · exact fun scenario inRange =>
      (Scenario.isFull inRange).readsBack (by decide) (Scenario.ofJson_toJson inRange)
  · exact Json.ignoresDefaults_of_sound (by decide) MaterialTable.isSound MaterialTable.ofJson
  · exact Json.ignoresDefaults_of_sound (by decide) TextureTable.isSound TextureTable.ofJson
  · exact Json.ignoresDefaults_of_sound (by decide) Parameter.isSound Parameter.ofJson
  · exact Json.ignoresDefaults_of_sound (by decide) Scenario.isSound Scenario.ofJson

/-! ## Odd tables -/

/-- A parameter whose id has to be escaped, at the ends of its range. -/
def oddParameter : Parameter where
  id := "\"back\\slash\" \x01\n😀"
  default := -2147483648
  most := some 2147483647

/-- A scenario that offers a parameter twice and has values for others. -/
def oddScenario : Scenario where
  parameters := [oddParameter, oddParameter]
  values := ⟨[("\t", -1), ("😀", 2147483647)]⟩

/-- A texture table with two entries of an index. -/
def oddTextures : TextureTable where
  textures := [⟨"ein/aus\x1f", 4294967295⟩]
  entries := [⟨255, "Earth", ""⟩, ⟨255, "\"", "🜃"⟩]

theorem oddTextures_inRange : oddTextures.InRange := by
  rintro texture member
  cases List.mem_singleton.mp member
  exact show Number.nat32.contains 4294967295 = true from by decide

theorem oddParameter_inRange : oddParameter.InRange := by
  refine ⟨by decide, nofun, fun n member => ?_⟩
  cases member
  decide

theorem oddScenario_inRange : oddScenario.InRange := by
  have ascending : oddScenario.values.IsAscending :=
    List.pairwise_pair.mpr (show "\t" < "😀" from by decide +kernel)
  refine ⟨fun other member => ?_, by decide, ascending⟩
  rcases List.mem_pair.mp member with rfl | rfl <;> exact oddParameter_inRange

/-- A parameter without bounds, and with a lower bound of nothing. -/
theorem writtenOut_least : Json.WrittenOut Parameter.shape (.object [("id", .text "a")])
    (.object [("id", .text "a"), ("min", .null)]) := by
  have apart : ∀ member ∈ [("id", Json.text "a")] ++ [], member.1 ≠ "min" := by
    intro member inMembers
    cases List.mem_singleton.mp inMembers
    decide
  exact @Json.WrittenOut.absent _ _ ⟨"min", some .null, .optional .number⟩ .null
    [("id", .text "a")] [] (.tail _ (.tail _ (.tail _ (.head _)))) rfl apart

theorem interchange_readsBack_odd :
    (oddTextures.InRange ∧ TextureTable.ofText oddTextures.toJson.render = .ok oddTextures) ∧
      (oddParameter.InRange ∧ Parameter.ofText oddParameter.toJson.render = .ok oddParameter) ∧
      (oddScenario.InRange ∧ Scenario.ofText oddScenario.toJson.render = .ok oddScenario) ∧
      (Parameter.ofText "\x7b\"id\":\"a\"\x7d").toOption =
        (Parameter.ofText "\x7b\"id\":\"a\",\"min\":null\x7d").toOption := by
  have short : Json.render (.object [("id", .text "a")]) = "\x7b\"id\":\"a\"\x7d" := by
    decide +kernel
  have long : Json.render (.object [("id", .text "a"), ("min", .null)]) =
      "\x7b\"id\":\"a\",\"min\":null\x7d" := by
    decide +kernel
  have holds : Json.Holds _ (.object [("id", .text "a")]) :=
    Json.holds_render (.object fun member inMembers => by
      cases List.mem_singleton.mp inMembers
      exact .text "a")
  have holds' : Json.Holds _ (.object [("id", .text "a"), ("min", .null)]) :=
    Json.holds_render (.object fun member inMembers => by
      rcases List.mem_pair.mp inMembers with rfl | rfl
      · exact .text "a"
      · exact .null)
  rw [short] at holds
  rw [long] at holds'
  exact ⟨⟨oddTextures_inRange, (interchange_readsBack.1.2.1 _ oddTextures_inRange).back⟩,
    ⟨oddParameter_inRange, (interchange_readsBack.1.2.2.1 _ oddParameter_inRange).back⟩,
    ⟨oddScenario_inRange, (interchange_readsBack.1.2.2.2 _ oddScenario_inRange).back⟩,
    interchange_readsBack.2.2.2.1 _ _ _ _ writtenOut_least holds holds'⟩

end Landform
