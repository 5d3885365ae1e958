import Landform.Json.Shape
import Mathlib.Data.List.Nodup
import Mathlib.Data.List.Forall2

namespace Landform
namespace Json

/-!
# Defaults written out

Whether a member is left out or has its default makes no difference to the full form of a record.
For this the default has to be its own full form, and names of fields must not repeat: both are
said of a shape by `IsSound`.  `WrittenOut` puts a default in any place of an object in which its
field is missing, also in the records and lists inside and any number of times, and
`fit_writtenOut` shows that fitting cannot tell.
-/

/-- A field of a record. -/
structure Field where
  name : String
  default : Option Json
  shape : Shape

/-- The fields as a list. -/
def Fields.list : Fields -> List Field
  | .nil => []
  | .cons name default shape rest => ⟨name, default, shape⟩ :: rest.list

mutual

/-- The names of the fields of all records are apart, and defaults are their own full forms. -/
def Shape.IsSound (rule : SurplusRule) : Shape -> Prop
  | .text | .integer _ _ | .choice _ _ _ => True
  | .optional inner | .list inner | .dictionary inner => inner.IsSound rule
  | .record _ fields => fields.names.Nodup ∧ fields.IsSound rule

/-- The same for the fields of a record. -/
def Fields.IsSound (rule : SurplusRule) : Fields -> Prop
  | .nil => True
  | .cons _ default shape rest =>
      (∀ value ∈ default, shape.fit rule value = .ok value) ∧
        shape.IsSound rule ∧ rest.IsSound rule

end

/-- Some fields that are missing in a value have their defaults in another. -/
inductive WrittenOut : Shape -> Json -> Json -> Prop
  | same {shape : Shape} {value : Json} : WrittenOut shape value value
  | trans {shape : Shape} {first second third : Json} :
      WrittenOut shape first second -> WrittenOut shape second third ->
      WrittenOut shape first third
  | absent {title : String} {fields : Fields} {field : Field} {default : Json}
      {front back : List (String × Json)} :
      field ∈ fields.list -> field.default = some default ->
      (∀ member ∈ front ++ back, member.1 ≠ field.name) ->
      WrittenOut (.record title fields) (.object (front ++ back))
        (.object (front ++ (field.name, default) :: back))
  | member {title : String} {fields : Fields} {field : Field} {value written : Json}
      {front back : List (String × Json)} :
      field ∈ fields.list -> WrittenOut field.shape value written ->
      WrittenOut (.record title fields) (.object (front ++ (field.name, value) :: back))
        (.object (front ++ (field.name, written) :: back))
  | item {inner : Shape} {value written : Json} {front back : List Json} :
      WrittenOut inner value written ->
      WrittenOut (.list inner) (.list (front ++ value :: back)) (.list (front ++ written :: back))

/-! ## Fields as a list -/

namespace Fields

theorem names_eq : (fields : Fields) -> fields.names = fields.list.map Field.name
  | .nil => rfl
  | .cons name _ _ rest => congrArg (name :: ·) (names_eq rest)

theorem fits_eq (rule : SurplusRule) : (fields : Fields) -> fields.fits rule =
    fields.list.map fun field => ⟨field.name, field.default, field.shape.fit rule⟩
  | .nil => by rw [Fields.fits]; rfl
  | .cons name default shape rest => by rw [Fields.fits, fits_eq rule rest]; rfl

theorem sound_of_mem {rule : SurplusRule} : {fields : Fields} -> fields.IsSound rule ->
    ∀ field ∈ fields.list,
      (∀ value ∈ field.default, field.shape.fit rule value = .ok value) ∧ field.shape.IsSound rule
  | .nil, _, _, member => nomatch member
  | .cons _ _ _ _, sound, field, member => by
      rcases List.mem_cons.mp member with rfl | inRest
      · exact ⟨sound.1, sound.2.1⟩
      · exact sound_of_mem sound.2.2 field inRest

/-- Among fields whose names are apart, a field is known by its name. -/
theorem fit_of_name {rule : SurplusRule} {fields : Fields} (apart : fields.names.Nodup)
    {field : Field} (member : field ∈ fields.list) {fitting : FieldFit}
    (fits : fitting ∈ fields.fits rule) (named : fitting.name = field.name) :
    fitting.default = field.default ∧ fitting.fit = field.shape.fit rule := by
  rw [fits_eq] at fits
  rcases List.mem_map.mp fits with ⟨other, inFields, rfl⟩
  rw [names_eq] at apart
  rw [List.inj_on_of_nodup_map apart inFields member named]
  exact ⟨rfl, rfl⟩

end Fields

/-! ## Outcomes -/

section Outcomes

variable {ε α β γ : Type} (outcome : Except ε α)

theorem bind_map_outcome (f : α -> Except ε β) (g : β -> γ) :
    (outcome.bind f).map g = outcome.bind fun a => (f a).map g := by
  cases outcome <;> rfl

theorem bind_bind_outcome (f : α -> Except ε β) (g : β -> Except ε γ) :
    (outcome.bind f).bind g = outcome.bind fun a => (f a).bind g := by
  cases outcome <;> rfl

theorem map_map_outcome (f : α -> β) (g : β -> γ) :
    (outcome.map f).map g = outcome.map fun a => g (f a) := by
  cases outcome <;> rfl

theorem map_id_outcome : (outcome.map fun a => a) = outcome := by
  cases outcome <;> rfl

end Outcomes

/-! ## One value more -/

theorem fitAll_cons (fit : Json -> Except ShapeCause Json) (item : Json) (rest : List Json) :
    fitAll fit (item :: rest) =
      (fit item).bind fun full => (fitAll fit rest).map fun more => full :: more := by
  rw [fitAll]
  cases fit item <;> rfl

theorem fitDictionary_cons (fit : Json -> Except ShapeCause Json) (key : String) (value : Json)
    (rest : List (String × Json)) :
    fitDictionary fit ((key, value) :: rest) =
      (fit value).bind fun full =>
        (fitDictionary fit rest).map fun more => (key, full) :: more := by
  rw [fitDictionary]
  cases fit value <;> rfl

theorem fitMembers_cons (fields : List FieldFit) (found : List (String × Json)) (key : String)
    (value : Json) (rest : List (String × Json)) :
    fitMembers fields found ((key, value) :: rest) =
      match fields.find? fun field => field.name == key with
      | none => fitMembers fields found rest
      | some field =>
          if (found.lookup key).isSome then .error (.duplicateField key)
          else
            (field.fit value).bind fun full =>
              fitMembers fields (found ++ [(key, full)]) rest := by
  rw [fitMembers]
  cases fields.find? fun field => field.name == key with
  | none => rfl
  | some field =>
      dsimp only
      cases field.fit value <;> rfl

theorem fitItems_cons (title : String) (count position : Nat) (field : FieldFit)
    (fields : List FieldFit) (item : Json) (items : List Json) :
    fitItems title count position (field :: fields) (item :: items) =
      (field.fit item).bind fun full =>
        (fitItems title count (position + 1) fields items).map fun found =>
          ((field.name, full) :: found.1, found.2) := by
  rw [fitItems]
  cases field.fit item <;> rfl

/-! ## Fitting members -/

theorem named_of_find {fields : List FieldFit} {key : String} {field : FieldFit}
    (search : fields.find? (fun field => field.name == key) = some field) :
    field ∈ fields ∧ field.name = key := by
  have test := List.find?_some search
  exact ⟨List.mem_of_find?_eq_some search, beq_iff_eq.mp test⟩

theorem lookup_append_of_ne {found : List (String × Json)} {name key : String}
    (absent : found.lookup name = none) (other : key ≠ name) (full : Json) :
    (found ++ [(key, full)]).lookup name = none := by
  have apart : (name == key) = false := beq_false_of_ne (Ne.symm other)
  simp [List.lookup_append, List.lookup_cons, absent, apart]

/-- Members that have been fitted, once with the default of a field and once without it. -/
structure AlikeBut (name : String) (default : Json) (found filled : List (String × Json)) :
    Prop where
  absent : found.lookup name = none
  present : filled.lookup name = some default
  others : ∀ key, key ≠ name -> filled.lookup key = found.lookup key

theorem AlikeBut.append {name : String} {default : Json} {found filled : List (String × Json)}
    (alike : AlikeBut name default found filled) {key : String} (other : key ≠ name) (full : Json) :
    AlikeBut name default (found ++ [(key, full)]) (filled ++ [(key, full)]) where
  absent := lookup_append_of_ne alike.absent other full
  present := by
    simp [List.lookup_append, alike.present]
  others := fun key' different => by
    rw [List.lookup_append, List.lookup_append, alike.others key' different]

theorem completeFields_alike {name : String} {default : Json} {found filled : List (String × Json)}
    (alike : AlikeBut name default found filled) {fields : List (String × Option Json)}
    (defaults : ∀ field ∈ fields, field.1 = name -> field.2 = some default) :
    completeFields filled fields = completeFields found fields := by
  induction fields with
  | nil => rfl
  | cons field fields inductionHypothesis =>
      have rest := inductionHypothesis fun field member =>
        defaults field (List.mem_cons_of_mem _ member)
      have here : (filled.lookup field.1).or field.2 = (found.lookup field.1).or field.2 := by
        by_cases named : field.1 = name
        · rw [defaults field List.mem_cons_self named, named, alike.present, alike.absent]
          rfl
        · rw [alike.others field.1 named]
      rw [completeFields, completeFields, here, rest]

/-- The rest of the members are fitted alike, if none of them is the field in question. -/
theorem fitMembers_alike {fields : List FieldFit} {name : String} {default : Json}
    (defaults : ∀ field ∈ fields, field.name = name -> field.default = some default)
    {rest : List (String × Json)} (apart : ∀ member ∈ rest, member.1 ≠ name)
    {found filled : List (String × Json)} (alike : AlikeBut name default found filled) :
    fitMembers fields filled rest = fitMembers fields found rest := by
  induction rest generalizing found filled with
  | nil =>
      rw [fitMembers, fitMembers]
      refine completeFields_alike alike fun field member named => ?_
      rcases List.mem_map.mp member with ⟨source, inFields, rfl⟩
      exact defaults source inFields named
  | cons member rest inductionHypothesis =>
      rcases member with ⟨key, value⟩
      have other : key ≠ name := apart _ List.mem_cons_self
      have apart := fun member inRest => apart member (List.mem_cons_of_mem _ inRest)
      rw [fitMembers_cons, fitMembers_cons, alike.others key other]
      cases fields.find? fun field => field.name == key with
      | none => exact inductionHypothesis apart alike
      | some field =>
          dsimp only
          split
          · rfl
          · exact congrArg _ (funext fun full =>
              inductionHypothesis apart (alike.append other full))

/-- A default that is written out is fitted in its place, and adds nothing. -/
theorem fitMembers_absent {fields : List FieldFit} {name : String} {default : Json}
    (known : Exists fun field => field ∈ fields ∧ field.name = name)
    (defaults : ∀ field ∈ fields, field.name = name ->
      field.default = some default ∧ field.fit default = .ok default)
    {front back found : List (String × Json)} (apart : ∀ member ∈ front ++ back, member.1 ≠ name)
    (absent : found.lookup name = none) :
    fitMembers fields found (front ++ (name, default) :: back) =
      fitMembers fields found (front ++ back) := by
  induction front generalizing found with
  | nil =>
      rw [List.nil_append, List.nil_append, fitMembers_cons]
      cases search : fields.find? fun field => field.name == name with
      | none =>
          rcases known with ⟨field, member, named⟩
          exact absurd (beq_iff_eq.mpr named) (List.find?_eq_none.mp search field member)
      | some field =>
          rcases named_of_find search with ⟨member, named⟩
          have fits := defaults field member named
          dsimp only
          rw [absent, fits.2]
          exact fitMembers_alike (fun field member named => (defaults field member named).1) apart
            ⟨absent, by simp [List.lookup_append, absent], fun key other => by
              have different : (key == name) = false := beq_false_of_ne other
              simp [List.lookup_append, List.lookup_cons, different]⟩
  | cons first front inductionHypothesis =>
      rcases first with ⟨key, value⟩
      have other : key ≠ name := apart _ List.mem_cons_self
      have apart := fun member inRest => apart member (List.mem_cons_of_mem _ inRest)
      rw [List.cons_append, List.cons_append, fitMembers_cons, fitMembers_cons]
      cases fields.find? fun field => field.name == key with
      | none => exact inductionHypothesis apart absent
      | some field =>
          dsimp only
          split
          · rfl
          · exact congrArg _ (funext fun full =>
              inductionHypothesis apart (lookup_append_of_ne absent other full))

/-- Members may be exchanged for others that are fitted alike. -/
theorem fitMembers_member {fields : List FieldFit} {name : String} {value written : Json}
    (same : ∀ field ∈ fields, field.name = name -> field.fit value = field.fit written)
    (front back found : List (String × Json)) :
    fitMembers fields found (front ++ (name, value) :: back) =
      fitMembers fields found (front ++ (name, written) :: back) := by
  induction front generalizing found with
  | nil =>
      rw [List.nil_append, List.nil_append, fitMembers_cons, fitMembers_cons]
      cases search : fields.find? fun field => field.name == name with
      | none => rfl
      | some field =>
          rcases named_of_find search with ⟨member, named⟩
          dsimp only
          rw [same field member named]
  | cons first front inductionHypothesis =>
      rcases first with ⟨key, member⟩
      rw [List.cons_append, List.cons_append, fitMembers_cons, fitMembers_cons]
      cases fields.find? fun field => field.name == key with
      | none => exact inductionHypothesis found
      | some field =>
          dsimp only
          split
          · rfl
          · exact congrArg _ (funext fun full => inductionHypothesis (found ++ [(key, full)]))

theorem fitAll_item {fit : Json -> Except ShapeCause Json} {value written : Json}
    (same : fit value = fit written) (front back : List Json) :
    fitAll fit (front ++ value :: back) = fitAll fit (front ++ written :: back) := by
  induction front with
  | nil => rw [List.nil_append, List.nil_append, fitAll_cons, fitAll_cons, same]
  | cons first front inductionHypothesis =>
      rw [List.cons_append, List.cons_append, fitAll_cons, fitAll_cons, inductionHypothesis]

/-- Fitting cannot tell whether defaults are written out. -/
theorem fit_writtenOut {rule : SurplusRule} {shape : Shape} {value written : Json}
    (out : WrittenOut shape value written) (sound : shape.IsSound rule) :
    shape.fit rule value = shape.fit rule written := by
  induction out with
  | same => rfl
  | trans _ _ first second => exact (first sound).trans (second sound)
  | @absent title fields field default front back inFields written apart =>
      have fits := (Fields.sound_of_mem sound.2 field inFields).1 default written
      have known : ⟨field.name, field.default, field.shape.fit rule⟩ ∈ fields.fits rule := by
        rw [Fields.fits_eq]
        exact List.mem_map_of_mem inFields
      rw [Shape.fit, Shape.fit, fitRecord, fitRecord]
      refine congrArg _ (fitMembers_absent ⟨_, known, rfl⟩ ?_ apart rfl).symm
      intro fitting member named
      rcases Fields.fit_of_name sound.1 inFields member named with ⟨sameDefault, sameFit⟩
      exact ⟨sameDefault.trans written, by rw [sameFit, fits]⟩
  | @member title fields field value written front back inFields _ inductionHypothesis =>
      have same := inductionHypothesis (Fields.sound_of_mem sound.2 field inFields).2
      rw [Shape.fit, Shape.fit, fitRecord, fitRecord]
      refine congrArg _ (fitMembers_member ?_ front back [])
      intro fitting member named
      rw [(Fields.fit_of_name sound.1 inFields member named).2, same]
  | item _ inductionHypothesis =>
      rw [Shape.fit, Shape.fit]
      exact congrArg _ (fitAll_item (inductionHypothesis sound) _ _)

/-! ## Complete members -/

/-- A member that fits its field as it is. -/
def IsComplete (field : FieldFit) (member : String × Json) : Prop :=
  field.name = member.1 ∧ field.fit member.2 = .ok member.2

theorem lookup_of_mem {members : List (String × Json)} (apart : (members.map Prod.fst).Nodup)
    {member : String × Json} (inMembers : member ∈ members) :
    members.lookup member.1 = some member.2 := by
  induction members with
  | nil => cases inMembers
  | cons first members inductionHypothesis =>
      rw [List.map_cons, List.nodup_cons] at apart
      rcases List.mem_cons.mp inMembers with rfl | inRest
      · rcases member with ⟨key, value⟩
        rw [List.lookup_cons, beq_self_eq_true]
      · have different : (member.1 == first.1) = false := by
          refine beq_false_of_ne fun same => apart.1 ?_
          rw [← same]
          exact List.mem_map_of_mem inRest
        rcases first with ⟨key, value⟩
        rw [List.lookup_cons, different]
        exact inductionHypothesis apart.2 inRest

theorem completeFields_complete {members found : List (String × Json)}
    (known : ∀ member ∈ members, found.lookup member.1 = some member.2)
    {fields : List FieldFit} (complete : List.Forall₂ IsComplete fields members) :
    completeFields found (fields.map fun field => (field.name, field.default)) = .ok members := by
  induction complete with
  | nil => rfl
  | @cons field member fields members isComplete _ inductionHypothesis =>
      have here := known member List.mem_cons_self
      rw [List.map_cons, completeFields, isComplete.1, here,
        inductionHypothesis fun member inRest => known member (List.mem_cons_of_mem _ inRest)]
      rfl

theorem related_of_mem {α β : Type} {related : α -> β -> Prop} {front : List α} {back : List β}
    (pairs : List.Forall₂ related front back) {a : α} (member : a ∈ front) :
    Exists fun b => b ∈ back ∧ related a b := by
  induction pairs with
  | nil => cases member
  | @cons first b front back pair _ inductionHypothesis =>
      rcases List.mem_cons.mp member with rfl | inRest
      · exact ⟨b, List.mem_cons_self, pair⟩
      · rcases inductionHypothesis inRest with ⟨other, inBack, pair⟩
        exact ⟨other, List.mem_cons_of_mem _ inBack, pair⟩

/-- Members that are complete, in the order of the fields, are fitted to themselves. -/
theorem fitMembers_complete {fields : List FieldFit} {members : List (String × Json)}
    (complete : List.Forall₂ IsComplete fields members)
    (apart : (members.map Prod.fst).Nodup) : fitMembers fields [] members = .ok members := by
  -- The members from the front are found already, those behind are still to be fitted.
  have go : ∀ rest found, found ++ rest = members ->
      fitMembers fields found rest = .ok members := by
    intro rest
    induction rest with
    | nil =>
        intro found whole
        rw [List.append_nil] at whole
        subst whole
        rw [fitMembers]
        exact completeFields_complete (fun member => lookup_of_mem apart) complete
    | cons member rest inductionHypothesis =>
        rcases member with ⟨key, value⟩
        intro found whole
        have next := inductionHypothesis (found ++ [(key, value)]) (by simpa using whole)
        have here : (key, value) ∈ members := by
          rw [← whole]
          exact List.mem_append_right _ List.mem_cons_self
        have absent : found.lookup key = none := by
          refine List.lookup_eq_none_iff.mpr fun other inFound => bne_iff_ne.mpr fun same => ?_
          rw [← whole, List.map_append, List.map_cons] at apart
          exact (List.nodup_append.mp apart).2.2 _ (List.mem_map_of_mem inFound) _
            List.mem_cons_self same.symm
        rw [fitMembers_cons, absent]
        cases search : fields.find? fun field => field.name == key with
        | none =>
            rcases related_of_mem complete.flip here with ⟨field, inFields, named, _⟩
            exact absurd (beq_iff_eq.mpr named) (List.find?_eq_none.mp search field inFields)
        | some field =>
            rcases named_of_find search with ⟨inFields, named⟩
            rcases related_of_mem complete inFields with ⟨other, inMembers, isComplete⟩
            have same := List.inj_on_of_nodup_map apart inMembers here
              (isComplete.1.symm.trans named)
            rw [same] at isComplete
            dsimp only
            rw [isComplete.2]
            exact next
  exact go members [] rfl

/-- A record whose members are complete is its own full form. -/
theorem fit_record_complete {rule : SurplusRule} {title : String} {fields : Fields}
    {members : List (String × Json)}
    (complete : List.Forall₂ IsComplete (fields.fits rule) members)
    (apart : (members.map Prod.fst).Nodup) :
    (Shape.record title fields).fit rule (.object members) = .ok (.object members) := by
  rw [Shape.fit, fitRecord, fitMembers_complete complete apart]
  rfl

/-- A list of full forms is its own full form. -/
theorem fit_list_complete {rule : SurplusRule} {inner : Shape} {items : List Json}
    (complete : ∀ item ∈ items, inner.fit rule item = .ok item) :
    inner.list.fit rule (.list items) = .ok (.list items) := by
  have all : fitAll (inner.fit rule) items = .ok items := by
    induction items with
    | nil => rfl
    | cons item items inductionHypothesis =>
        have rest := inductionHypothesis fun item member =>
          complete item (List.mem_cons_of_mem _ member)
        rw [fitAll_cons, complete item List.mem_cons_self, Except.bind, rest]
        rfl
  rw [Shape.fit, all]
  rfl

theorem fit_dictionary_complete {rule : SurplusRule} {inner : Shape}
    {members : List (String × Json)}
    (complete : ∀ member ∈ members, inner.fit rule member.2 = .ok member.2) :
    inner.dictionary.fit rule (.object members) = .ok (.object members) := by
  have all : fitDictionary (inner.fit rule) members = .ok members := by
    induction members with
    | nil => rfl
    | cons member members inductionHypothesis =>
        rcases member with ⟨key, value⟩
        have here := complete (key, value) List.mem_cons_self
        rw [fitDictionary_cons, here, Except.bind,
          inductionHypothesis fun member inRest => complete member (List.mem_cons_of_mem _ inRest)]
        rfl
  rw [Shape.fit, all]
  rfl

end Json
end Landform
