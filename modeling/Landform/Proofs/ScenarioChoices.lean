import Landform.Proofs.Constants
import Mathlib.Data.List.Induction
import Mathlib.Data.List.Nodup
import Mathlib.Data.List.Perm.Basic
import Mathlib.Order.Lattice

namespace Landform

/-!
# Offered parameters and chosen values

A scenario is made by offering parameters and choosing values, in any order and as often as one
likes.  It keeps two tables, and neither knows of the other: a value may be chosen for an id that
no parameter has, and a parameter may be offered again when there is a value for its id.

What is left of a history is told from the history alone.  The parameters are those of `offered`:
of every id the last one, in the order in which the ids were first offered.  Raising, which is
choosing on the condition that the new value is larger, leaves the largest of all the values it
was given and of the one there was before.  So the order of raising does not matter, whatever
else happens in between, unless the id is given a value outright.  Only the constants bring the
two tables together, and there the parameters lead.
-/

/-! ## Histories -/

/-- What is done to a scenario: a parameter is offered, or a value chosen. -/
inductive ScenarioOperation where
  | define (parameter : Parameter)
  | set (id : String) (value : Int) (onlyIfLarger : Bool)

namespace ScenarioOperation

/-- The parameter that an operation offers. -/
def parameter? : ScenarioOperation -> Option Parameter
  | .define parameter => some parameter
  | .set _ _ _ => none

/-- The value that an operation chooses for an id, outright or not. -/
def valueFor? (id : String) : ScenarioOperation -> Option Int
  | .define _ => none
  | .set chosen value _ => if chosen == id then some value else none

/-- Whether an operation chooses a value for an id on no condition. -/
def choosesOutright (id : String) : ScenarioOperation -> Bool
  | .define _ => false
  | .set chosen _ onlyIfLarger => chosen == id && !onlyIfLarger

end ScenarioOperation

open ScenarioOperation

namespace Scenario

/-- A scenario after an operation. -/
def after (scenario : Scenario) : ScenarioOperation -> Scenario
  | .define parameter => scenario.define parameter
  | .set id value onlyIfLarger => scenario.set id value onlyIfLarger

/-- A scenario after several operations, one after another. -/
def afterAll (scenario : Scenario) (operations : List ScenarioOperation) : Scenario :=
  operations.foldl after scenario

theorem afterAll_cons (scenario : Scenario) (operation : ScenarioOperation)
    (rest : List ScenarioOperation) :
    scenario.afterAll (operation :: rest) = (scenario.after operation).afterAll rest :=
  rfl

/-! ## Offered parameters -/

/-- The parameter that was last offered with an id. -/
def lastOffered? (definitions : List Parameter) (id : String) : Option Parameter :=
  definitions.reverse.find? fun parameter => parameter.id == id

/-- Of every id that was offered the last parameter, in the order of the first ones. -/
def offered (definitions : List Parameter) : List Parameter :=
  (definitions.map Parameter.id).eraseDups.filterMap (lastOffered? definitions)

section

variable {definitions : List Parameter} {parameter : Parameter} {id : String}

theorem lastOffered?_append :
    lastOffered? (definitions ++ [parameter]) id =
      if parameter.id == id then some parameter else lastOffered? definitions id := by
  simp only [lastOffered?, List.reverse_append, List.reverse_singleton, List.singleton_append,
    List.find?_cons]
  cases parameter.id == id <;> rfl

/-- The parameter found for an id has this id. -/
theorem lastOffered?_id (found : lastOffered? definitions id = some parameter) :
    parameter.id = id :=
  beq_iff_eq.mp (List.find?_some found :)

theorem lastOffered?_isSome :
    (lastOffered? definitions id).isSome = true ↔ id ∈ definitions.map Parameter.id := by
  simp only [lastOffered?, List.find?_isSome, List.mem_reverse, beq_iff_eq, List.mem_map]

/-- There is a parameter for every id that was offered, so the ids are all there. -/
theorem offered_ids (definitions : List Parameter) :
    (offered definitions).map Parameter.id = (definitions.map Parameter.id).eraseDups := by
  have own : ∀ ids : List String, (∀ id ∈ ids, id ∈ definitions.map Parameter.id) ->
      (ids.filterMap (lastOffered? definitions)).map Parameter.id = ids := by
    intro ids
    induction ids with
    | nil => exact fun _ => rfl
    | cons id rest inductionHypothesis =>
        intro known
        have there := lastOffered?_isSome.mpr (known id List.mem_cons_self)
        obtain ⟨parameter, found⟩ := Option.isSome_iff_exists.mp there
        rw [List.filterMap_cons_some found, List.map_cons, lastOffered?_id found,
          inductionHypothesis fun other member => known other (List.mem_cons_of_mem id member)]
  exact own _ fun id member => List.mem_eraseDups.mp member

theorem mem_offered_iff :
    parameter ∈ offered definitions ↔ lastOffered? definitions parameter.id = some parameter := by
  unfold offered
  rw [List.mem_filterMap]
  constructor
  · rintro ⟨id, _, found⟩
    rw [lastOffered?_id found]
    exact found
  · intro found
    have named : parameter.id ∈ definitions.map Parameter.id :=
      lastOffered?_isSome.mp (found ▸ rfl)
    exact ⟨parameter.id, List.mem_eraseDups.mpr named, found⟩

/-- An id that is offered again does not change which ids there are. -/
theorem eraseDups_concat (ids : List String) (id : String) :
    (ids ++ [id]).eraseDups = if id ∈ ids then ids.eraseDups else ids.eraseDups ++ [id] := by
  rw [List.eraseDups_append]
  by_cases member : id ∈ ids
  · have known : [id].removeAll ids = [] := by simp [List.removeAll, member]
    rw [if_pos member, known, List.eraseDups_nil, List.append_nil]
  · have fresh : [id].removeAll ids = [id] := by simp [List.removeAll, member]
    rw [if_neg member, fresh, List.eraseDups_cons, List.filter_nil, List.eraseDups_nil]

theorem nodup_eraseDups (ids : List String) : ids.eraseDups.Nodup := by
  induction ids using List.reverseRecOn with
  | nil => exact List.nodup_nil
  | append_singleton ids id inductionHypothesis =>
      rw [eraseDups_concat]
      split
      · exact inductionHypothesis
      · rename_i fresh
        refine List.nodup_append.mpr ⟨inductionHypothesis, List.nodup_singleton id, ?_⟩
        rintro other member _ (_ | ⟨_, ⟨⟩⟩) rfl
        exact fresh (List.mem_eraseDups.mp member)

/-- A parameter with a new id is put behind all others. -/
theorem place_fresh {parameters : List Parameter}
    (fresh : parameter.id ∉ parameters.map Parameter.id) :
    place parameter parameters = parameters ++ [parameter] := by
  induction parameters with
  | nil => rfl
  | cons old rest inductionHypothesis =>
      rw [List.map_cons, List.mem_cons, not_or] at fresh
      have different : ¬(old.id == parameter.id) = true := fun same =>
        fresh.1 (beq_iff_eq.mp same).symm
      rw [place, if_neg different, inductionHypothesis fresh.2, List.cons_append]

/-- A parameter takes the place of the one with its id and of no other. -/
theorem place_known {parameters : List Parameter}
    (distinct : (parameters.map Parameter.id).Nodup)
    (known : parameter.id ∈ parameters.map Parameter.id) :
    place parameter parameters =
      parameters.map fun old => if old.id == parameter.id then parameter else old := by
  induction parameters with
  | nil => cases known
  | cons old rest inductionHypothesis =>
      obtain ⟨alone, restDistinct⟩ := List.nodup_cons.mp distinct
      by_cases same : (old.id == parameter.id) = true
      · have others : ∀ later ∈ rest, (if later.id == parameter.id then parameter else later) =
            later := fun later member => by
          refine if_neg fun again => alone ?_
          rw [beq_iff_eq.mp same, ← beq_iff_eq.mp again]
          exact List.mem_map_of_mem member
        rw [place, if_pos same, List.map_cons, if_pos same, List.map_congr_left others,
          List.map_id']
      · have later : parameter.id ∈ rest.map Parameter.id :=
          (List.mem_cons.mp known).resolve_left fun first => same (beq_iff_eq.mpr first.symm)
        rw [place, if_neg same, List.map_cons, if_neg same,
          inductionHypothesis restDistinct later]

/-- Offering one parameter more is putting it in its place. -/
theorem offered_concat (definitions : List Parameter) (parameter : Parameter) :
    offered (definitions ++ [parameter]) = place parameter (offered definitions) := by
  have ids := offered_ids definitions
  have distinct : ((offered definitions).map Parameter.id).Nodup := by
    rw [ids]
    exact nodup_eraseDups _
  have listed : parameter.id ∈ (offered definitions).map Parameter.id ↔
      parameter.id ∈ definitions.map Parameter.id := by
    rw [ids, List.mem_eraseDups]
  by_cases known : parameter.id ∈ definitions.map Parameter.id
  · rw [place_known distinct (listed.mpr known), offered, offered, List.map_append,
      List.map_singleton, eraseDups_concat, if_pos known, List.map_filterMap]
    refine List.filterMap_congr fun id member => ?_
    obtain ⟨old, found⟩ := Option.isSome_iff_exists.mp
      (lastOffered?_isSome.mpr (List.mem_eraseDups.mp member))
    rw [lastOffered?_append, found, Option.map_some, lastOffered?_id found, BEq.comm]
    split <;> rfl
  · have others : ∀ id ∈ (definitions.map Parameter.id).eraseDups,
        lastOffered? (definitions ++ [parameter]) id = lastOffered? definitions id := by
      intro id member
      rw [lastOffered?_append]
      refine if_neg fun same => known ?_
      rw [beq_iff_eq.mp same]
      exact List.mem_eraseDups.mp member
    have own : lastOffered? (definitions ++ [parameter]) parameter.id = some parameter := by
      rw [lastOffered?_append, BEq.rfl, if_pos rfl]
    rw [place_fresh fun member => known (listed.mp member), offered, offered, List.map_append,
      List.map_singleton, eraseDups_concat, if_neg known, List.filterMap_append,
      List.filterMap_congr others, List.filterMap_cons_some own, List.filterMap_nil]

/-- Parameters that are offered one after another are all there is. -/
theorem foldl_define (definitions : List Parameter) :
    definitions.foldl define {} = { parameters := offered definitions } := by
  induction definitions using List.reverseRecOn with
  | nil => rfl
  | append_singleton definitions parameter inductionHypothesis =>
      rw [List.foldl_append, offered_concat, inductionHypothesis]
      rfl

end

/-! ## Chosen values -/

section

variable (scenario : Scenario) {id known : String} {value : Int} {onlyIfLarger : Bool}

theorem set_parameters : (scenario.set id value onlyIfLarger).parameters = scenario.parameters := by
  unfold set
  split <;> rfl

theorem set_outright : (scenario.set id value false).values.find? id = some value := by
  unfold set keepsValue
  rw [Bool.false_and, if_neg Bool.false_ne_true, SortedMap.find?_insert, BEq.rfl, if_pos rfl]

/-- Raising leaves the larger one of the new value and the one before, if there is one. -/
theorem set_raised : (scenario.set id value true).values.find? id =
    ((scenario.values.find? id).toList ++ [value]).max? := by
  unfold set keepsValue
  rw [Bool.true_and]
  cases before : scenario.values.find? id with
  | none =>
      rw [if_neg Bool.false_ne_true, SortedMap.find?_insert, BEq.rfl, if_pos rfl]
      rfl
  | some current =>
      have larger : ((some current).toList ++ [value]).max? = some (max current value) := rfl
      rw [larger]
      by_cases small : value ≤ current
      · rw [if_pos (decide_eq_true small), before, max_eq_left small]
      · rw [if_neg fun holds => small (of_decide_eq_true holds), SortedMap.find?_insert, BEq.rfl,
          if_pos rfl, max_eq_right (Int.le_of_lt (Int.not_le.mp small))]

theorem set_other (different : known ≠ id) :
    (scenario.set id value onlyIfLarger).values.find? known = scenario.values.find? known := by
  have apart : ¬(known == id) = true := fun same => different (beq_iff_eq.mp same)
  unfold set
  split
  · rfl
  · rw [SortedMap.find?_insert, if_neg apart]

/-- However a value is chosen, there is one then. -/
theorem set_isSome : ((scenario.set id value onlyIfLarger).values.find? id).isSome = true := by
  cases onlyIfLarger with
  | false => rw [set_outright, Option.isSome_some]
  | true =>
      rw [set_raised]
      cases scenario.values.find? id <;> rfl

end

/-- A value is there if one was there before or one was chosen. -/
theorem find?_afterAll_isSome (scenario : Scenario) (operations : List ScenarioOperation)
    (id : String) :
    ((scenario.afterAll operations).values.find? id).isSome = true ↔
      (scenario.values.find? id).isSome = true ∨ operations.filterMap (valueFor? id) ≠ [] := by
  induction operations generalizing scenario with
  | nil => simp only [afterAll, List.foldl_nil, List.filterMap_nil, ne_eq, not_true, or_false]
  | cons operation rest inductionHypothesis =>
      rw [afterAll_cons, inductionHypothesis]
      cases operation with
      | define parameter => exact Iff.rfl
      | set chosen value onlyIfLarger =>
          by_cases same : chosen = id
          · subst same
            have given : (ScenarioOperation.set chosen value onlyIfLarger).valueFor? chosen =
                some value := if_pos BEq.rfl
            rw [List.filterMap_cons_some given]
            exact iff_of_true (.inl (set_isSome scenario)) (.inr (List.cons_ne_nil _ _))
          · have none : (ScenarioOperation.set chosen value onlyIfLarger).valueFor? id = none :=
              if_neg fun equal => same (beq_iff_eq.mp equal)
            rw [List.filterMap_cons_none none, after, set_other scenario (Ne.symm same)]

/-- **Raising leaves the largest value.**  As long as an id is given no value outright, its value
is the largest of all it was given and of the one before. -/
theorem find?_afterAll_of_raised (scenario : Scenario) {operations : List ScenarioOperation}
    {id : String} (raised : ∀ operation ∈ operations, operation.choosesOutright id = false) :
    (scenario.afterAll operations).values.find? id =
      ((scenario.values.find? id).toList ++ operations.filterMap (valueFor? id)).max? := by
  induction operations generalizing scenario with
  | nil =>
      rw [List.filterMap_nil, List.append_nil]
      cases found : scenario.values.find? id <;> exact found
  | cons operation rest inductionHypothesis =>
      have first := raised operation List.mem_cons_self
      rw [afterAll_cons, inductionHypothesis (scenario.after operation) fun other member =>
        raised other (List.mem_cons_of_mem operation member)]
      cases operation with
      | define parameter => rfl
      | set chosen value onlyIfLarger =>
          by_cases same : chosen = id
          · subst same
            have only : onlyIfLarger = true := by
              rw [choosesOutright, BEq.rfl, Bool.true_and, Bool.not_eq_false'] at first
              exact first
            have given : (ScenarioOperation.set chosen value onlyIfLarger).valueFor? chosen =
                some value := if_pos BEq.rfl
            -- The largest of several values is found one by one, so the first two may be merged.
            rw [List.filterMap_cons_some given, after, only, set_raised]
            cases scenario.values.find? chosen <;> rfl
          · have none : (ScenarioOperation.set chosen value onlyIfLarger).valueFor? id = none :=
              if_neg fun equal => same (beq_iff_eq.mp equal)
            rw [List.filterMap_cons_none none, after, set_other scenario (Ne.symm same)]

/-- The largest of several values does not depend on their order. -/
theorem max?_of_perm {values others : List Int} (perm : values.Perm others) :
    values.max? = others.max? := by
  ext value
  rw [List.max?_eq_some_iff, List.max?_eq_some_iff, perm.mem_iff]
  simp only [perm.mem_iff]

/-- The order of raising does not matter. -/
theorem find?_afterAll_of_perm (scenario : Scenario) {operations others : List ScenarioOperation}
    {id : String} (raised : ∀ operation ∈ operations, operation.choosesOutright id = false)
    (perm : operations.Perm others) :
    (scenario.afterAll operations).values.find? id =
      (scenario.afterAll others).values.find? id := by
  have raisedThere : ∀ operation ∈ others, operation.choosesOutright id = false :=
    fun operation member => raised operation (perm.mem_iff.mpr member)
  rw [find?_afterAll_of_raised scenario raised, find?_afterAll_of_raised scenario raisedThere]
  exact max?_of_perm ((perm.filterMap _).append_left _)

/-! ## What a value has no part in -/

/-- Scenarios that differ in the value of an id at most. -/
structure AlikeBut (id : String) (scenario other : Scenario) : Prop where
  parameters : scenario.parameters = other.parameters
  values : ∀ known, known ≠ id -> scenario.values.find? known = other.values.find? known

section

variable {scenario other : Scenario} {id : String}

theorem AlikeBut.refl (id : String) (scenario : Scenario) : AlikeBut id scenario scenario :=
  ⟨rfl, fun _ _ => rfl⟩

/-- A value chosen for the id makes no difference that is not there already. -/
theorem AlikeBut.set_left (alike : AlikeBut id scenario other) (value : Int)
    (onlyIfLarger : Bool) : AlikeBut id (scenario.set id value onlyIfLarger) other where
  parameters := (set_parameters scenario).trans alike.parameters
  values known different := (set_other scenario different).trans (alike.values known different)

/-- An operation that has nothing to do with the id makes no difference either. -/
theorem AlikeBut.after (alike : AlikeBut id scenario other) {operation : ScenarioOperation}
    (without : operation.valueFor? id = none) :
    AlikeBut id (scenario.after operation) (other.after operation) := by
  cases operation with
  | define parameter =>
      exact ⟨congrArg (place parameter) alike.parameters, alike.values⟩
  | set chosen value onlyIfLarger =>
      have different : chosen ≠ id := by
        rintro rfl
        rw [valueFor?, BEq.rfl, if_pos rfl] at without
        cases without
      have keeps : scenario.keepsValue chosen value onlyIfLarger =
          other.keepsValue chosen value onlyIfLarger := by
        rw [keepsValue, keepsValue, alike.values chosen different]
      refine ⟨?_, fun known apart => ?_⟩
      · exact (set_parameters scenario).trans
          (alike.parameters.trans (set_parameters other).symm)
      · simp only [Scenario.after, set, keeps]
        split
        · exact alike.values known apart
        · rw [SortedMap.find?_insert, SortedMap.find?_insert, alike.values known apart]

/-- The values that are chosen for an id touch nothing else: all else is as if they had not been
chosen at all. -/
theorem AlikeBut.afterAll (alike : AlikeBut id scenario other)
    (operations : List ScenarioOperation) :
    AlikeBut id (scenario.afterAll operations)
      (other.afterAll (operations.filter fun operation => (operation.valueFor? id).isNone)) := by
  induction operations generalizing scenario other with
  | nil => exact alike
  | cons operation rest inductionHypothesis =>
      cases chosen : operation.valueFor? id with
      | none =>
          rw [List.filter_cons_of_pos (by rw [chosen, Option.isNone_none])]
          exact inductionHypothesis (alike.after chosen)
      | some value =>
          rw [List.filter_cons_of_neg (by rw [chosen]; exact Bool.false_ne_true)]
          refine inductionHypothesis ?_
          cases operation with
          | define parameter => cases chosen
          | set named value onlyIfLarger =>
              rw [valueFor?] at chosen
              split at chosen
              · rename_i same
                rw [← beq_iff_eq.mp same] at alike ⊢
                exact alike.set_left value onlyIfLarger
              · cases chosen

end

/-! ## What a history comes to -/

/-- Choosing values offers no parameters. -/
theorem afterAll_parameters (operations : List ScenarioOperation) :
    (afterAll {} operations).parameters = offered (operations.filterMap parameter?) := by
  induction operations using List.reverseRecOn with
  | nil => rfl
  | append_singleton operations operation inductionHypothesis =>
      rw [afterAll, List.foldl_append, List.filterMap_append]
      cases operation with
      | define parameter =>
          rw [List.filterMap_cons_some (rfl : parameter? (.define parameter) = some parameter),
            List.filterMap_nil, offered_concat, ← inductionHypothesis]
          rfl
      | set id value onlyIfLarger =>
          rw [List.filterMap_cons_none (rfl : parameter? (.set id value onlyIfLarger) = none),
            List.filterMap_nil, List.append_nil, ← inductionHypothesis]
          exact set_parameters _

/-- The constant of a parameter has the value chosen for its id, or else its own default. -/
theorem constants_of_offered {scenario : Scenario} {definitions : List Parameter}
    (parameters : scenario.parameters = offered definitions) :
    scenario.constants =
      (definitions.map Parameter.id).eraseDups.filterMap fun id =>
        (lastOffered? definitions id).map fun parameter =>
          ⟨"SCENPAR_" ++ id, (scenario.values.find? id).getD parameter.default⟩ := by
  rw [constants, parameters, offered, List.map_filterMap]
  refine List.filterMap_congr fun id member => ?_
  cases found : lastOffered? definitions id with
  | none => rfl
  | some parameter =>
      rw [Option.map_some, Option.map_some, lastOffered?_id found]
      rfl

/-- **A history decides.**  Parameters are offered and values chosen, beginning with nothing.  Then
the ids of the parameters are distinct and stand in the order in which they were first offered,
and each parameter is the last that was offered with its id.  There is a value for an id just if
one was ever chosen.

A value that is chosen outright is the value of its id.  As long as an id is given no value
outright, whatever else is done, its value becomes the largest of all it is given and of the one
there was, in whatever order this is done.  Nothing else is touched by the values of an id.

There is one constant for each id that was offered and for no other, in the same order.  It has
the value of the id, or else the default of the last parameter that was offered with it. -/
theorem history_decides (operations run : List ScenarioOperation) (id : String) :
    let scenario := afterAll {} operations
    let definitions := operations.filterMap parameter?
    let later := scenario.afterAll run
    (scenario.parameters.map Parameter.id).Nodup ∧
      scenario.parameters.map Parameter.id = (definitions.map Parameter.id).eraseDups ∧
      (∀ parameter ∈ scenario.parameters,
        lastOffered? definitions parameter.id = some parameter) ∧
      ((scenario.values.find? id).isSome = true ↔ operations.filterMap (valueFor? id) ≠ []) ∧
      (∀ value, (scenario.set id value false).values.find? id = some value) ∧
      ((∀ operation ∈ run, operation.choosesOutright id = false) ->
        later.values.find? id =
            ((scenario.values.find? id).toList ++ run.filterMap (valueFor? id)).max? ∧
          ∀ order, run.Perm order ->
            (scenario.afterAll order).values.find? id = later.values.find? id) ∧
      AlikeBut id later
        (scenario.afterAll (run.filter fun operation => (operation.valueFor? id).isNone)) ∧
      scenario.constants =
        ((definitions.map Parameter.id).eraseDups.filterMap fun offered =>
          (lastOffered? definitions offered).map fun parameter =>
            ⟨"SCENPAR_" ++ offered, (scenario.values.find? offered).getD parameter.default⟩) ∧
      scenario.constants.map NamedConstant.name =
        (definitions.map Parameter.id).eraseDups.map ("SCENPAR_" ++ ·) := by
  intro scenario definitions later
  have parameters : scenario.parameters = offered definitions := afterAll_parameters operations
  have ids : scenario.parameters.map Parameter.id = (definitions.map Parameter.id).eraseDups := by
    rw [parameters, offered_ids]
  have names : scenario.constants.map NamedConstant.name =
      (definitions.map Parameter.id).eraseDups.map ("SCENPAR_" ++ ·) := by
    rw [Session.constants_names, ids]
    rfl
  refine ⟨?_, ids, ?_, ?_, fun value => set_outright scenario, ?_, ?_,
    constants_of_offered parameters, names⟩
  · rw [ids]
    exact nodup_eraseDups _
  · intro parameter member
    rw [parameters] at member
    exact mem_offered_iff.mp member
  · refine (find?_afterAll_isSome {} operations id).trans (or_iff_right ?_)
    exact Bool.false_ne_true
  · intro raised
    refine ⟨find?_afterAll_of_raised scenario raised, fun order perm => ?_⟩
    exact (find?_afterAll_of_perm scenario raised perm).symm
  · exact (AlikeBut.refl id scenario).afterAll run

/-- A size and a difficulty are offered, the size once more, and a value is chosen for something
that is not offered. -/
def setUpOperations : List ScenarioOperation :=
  [.define { id := "Size", default := 1 }, .set "Size" 2 false, .define { id := "Level" },
    .set "Other" 9 true, .define { id := "Size", default := 4 }]

/-- The size is raised twice while the size is offered anew and something else is chosen. -/
def raisingOperations : List ScenarioOperation :=
  [.set "Size" 7 true, .set "Other" 1 false, .define { id := "Size", default := 5 },
    .set "Size" 3 true]

theorem history_decides_raising :
    let scenario := afterAll {} setUpOperations
    (∀ operation ∈ raisingOperations, operation.choosesOutright "Size" = false) ∧
      scenario.parameters.map Parameter.id = ["Size", "Level"] ∧
      (scenario.afterAll raisingOperations).values.find? "Size" = some 7 ∧
      scenario.constants = [⟨"SCENPAR_Size", 2⟩, ⟨"SCENPAR_Level", 0⟩] := by
  intro scenario
  have raised : ∀ operation ∈ raisingOperations, operation.choosesOutright "Size" = false := by
    decide
  obtain ⟨_, ids, _, _, _, raises, _, constants, _⟩ :=
    history_decides setUpOperations raisingOperations "Size"
  exact ⟨raised, ids.trans (by decide), (raises raised).1.trans (by decide),
    constants.trans (by decide)⟩

end Scenario

end Landform
