import Landform.Proofs.Continuation
import Landform.Proofs.Transcripts
import Mathlib.Data.List.Nodup

namespace Landform

open Script

variable {language : Language}

/-!
# Constants, registered and linked

A constant that is registered waits for the next link.  A link takes up the constants that wait,
one after another, and from then on scripts and the host see the first value each name was
registered with; the constants of every session come before all of them.  A registration of a
name that has a value already changes nothing and is reported once, by the link that takes it
up.

What scripts may see at any time is so decided by the registrations since the session was set
up, and by which of them a link has taken up.  `Registrations` keeps account of just that,
without maps and without a session; `afterAll_accounts` says that every session keeps the same
account.
-/

/-! ## The account of registrations -/

/-- The constants registered since a session was set up, in order: those that a link has taken
up, and those that wait for the next one. -/
structure Registrations where
  taken : List NamedConstant := []
  waiting : List NamedConstant := []

namespace Registrations

/-- All registrations, in order. -/
def all (registrations : Registrations) : List NamedConstant :=
  registrations.taken ++ registrations.waiting

/-- The registrations after an operation. -/
def after (registrations : Registrations) : SessionOperation -> Registrations
  | .addConstant constant =>
      { registrations with waiting := registrations.waiting ++ [constant] }
  | .link => { taken := registrations.all }
  | _ => registrations

/-- The registrations that operations amount to. -/
def of (operations : List SessionOperation) : Registrations :=
  operations.foldl after {}

end Registrations

theorem Definitions.constants_cons (constant : NamedConstant) (rest : List NamedConstant)
    (constants : SortedMap Int) :
    (Definitions.of (constant :: rest) constants).constants =
      if constants.contains constant.name then (Definitions.of rest constants).constants
      else (Definitions.of rest (constants.insert constant.name constant.value)).constants := by
  simp only [Definitions.of, Session.defineConstants]
  split
  · rw [defineConstants_eq]
    rfl
  · rfl

namespace Session

/-- The value of a name among registrations: that of a constant of every session, or else the
first one it was registered with. -/
def valueAmong (registered : List NamedConstant) (name : String) : Option Int :=
  (builtInConstants.find? name).or
    ((registered.find? fun constant => constant.name == name).map NamedConstant.value)

/-- The names of the registrations, behind earlier ones, whose name has a value already. -/
def repeats : (earlier waiting : List NamedConstant) -> List String
  | _, [] => []
  | earlier, constant :: rest =>
      let later := repeats (earlier ++ [constant]) rest
      if (valueAmong earlier constant.name).isSome then constant.name :: later else later

theorem valueAmong_concat (registered : List NamedConstant) (constant : NamedConstant)
    (name : String) :
    valueAmong (registered ++ [constant]) name =
      (valueAmong registered name).or
        (if constant.name == name then some constant.value else none) := by
  unfold valueAmong
  rw [List.find?_append, List.find?_singleton, Option.map_or, Option.or_assoc]
  congr 2
  split <;> rfl

/-! ## Taking up what waits -/

/-- A map of constants has the values of the registrations that were taken up. -/
def Tells (constants : SortedMap Int) (registered : List NamedConstant) : Prop :=
  ∀ name, constants.find? name = valueAmong registered name

theorem builtIn_tells : Tells builtInConstants [] := by
  intro name
  rw [valueAmong, List.find?_nil, Option.map_none, Option.or_none]

/-- A repeated registration changes no value. -/
theorem Tells.repeated {constants : SortedMap Int} {registered : List NamedConstant}
    (tells : Tells constants registered) {constant : NamedConstant}
    (known : constants.contains constant.name = true) :
    Tells constants (registered ++ [constant]) := by
  intro name
  rw [valueAmong_concat, ← tells name]
  cases same : constant.name == name with
  | false => simp only [Bool.false_eq_true, if_false, Option.or_none]
  | true =>
      rw [SortedMap.contains, beq_iff_eq.mp same] at known
      rw [Option.or_of_isSome known]

/-- A registration of a name without a value gives it one. -/
theorem Tells.inserted {constants : SortedMap Int} {registered : List NamedConstant}
    (tells : Tells constants registered) {constant : NamedConstant}
    (free : constants.contains constant.name = false) :
    Tells (constants.insert constant.name constant.value) (registered ++ [constant]) := by
  intro name
  rw [valueAmong_concat, ← tells name, SortedMap.find?_insert, BEq.comm]
  cases same : constant.name == name with
  | false => simp only [Bool.false_eq_true, if_false, Option.or_none]
  | true =>
      rw [SortedMap.contains, beq_iff_eq.mp same, Option.isSome_eq_false_iff,
        Option.isNone_iff_eq_none] at free
      rw [free]
      rfl

/-- Defining constants takes up their registrations, and reports those that are repeats. -/
theorem definitions_tell (waiting : List NamedConstant) {registered : List NamedConstant}
    {constants : SortedMap Int} (tells : Tells constants registered) :
    Tells (Definitions.of waiting constants).constants (registered ++ waiting) ∧
      (Definitions.of waiting constants).repeated =
        (repeats registered waiting).map repeatedConstant := by
  induction waiting generalizing registered constants with
  | nil =>
      rw [List.append_nil]
      exact ⟨tells, rfl⟩
  | cons constant rest inductionHypothesis =>
      rw [Definitions.repeated_cons, Definitions.constants_cons, repeats, ← tells constant.name,
        ← SortedMap.contains, ← List.singleton_append, ← List.append_assoc]
      cases known : constants.contains constant.name with
      | true =>
          rcases inductionHypothesis (tells.repeated known) with ⟨told, reported⟩
          exact ⟨told, congrArg (repeatedConstant constant.name :: ·) reported⟩
      | false => exact inductionHypothesis (tells.inserted known)

/-! ## The account a session keeps -/

/-- A session that is set up has the constants taken up, and those that wait are pending. -/
structure Accounts (session : Session language) (registrations : Registrations) : Prop where
  isSetUp : session.isSetUp = true
  pending : session.pending = registrations.waiting
  constants : Tells session.constants registrations.taken

/-- Setting up discards what was registered before. -/
theorem setUp_accounts (session : Session language) : session.setUp.Accounts {} where
  isSetUp := rfl
  pending := rfl
  constants := builtIn_tells

theorem link_accounts {session : Session language} {registrations : Registrations}
    (accounts : session.Accounts registrations) :
    session.link.2.Accounts (registrations.after .link) := by
  rcases Option.isSome_iff_exists.mp accounts.isSetUp with ⟨engine, there⟩
  rw [link_eq there]
  refine ⟨rfl, rfl, ?_⟩
  change Tells (Definitions.of session.pending session.constants).constants
    (registrations.taken ++ registrations.waiting)
  rw [← accounts.pending]
  exact (definitions_tell session.pending accounts.constants).1

theorem after_accounts {session : Session language} {registrations : Registrations}
    (accounts : session.Accounts registrations) {operation : SessionOperation}
    (goesOn : operation.goesOn = true) :
    (session.after operation).Accounts (registrations.after operation) := by
  have isSetUp : (session.after operation).isSetUp = true := by
    rcases Option.isSome_iff_exists.mp accounts.isSetUp with ⟨engine, there⟩
    rcases after_continues there goesOn with ⟨next, here, _⟩
    rw [Session.isSetUp, here]
    rfl
  cases operation with
  | setUp | takeDown => cases goesOn
  | link => exact link_accounts accounts
  | addConstant constant =>
      have pending := congrArg (· ++ [constant]) accounts.pending
      exact ⟨isSetUp, pending, accounts.constants⟩
  | registerArchive archive =>
      rcases session.registerArchive_frame archive with ⟨cached, frame⟩
      rw [after, frame]
      exact ⟨accounts.isSetUp, accounts.pending, accounts.constants⟩
  | load role script =>
      rcases session.load_frame role script with ⟨engine?, journal, frame⟩
      rw [after, frame] at isSetUp ⊢
      exact ⟨isSetUp, accounts.pending, accounts.constants⟩
  | callEntryPoint format resolver players =>
      rcases session.callEntryPoint_frame format resolver players with
        ⟨engine?, lines, journal, frame⟩
      rw [after, frame] at isSetUp ⊢
      exact ⟨isSetUp, accounts.pending, accounts.constants⟩
  | callAlgorithm function x y =>
      rcases session.callAlgorithm_frame function x y with ⟨engine?, lines, journal, frame⟩
      rw [after, frame] at isSetUp ⊢
      exact ⟨isSetUp, accounts.pending, accounts.constants⟩
  | register _ | withPlayers _ | withTeams _ | takeLines | report _ | clearJournal =>
      exact ⟨accounts.isSetUp, accounts.pending, accounts.constants⟩

/-- Whatever is done between two settings up, the session keeps the account. -/
theorem afterAll_accounts {session : Session language} {registrations : Registrations}
    (accounts : session.Accounts registrations) {operations : List SessionOperation}
    (goesOn : ∀ operation ∈ operations, operation.goesOn = true) :
    (session.afterAll operations).Accounts (operations.foldl Registrations.after registrations) := by
  induction operations generalizing session registrations with
  | nil => exact accounts
  | cons operation rest inductionHypothesis =>
      exact inductionHypothesis (after_accounts accounts (goesOn operation List.mem_cons_self))
        fun other member => goesOn other (List.mem_cons_of_mem operation member)

/-- A link reports the repeats among what waits, and then why the start has failed, if it has. -/
theorem reported_link {session : Session language} {registrations : Registrations}
    (accounts : session.Accounts registrations) {engine : Engine language}
    (there : session.engine? = some engine) :
    session.reported .link =
      (repeats registrations.taken registrations.waiting).map repeatedConstant ++
        (session.linking engine).failure?.toList := by
  have repeated := (definitions_tell session.pending accounts.constants).2
  rw [accounts.pending] at repeated
  have silent : (session.linking engine).start.notes = [] := exchange_notes_nil _
  have diagnostics : (session.linking engine).diagnostics =
      (session.linking engine).repeated ++ (session.linking engine).failure?.toList := by
    rw [Linking.diagnostics, silent, List.append_nil]
  rw [reported, after, link_eq there, linkedBy, Journal.since_append, diagnostics, ← repeated]
  simp only [linking, accounts.pending]

end Session

/-! ## What scripts read -/

namespace Script

section

variable {surroundings : Surroundings} {name : String}
variable (noFunction : (surroundings.program.functions.any fun function =>
  function.name == name) = false)

include noFunction

/-- A name that is no function's reads as the constant, whatever variables there are. -/
theorem readName_constant {value : Int} (known : surroundings.constant? name = some value)
    (place : Place) (memory : Memory) :
    readName name place surroundings memory = .done (.ok (.integer value), memory) := by
  simp only [readName, readShared, meaningOf?, bind, Run.andThen, Run.surroundings, Run.memory,
    Dialogue.bind, noFunction, Bool.and_false, Bool.false_eq_true, if_false, known, pure,
    Run.value, Memory.behind]

/-- A name of nothing at all cannot be read. -/
theorem readName_nothing (unknown : surroundings.constant? name = none) (place : Place)
    {memory : Memory} (noVariable : findVariable name memory.visible = none) :
    readName name place surroundings memory =
      Run.fail (.noVariable name) place surroundings memory := by
  simp only [readName, readShared, meaningOf?, bind, Run.andThen, Run.surroundings, Run.memory,
    Dialogue.bind, noFunction, Bool.and_false, Bool.false_eq_true, if_false, unknown, noVariable,
    pure, Run.value, Option.map_none, Run.fail, Run.stop]

end

end Script

namespace Session

/-- What a session shows of its constants and tells its scripts is what registrations amount to.
A script reads it, whatever its variables are, under each name that no function of it bears. -/
structure ShowsConstants (session : Session language) (registered : List NamedConstant) :
    Prop where
  constant? : ∀ name, session.constant? name = valueAmong registered name
  told : ∀ name, session.setting.constant? name = valueAmong registered name
  reads : ∀ (program : Program) (name : String) (value : Int) (place : Place) (memory : Memory),
    (program.functions.any fun function => function.name == name) = false ->
      valueAmong registered name = some value ->
        readName name place (session.setting.surroundings program) memory =
          .done (.ok (.integer value), memory)
  readsNothing : ∀ (program : Program) (name : String) (place : Place) (memory : Memory),
    (program.functions.any fun function => function.name == name) = false ->
      valueAmong registered name = none -> findVariable name memory.visible = none ->
        readName name place (session.setting.surroundings program) memory =
          Run.fail (.noVariable name) place (session.setting.surroundings program) memory

theorem Tells.shows {session : Session language} {registered : List NamedConstant}
    (tells : Tells session.constants registered) : session.ShowsConstants registered where
  constant? := tells
  told := tells
  reads _ name _ place memory noFunction known :=
    readName_constant noFunction ((tells name).trans known) place memory
  readsNothing _ name place _ noFunction unknown noVariable :=
    readName_nothing noFunction ((tells name).trans unknown) place noVariable

/-! ## Constants of a scenario -/

theorem addScenario_eq_afterAll (session : Session language) (scenario : Scenario) :
    session.addScenario scenario = session.afterAll (scenario.constants.map .addConstant) := by
  rw [addScenario, afterAll, List.foldl_map]
  rfl

/-- The name of no parameter's constant is that of a constant of every session. -/
theorem builtIn_marked (id : String) :
    builtInConstants.find? (Scenario.constantMark ++ id) = none := by
  have different : ∀ name : String, name.toList.head? = some 'M' ->
      (Scenario.constantMark ++ id == name) = false := by
    intro name starts
    apply Bool.eq_false_iff.mpr
    intro same
    rw [← beq_iff_eq.mp same, String.toList_append] at starts
    cases starts
  unfold builtInConstants SortedMap.ofList
  simp only [List.foldl_cons, List.foldl_nil, SortedMap.find?_insert]
  rw [different _ (by decide), different _ (by decide)]
  rfl

theorem constants_names (scenario : Scenario) :
    scenario.constants.map NamedConstant.name =
      (scenario.parameters.map Parameter.id).map (Scenario.constantMark ++ ·) := by
  rw [Scenario.constants, List.map_map, List.map_map]
  rfl

/-- Parameters of different ids give constants of different names. -/
theorem constants_apart {scenario : Scenario}
    (distinct : (scenario.parameters.map Parameter.id).Nodup) :
    (scenario.constants.map NamedConstant.name).Nodup := by
  rw [constants_names]
  refine distinct.map ?_
  intro first second same
  have characters := congrArg String.toList same
  rw [String.toList_append, String.toList_append] at characters
  exact String.toList_inj.mp (List.append_cancel_left characters)

/-- Among registrations of different names, none of a constant of every session, there are no
repeats. -/
theorem repeats_eq_nil {earlier waiting : List NamedConstant}
    (free : ∀ constant ∈ waiting, builtInConstants.find? constant.name = none)
    (apart : ((earlier ++ waiting).map NamedConstant.name).Nodup) :
    repeats earlier waiting = [] := by
  induction waiting generalizing earlier with
  | nil => rfl
  | cons constant rest inductionHypothesis =>
      have unknown : valueAmong earlier constant.name = none := by
        rw [valueAmong, free constant List.mem_cons_self, Option.none_or, Option.map_eq_none_iff,
          List.find?_eq_none]
        intro other member same
        rw [List.map_append, List.nodup_append] at apart
        exact apart.2.2 other.name (List.mem_map_of_mem member) constant.name
          (List.mem_map_of_mem List.mem_cons_self) (beq_iff_eq.mp same)
      rw [← List.singleton_append, ← List.append_assoc] at apart
      have later := inductionHypothesis
        (fun other member => free other (List.mem_cons_of_mem constant member)) apart
      rw [repeats, unknown, later]
      rfl

/-- A registration among others of different names gives its name its value. -/
theorem valueAmong_of_mem {registered : List NamedConstant} {constant : NamedConstant}
    (member : constant ∈ registered)
    (free : builtInConstants.find? constant.name = none)
    (apart : (registered.map NamedConstant.name).Nodup) :
    valueAmong registered constant.name = some constant.value := by
  have found : (registered.find? fun other => other.name == constant.name).isSome = true :=
    List.find?_isSome.mpr ⟨constant, member, BEq.rfl⟩
  rcases Option.isSome_iff_exists.mp found with ⟨other, first⟩
  have named : other.name = constant.name := beq_iff_eq.mp (List.find?_some first :)
  have same : other = constant :=
    List.inj_on_of_nodup_map apart (List.mem_of_find?_eq_some first) member named
  rw [valueAmong, free, first, same]
  rfl

/-- What the registrations of a scenario with parameters of different ids come to. -/
theorem scenario_defines {scenario : Scenario}
    (distinct : (scenario.parameters.map Parameter.id).Nodup) :
    (∀ parameter ∈ scenario.parameters,
        valueAmong scenario.constants (Scenario.constantMark ++ parameter.id) =
          some (scenario.get parameter.id parameter.default)) ∧
      ∀ name, (∀ parameter ∈ scenario.parameters, name ≠ Scenario.constantMark ++ parameter.id) ->
        valueAmong scenario.constants name = builtInConstants.find? name := by
  constructor
  · intro parameter member
    have registered : ⟨Scenario.constantMark ++ parameter.id,
        scenario.get parameter.id parameter.default⟩ ∈ scenario.constants :=
      List.mem_map_of_mem member
    exact valueAmong_of_mem registered (builtIn_marked parameter.id) (constants_apart distinct)
  · intro name other
    have unregistered : (scenario.constants.find? fun constant => constant.name == name) = none := by
      rw [List.find?_eq_none]
      intro constant member same
      rcases List.mem_map.mp member with ⟨parameter, offered, rfl⟩
      exact other parameter offered (beq_iff_eq.mp same).symm
    rw [valueAmong, unregistered, Option.map_none, Option.or_none]

/-- No link finds repeats while parameters of different ids are all that is registered. -/
theorem scenario_repeats {scenario : Scenario}
    (distinct : (scenario.parameters.map Parameter.id).Nodup) {registrations : Registrations}
    (onlyParameters : registrations.all <+: scenario.constants) :
    repeats registrations.taken registrations.waiting = [] := by
  refine repeats_eq_nil ?_ ?_
  · intro constant member
    have offered := onlyParameters.subset (List.mem_append_right registrations.taken member)
    rcases List.mem_map.mp offered with ⟨parameter, _, rfl⟩
    exact builtIn_marked parameter.id
  · exact (constants_apart distinct).sublist (onlyParameters.sublist.map NamedConstant.name)

/-! ## Links -/

/-- **The first registration of a name counts, from the next link on.**  A session is set up, and
then anything is done with it but setting up and taking down.  Until the next link it shows the
constants of every session and, of those registered since, the ones an earlier link has taken
up; what was registered before it was set up is forgotten.  The link takes up all the others
too, in time for the program it starts: each name has the value it was first registered with,
unless it is that of a constant of every session, and no other name has one.  It reports each
repeat among what it takes up, in order, and only then why the start has failed, if it has.
Parameters with different ids are never repeats, and they define their own names alone. -/
theorem link_defines_first (session : Session language) {operations : List SessionOperation}
    (goesOn : ∀ operation ∈ operations, operation.goesOn = true) :
    let registrations := Registrations.of operations
    let before := session.setUp.afterAll operations
    let next := before.after .link
    before.ShowsConstants registrations.taken ∧
      before.link.1 = .ok () ∧
      next.ShowsConstants registrations.all ∧
      (Exists fun engine => before.engine? = some engine ∧
        (before.linking engine).setting = next.setting ∧
        before.reported .link =
          (repeats registrations.taken registrations.waiting).map repeatedConstant ++
            (before.linking engine).failure?.toList) ∧
      ∀ scenario : Scenario, (scenario.parameters.map Parameter.id).Nodup ->
        session.setUp.addScenario scenario =
            session.setUp.afterAll (scenario.constants.map .addConstant) ∧
          (registrations.all <+: scenario.constants ->
            repeats registrations.taken registrations.waiting = []) ∧
          (registrations.all = scenario.constants ->
            (∀ parameter ∈ scenario.parameters,
                next.constant? (Scenario.constantMark ++ parameter.id) =
                  some (scenario.get parameter.id parameter.default)) ∧
              ∀ name, (∀ parameter ∈ scenario.parameters,
                  name ≠ Scenario.constantMark ++ parameter.id) ->
                next.constant? name = builtInConstants.find? name) := by
  intro registrations before next
  have accounts : before.Accounts registrations :=
    afterAll_accounts session.setUp_accounts goesOn
  have shown : next.ShowsConstants registrations.all := (link_accounts accounts).constants.shows
  rcases Option.isSome_iff_exists.mp accounts.isSetUp with ⟨engine, there⟩
  have linked : before.link = (.ok (), before.linkedBy engine) := link_eq there
  have told : (before.linking engine).setting = next.setting := by
    change _ = before.link.2.setting
    rw [linked]
    rfl
  refine ⟨accounts.constants.shows, congrArg Prod.fst linked, shown,
    ⟨engine, there, told, reported_link accounts there⟩, ?_⟩
  intro scenario distinct
  refine ⟨addScenario_eq_afterAll _ scenario, scenario_repeats distinct, ?_⟩
  intro onlyParameters
  rcases scenario_defines distinct with ⟨marked, others⟩
  rw [← onlyParameters] at marked others
  exact ⟨fun parameter offered => (shown.constant? _).trans (marked parameter offered),
    fun name other => (shown.constant? name).trans (others name other)⟩

/-- Registrations on both sides of a link, some of them repeats, and a script that fails. -/
def registering : List SessionOperation :=
  [.addConstant ⟨"Depth", 1⟩, .addConstant ⟨"Depth", 2⟩, .link, .addConstant ⟨"Depth", 3⟩,
    .load .map ⟨"Map.c", "throw Width"⟩, .addConstant ⟨"MAPALGO_Rect", 4⟩,
    .addConstant ⟨"Width", 5⟩]

/-- The second link takes up the last three, and reports two of them before the failure. -/
theorem link_defines_first_registering :
    let before : Session interpreter := (new {}).setUp.afterAll registering
    let next := before.after .link
    (∀ operation ∈ registering, operation.goesOn = true) ∧
      before.constant? "Depth" = some 1 ∧ before.constant? "Width" = none ∧
      next.constant? "Depth" = some 1 ∧ next.constant? "Width" = some 5 ∧
      next.constant? "MAPALGO_Rect" = some Sheet.rectangleNumber ∧
      before.reported .link =
        ["constant \"Depth\" is already defined", "constant \"MAPALGO_Rect\" is already defined",
          "link: Runtime error: 5 (line 1, position 1)"] := by
  intro before next
  have goesOn : ∀ operation ∈ registering, operation.goesOn = true := by decide
  rcases link_defines_first (new {} : Session interpreter) goesOn with
    ⟨shown, _, later, _⟩
  refine ⟨goesOn, ?_, ?_, ?_, ?_, ?_, ?_⟩
  · exact (shown.constant? _).trans (by decide +kernel)
  · exact (shown.constant? _).trans (by decide +kernel)
  · exact (later.constant? _).trans (by decide +kernel)
  · exact (later.constant? _).trans (by decide +kernel)
  · exact (later.constant? _).trans (by decide +kernel)
  · decide +kernel

end Session

end Landform
