import Landform.Proofs.Continuation
import Landform.Proofs.Phrases
import Landform.Script.Interpreter

namespace Landform

open Script SessionOperation

/-!
# Which script has the say

The scripts of a session are linked in one order, whatever the order they were loaded in: the
system scripts as they were kept, then the game script, then the map script.  A script that
cannot be read is left out.  Of two definitions of a function the later one is run, whoever calls
it, and the statements outside of functions have their turns in the same order, once for each
link.

`engine_links` says which scripts these are.  How a language merges programs and finds functions
is known by its laws, for two programs and for one call; `function?_inSequence` and
`statements_inSequence` are about any number of programs, and `RunsLast` is about all calls that
are made while one of them is evaluated.
-/

section

variable {language : Language}

/-! ## The scripts of a link -/

/-- The scripts of a session in the order in which they are linked. -/
def linkOrder (cached : List ScriptSource) (operations : List SessionOperation) :
    List ScriptSource :=
  cached ++ (lastLoaded? .game operations).toList ++ (lastLoaded? .map operations).toList

theorem readable_append (first second : List ScriptSource) :
    readable language (first ++ second) = readable language first ++ readable language second :=
  List.filterMap_append

theorem readable_toList (script? : Option ScriptSource) :
    readable language script?.toList =
      (script?.elim none fun script => (readScriptSource language script).toOption).toList := by
  cases script? with
  | none => rfl
  | some script =>
      cases read : readScriptSource language script with
      | ok program | error message =>
          simp only [readable, Option.toList_some, List.filterMap_cons, List.filterMap_nil, read,
            Except.toOption, Option.toList_none, Option.elim_some]

namespace Session

theorem setUp_engine (session : Session language) :
    session.setUp.engine? = some { system := readable language session.cached } := by
  simp only [setUp, readAll_programs]

/-- Whatever is done between two settings up, the engine has the scripts that can be read, in the
order of linking, and what is linked is the program they make up. -/
theorem engine_links (session : Session language) {operations : List SessionOperation}
    (goesOn : ∀ operation ∈ operations, operation.goesOn = true) : Exists fun engine =>
      (session.setUp.afterAll operations).engine? = some engine ∧
        engine.program =
          language.inSequence (readable language (linkOrder session.cached operations)) ∧
        engine.LinksItsScripts := by
  rcases afterAll_continues session.setUp_engine goesOn with ⟨engine, there, continues⟩
  refine ⟨engine, there, ?_, continues.links fun _ impossible => nomatch impossible⟩
  have system : engine.system = readable language session.cached := continues.system
  have game := continues.script? .game
  have map := continues.script? .map
  simp only [Engine.script?] at game map
  rw [Engine.program, system, game, map, linkOrder, readable_append, readable_append,
    readable_toList, readable_toList]

end Session

/-! ## Programs in sequence -/

namespace Script.Anatomy

variable (anatomy : Anatomy language) (scripts : List language.Program) (name : String)
  (arity : Nat)

/-- Of several scripts, the last one that defines a function of a name and a number of parameters
defines this one. -/
def LastDefines (function : anatomy.Function) : Prop :=
  Exists fun before => Exists fun script => Exists fun after =>
    scripts = before ++ script :: after ∧
      anatomy.function? (anatomy.libraryOf script) name arity = some function ∧
      ∀ later ∈ after, anatomy.function? (anatomy.libraryOf later) name arity = none

/-- None of several scripts defines a function of a name and a number of parameters. -/
def NoneDefines : Prop :=
  ∀ script ∈ scripts, anatomy.function? (anatomy.libraryOf script) name arity = none

variable {anatomy scripts name arity}

theorem function?_inSequence (merges : anatomy.Merges) :
    anatomy.function? (anatomy.libraryOf (language.inSequence scripts)) name arity =
      scripts.reverse.findSome? fun script =>
        anatomy.function? (anatomy.libraryOf script) name arity := by
  have merged : ∀ (scripts : List language.Program) (first : language.Program),
      anatomy.function? (anatomy.libraryOf (scripts.foldl language.merge first)) name arity =
        (scripts.reverse.findSome? fun script =>
            anatomy.function? (anatomy.libraryOf script) name arity).or
          (anatomy.function? (anatomy.libraryOf first) name arity) := by
    intro scripts
    induction scripts with
    | nil =>
        intro first
        rfl
    | cons script rest inductionHypothesis =>
        intro first
        rw [List.foldl_cons, inductionHypothesis, merges.function?_merge, List.reverse_cons,
          List.findSome?_append, List.findSome?_singleton, Option.or_assoc]
  rw [Language.inSequence, merged, merges.function?_empty, Option.or_none]

/-- The program has just the last definition of each function. -/
theorem function?_inSequence_eq_some_iff (merges : anatomy.Merges)
    {function : anatomy.Function} :
    anatomy.function? (anatomy.libraryOf (language.inSequence scripts)) name arity =
        some function ↔
      anatomy.LastDefines scripts name arity function := by
  rw [function?_inSequence merges, List.findSome?_eq_some_iff]
  constructor
  · rintro ⟨after, script, before, split, defined, later⟩
    refine ⟨before.reverse, script, after.reverse, ?_, defined, ?_⟩
    · rw [List.reverse_eq_append_iff, List.reverse_cons, List.append_assoc] at split
      exact split
    · intro other member
      exact later other (List.mem_reverse.mp member)
  · rintro ⟨before, script, after, rfl, defined, later⟩
    refine ⟨after.reverse, script, before.reverse, ?_, defined, ?_⟩
    · rw [List.reverse_append, List.reverse_cons, List.append_assoc]
      rfl
    · intro other member
      exact later other (List.mem_reverse.mp member)

theorem function?_inSequence_eq_none_iff (merges : anatomy.Merges) :
    anatomy.function? (anatomy.libraryOf (language.inSequence scripts)) name arity = none ↔
      anatomy.NoneDefines scripts name arity := by
  rw [function?_inSequence merges, List.findSome?_eq_none_iff]
  exact ⟨fun nowhere script member => nowhere script (List.mem_reverse.mpr member),
    fun nowhere script member => nowhere script (List.mem_reverse.mp member)⟩

theorem statements_inSequence (merges : anatomy.Merges) :
    anatomy.statements (language.inSequence scripts) =
      scripts.flatMap anatomy.statements := by
  have merged : ∀ (scripts : List language.Program) (first : language.Program),
      anatomy.statements (scripts.foldl language.merge first) =
        anatomy.statements first ++ scripts.flatMap anatomy.statements := by
    intro scripts
    induction scripts with
    | nil =>
        intro first
        exact (List.append_nil (anatomy.statements first)).symm
    | cons script rest inductionHypothesis =>
        intro first
        rw [List.foldl_cons, inductionHypothesis, merges.statements_merge, List.flatMap_cons,
          List.append_assoc]
  rw [Language.inSequence, merged, merges.statements_empty, List.nil_append]

/-! ## Calls -/

variable (anatomy scripts)

/-- If an action is a call, it runs the last definition that scripts have, and none of theirs only
if they have none. -/
def CallsLast : anatomy.Act -> Prop
  | .call name arity function? =>
      (∀ function, function? = some function ↔ anatomy.LastDefines scripts name arity function) ∧
        (function? = none ↔ anatomy.NoneDefines scripts name arity)
  | _ => True

/-- A program in which the last of several scripts has the say: what is found in it, and what is
run for the calls of its functions and of its statements. -/
structure RunsLast (program : language.Program) : Prop where
  statements : anatomy.statements program = scripts.flatMap anatomy.statements
  defines : ∀ name arity, language.defines program name arity = true ↔
    Exists fun function => anatomy.LastDefines scripts name arity function
  finds : ∀ {name arity function},
    anatomy.function? (anatomy.libraryOf program) name arity = some function ↔
      anatomy.LastDefines scripts name arity function
  fromFunctions : ∀ function arguments setting state,
    (anatomy.invoke function arguments (anatomy.libraryOf program) setting state).EndsIn
      fun ended => ∀ action ∈ ended.actions, anatomy.CallsLast scripts action
  fromStatements : ∀ statements setting state,
    (anatomy.performAll (anatomy.libraryOf program) setting statements state).EndsIn
      fun ended => ∀ action ∈ ended.actions, anatomy.CallsLast scripts action

variable {anatomy}

/-- What is found in a program of scripts in sequence is the last definition they have. -/
theorem FoundIn.callsLast (merges : anatomy.Merges) {action : anatomy.Act}
    (found : anatomy.FoundIn (anatomy.libraryOf (language.inSequence scripts)) action) :
    anatomy.CallsLast scripts action := by
  cases action with
  | call name arity function? =>
      rw [FoundIn] at found
      rw [found]
      exact ⟨fun _ => function?_inSequence_eq_some_iff merges,
        function?_inSequence_eq_none_iff merges⟩
  | push | assign | rewind => trivial

theorem runsLast_inSequence (merges : anatomy.Merges) (calls : anatomy.Calls) :
    anatomy.RunsLast scripts (language.inSequence scripts) where
  statements := statements_inSequence merges
  defines name arity := by
    rw [merges.defines, Option.isSome_iff_exists]
    exact exists_congr fun _ => function?_inSequence_eq_some_iff merges
  finds := function?_inSequence_eq_some_iff merges
  fromFunctions function arguments setting state :=
    (calls.invoke_foundIn function arguments _ setting state).mono fun _ found action member =>
      (found action member).callsLast scripts merges
  fromStatements statements setting state :=
    inTurn_ends
      (fun statement state =>
        (calls.perform_foundIn statement _ setting state).mono fun _ found action member =>
          (found action member).callsLast scripts merges)
      statements state

end Script.Anatomy

/-! ## Sessions -/

namespace Session

/-- What the two calls of a host come to where scripts define the functions that they call. -/
structure AnswersByLast (anatomy : Anatomy language) (session : Session language)
    (linked : Linked language) (scripts : List language.Program) : Prop where
  algorithm : ∀ {name function}, anatomy.LastDefines scripts name 2 function -> ∀ x y,
    let call : HostCall language :=
      ⟨linked, session.setting, name, [.integer x, .integer y], linked.sheets⟩
    (session.callAlgorithm name x y).1 =
      match (call.run anatomy function).result.outcome with
      | .ok value => .ok value.assents
      | .error words =>
          .error { code := "SCRIPT_RUNTIME", message := failureText name words }
  entryPoint : ∀ {function}, anatomy.LastDefines scripts Session.entryPoint 1 function ->
    ∀ format resolver players,
      let call : HostCall language :=
        ⟨linked, session.setting, Session.entryPoint, [.sheet linked.sheets.length],
          linked.sheets ++ [MountedSheet.blank resolver (format.sizeFor players)]⟩
      let run := call.run anatomy function
      Exists fun outcome => (session.callEntryPoint format resolver players).1 = .ok outcome ∧
        outcome.returned =
          (match run.result.outcome with
            | .ok value => value.assents
            | .error _ => false) ∧
        ∀ mounted, run.sheets[linked.sheets.length]? = some mounted ->
          outcome.foreground = mounted.sheet.foreground ∧
            outcome.background = mounted.sheet.background

variable {anatomy : Anatomy language}

theorem answersByLast (calls : anatomy.Calls) {session : Session language}
    {linked : Linked language} {scripts : List language.Program}
    (isLinked : session.linked? = some linked)
    (runs : anatomy.RunsLast scripts linked.program) :
    session.AnswersByLast anatomy linked scripts where
  algorithm := by
    intro name function last x y call
    rcases Option.bind_eq_some_iff.mp isLinked with ⟨engine, there, has⟩
    have defined := (runs.defines name 2).mpr ⟨function, last⟩
    have found : call.function? anatomy = some function := runs.finds.mpr last
    have answered : (session.callAlgorithm name x y).1 =
        (call.exchange.result.1.map Value.assents).mapError fun words =>
          { code := "SCRIPT_RUNTIME", message := failureText name words } := by
      simp only [callAlgorithm, there, has, defined, if_true, callLinked_eq]
      cases call.exchange.result.1 <;> rfl
    have ended : call.exchange.result.1 = (call.run anatomy function).result.outcome :=
      congrArg (fun exchange => exchange.result.1) (call.exchange_of_found calls found)
    rw [answered, ended]
    cases (call.run anatomy function).result.outcome <;> rfl
  entryPoint := by
    intro function last format resolver players call run
    rcases Option.bind_eq_some_iff.mp isLinked with ⟨engine, there, has⟩
    let entry : EntryRun language :=
      ⟨linked, session.setting, MountedSheet.blank resolver (format.sizeFor players)⟩
    have defined : entry.isDefined = true :=
      (runs.defines Session.entryPoint 1).mpr ⟨function, last⟩
    have found : call.function? anatomy = some function := runs.finds.mpr last
    have exchanged := call.exchange_of_found calls found
    have same : entry.call = call := rfl
    refine ⟨_, congrArg Prod.fst (callEntryPoint_eq entry there has rfl rfl), ?_, ?_⟩
    · have assents : entry.assents = call.assents := by
        rw [EntryRun.assents, defined, Bool.true_and, same]
      have came := congrArg
        (fun exchange : Exchange (Except String Value × language.Scope) =>
          match exchange.result.1 with
          | .ok value => value.assents
          | .error _ => false) exchanged
      exact assents.trans came
    · intro mounted present
      have painted : entry.painted = mounted.sheet := by
        have sheets : entry.left = run.sheets := by
          rw [EntryRun.left, defined, if_pos rfl, same, exchanged]
        rw [EntryRun.painted, sheets, present]
      exact ⟨congrArg Sheet.foreground painted, congrArg Sheet.background painted⟩

/-- **The last script has the say.**  A session is set up, and then anything is done with it but
setting up and taking down.  Its scripts are then the system scripts it was set up with, in their
order, and behind them the game script and the map script that were last loaded, in whatever
order; those that cannot be read are left out.  A link makes one program of them.  Their
statements outside of functions have their turns once, in the same order, up to the first that
stops; what they write is all that the link writes, and what they leave is what the next call
finds.  As long as a program is linked, every call, of the host, of a function or of a statement,
runs the last definition that these scripts have for the name and the number of arguments. -/
theorem link_runs_last {anatomy : Anatomy language} (merges : anatomy.Merges)
    (runs : anatomy.Runs) (calls : anatomy.Calls) (session : Session language)
    {operations : List SessionOperation}
    (goesOn : ∀ operation ∈ operations, operation.goesOn = true) :
    let scripts := readable language (linkOrder session.cached operations)
    let before := session.setUp.afterAll operations
    let next := before.after .link
    before.link.1 = .ok () ∧
      (Exists fun linked => next.linked? = some linked ∧
        anatomy.RunsLast scripts linked.program ∧ next.AnswersByLast anatomy linked scripts ∧
          let turns := (anatomy.performAll (anatomy.libraryOf linked.program) next.setting
            (scripts.flatMap anatomy.statements) (anatomy.opened language.newScope)).exchange []
          next.lines = before.lines ++ turns.lines.toArray ∧
            linked.scope = anatomy.closed turns.result.state) ∧
      ∀ linked, before.linked? = some linked ->
        anatomy.RunsLast scripts linked.program ∧
          before.AnswersByLast anatomy linked scripts := by
  intro scripts before next
  rcases session.engine_links goesOn with ⟨engine, there, program, links⟩
  have last : anatomy.RunsLast scripts engine.program :=
    program ▸ Anatomy.runsLast_inSequence scripts merges calls
  have settled : before.link = (.ok (), before.linkedBy engine) := link_eq there
  have reached : next = before.linkedBy engine := congrArg Prod.snd settled
  refine ⟨congrArg Prod.fst settled, ⟨(before.linking engine).linked, ?_, last, ?_, ?_⟩, ?_⟩
  · rw [reached]
    rfl
  · rw [reached]
    exact answersByLast calls rfl last
  · have started : (before.linking engine).start =
        let turns := (anatomy.performAll (anatomy.libraryOf engine.program)
          (before.linking engine).setting (scripts.flatMap anatomy.statements)
          (anatomy.opened language.newScope)).exchange []
        { result := (turns.result.outcome.outcome, anatomy.closed turns.result.state)
          sheets := turns.sheets
          lines := turns.lines
          notes := turns.notes } := by
      rw [Linking.start, Language.start, runs.run, ← last.statements]
      exact Dialogue.exchange_bind_done _ _ []
    rw [reached]
    refine ⟨?_, congrArg (fun exchange => exchange.result.2) started⟩
    exact congrArg (fun exchange => before.lines ++ exchange.lines.toArray) started
  · intro linked isLinked
    rcases Option.bind_eq_some_iff.mp isLinked with ⟨other, here, has⟩
    have same : linked.program = engine.program := by
      rw [there] at here
      cases here
      exact links linked has
    rw [← same] at last
    exact ⟨last, answersByLast calls isLinked last⟩

/-- A system script whose functions have one name and different numbers of parameters. -/
def picking : ScriptSource :=
  ⟨"System.c", "fn Pick() \x7b 1 \x7d fn Pick(x) \x7b x \x7d print(\"system\");"⟩

/-- A game script that calls both. -/
def comparing : ScriptSource :=
  ⟨"Game.c", "fn Pick() \x7b 2 \x7d fn Algo(x, y) \x7b Pick() == Pick(x) \x7d print(\"game\")"⟩

/-- A map script that returns before its last statement. -/
def returningEarly : ScriptSource :=
  ⟨"Map.c", "fn Pick() \x7b 3 \x7d print(\"map\"); return; print(0)"⟩

/-- The map script is loaded before the game script. -/
def layering : List SessionOperation :=
  [.load .map returningEarly, .load .game comparing]

/-- What the three scripts say. -/
def layeringLexicon : List (String × Phrases.Program) :=
  [(picking.source,
      { functions := [⟨"Pick", [], [.literal (.integer 1)]⟩, ⟨"Pick", ["x"], [.named "x"]⟩]
        statements := [.print (.literal (.text "system"))] }),
    (comparing.source,
      { functions := [⟨"Pick", [], [.literal (.integer 2)]⟩,
          ⟨"Algo", ["x", "y"], [.equal (.call "Pick" []) (.call "Pick" [.named "x"])]⟩]
        statements := [.print (.literal (.text "game"))] }),
    (returningEarly.source,
      { functions := [⟨"Pick", [], [.literal (.integer 3)]⟩]
        statements := [.print (.literal (.text "map")), .leave,
          .print (.literal (.integer 0))] })]

/-- A function of the game script calls that of the map script, and one of the system script. -/
theorem link_runs_last_layering :
    let session : Session (Phrases.language layeringLexicon) := (new {}).register picking
    let next := (session.setUp.afterAll layering).after .link
    (∀ operation ∈ layering, operation.goesOn = true) ∧
      next.isLinked = true ∧ next.lines = #["system", "game", "map"] ∧
      (next.callAlgorithm "Algo" 3 0).1.toOption = some true := by
  intro session next
  have goesOn : ∀ operation ∈ layering, operation.goesOn = true := by decide
  rcases link_runs_last (Phrases.merges layeringLexicon) (Phrases.runs layeringLexicon)
    (Phrases.calls layeringLexicon) session goesOn with ⟨_, ⟨linked, isLinked, _⟩, _⟩
  have present : next.isLinked = true := by
    rw [Session.isLinked, isLinked]
    rfl
  have evaluated : next.lines = #["system", "game", "map"] ∧
      (next.callAlgorithm "Algo" 3 0).1.toOption = some true := by
    decide +kernel
  exact ⟨goesOn, present, evaluated⟩

/-- The scripts come to the same in the language of map scripts. -/
example :
    let session : Session interpreter := (new {}).register picking
    let next := (session.setUp.afterAll layering).after .link
    next.lines = #["system", "game", "map"] ∧
      (next.callAlgorithm "Algo" 3 0).1.toOption = some true := by
  decide +kernel

end Session

end

end Landform
