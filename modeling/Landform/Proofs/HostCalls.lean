import Landform.Proofs.Phrases
import Landform.Proofs.Transcripts
import Landform.Script.Interpreter

namespace Landform

open Script

variable {language : Language}

/-!
# What calls of the host leave behind

A linked program keeps the variables outside of functions from one call of the host to the next.
A call begins with these, and with the parameters of the function behind them, and ends with
these: what the function introduces, in whatever depth, is gone, and so are its parameters,
whether the call comes to a value, throws, or fails inside of other calls.  Names and order are
those that the link has left.  The values are those that the link has left too, except for what
the calls have assigned to these variables, one assignment after another, and never to a
constant.

The statements outside of functions are evaluated by the link and by nothing else.  This is said by
putting another program in the place of the linked one, which has the same functions and may have
other statements: whatever is called then, the session answers, reports and shows the same, and
it ends as the same session, but for the program.

`HostCall.assigned` and `call_withProgram` say this of one call.  `after_assigns` and
`observe_withProgram` take the operations of a session one by one, and `calls_leave_variables`
is about any number of them.
-/

/-! ## Assignments -/

namespace Script.Anatomy

variable (anatomy : Anatomy language)

/-- The names of the variables of a scope, the outermost first. -/
def names (scope : language.Scope) : List String :=
  (anatomy.visible scope).map ScopeEntry.name

/-- Variables come to others by assignments to some of them, and to none that is constant. -/
structure Assigned (before : List (ScopeEntry anatomy.Content)) (assignments : List anatomy.Act)
    (after : List (ScopeEntry anatomy.Content)) : Prop where
  assign : ∀ action ∈ assignments, action.assignsBelow before.length = true
  respect : Action.AllRespect anatomy.isFixed before.length assignments before
  replayed : after = Action.replay assignments before

namespace Assigned

variable {anatomy} {before middle after : List (ScopeEntry anatomy.Content)}
  {assignments later : List anatomy.Act}

theorem refl (entries : List (ScopeEntry anatomy.Content)) :
    anatomy.Assigned entries [] entries where
  assign _ impossible := nomatch impossible
  respect := trivial
  replayed := rfl

theorem names (assigned : anatomy.Assigned before assignments after) :
    after.map ScopeEntry.name = before.map ScopeEntry.name := by
  rw [assigned.replayed]
  exact Action.names_replay assigned.assign

theorem length (assigned : anatomy.Assigned before assignments after) :
    after.length = before.length := by
  have counted := congrArg List.length assigned.names
  rwa [List.length_map, List.length_map] at counted

/-- What is constant is left as it is. -/
theorem fixed (assigned : anatomy.Assigned before assignments after) {index : Nat}
    {entry : ScopeEntry anatomy.Content} (found : before[index]? = some entry)
    (fixed : anatomy.isFixed entry.content = true) : after[index]? = some entry := by
  rw [assigned.replayed]
  exact Action.fixed_replay assigned.respect assigned.assign found fixed

theorem trans (first : anatomy.Assigned before assignments middle)
    (second : anatomy.Assigned middle later after) :
    anatomy.Assigned before (assignments ++ later) after where
  assign := by
    intro action member
    rcases List.mem_append.mp member with here | behind
    · exact first.assign action here
    · rw [← first.length]
      exact second.assign action behind
  respect := by
    refine Action.allRespect_append.mpr ⟨first.respect, ?_⟩
    rw [← first.length, ← first.replayed]
    exact second.respect
  replayed := by
    rw [Action.replay_append, ← first.replayed]
    exact second.replayed

end Assigned

end Script.Anatomy

/-! ## Single calls -/

namespace HostCall

variable (anatomy : Anatomy language) (call : HostCall language)

/-- What a call does besides its requests. -/
def actions : List anatomy.Act :=
  match call.function? anatomy with
  | none => []
  | some function => (call.run anatomy function).result.actions

/-- What a call assigns to the variables that were there before it. -/
def assignments : List anatomy.Act :=
  Action.outer (anatomy.visible call.linked.scope).length (call.actions anatomy)

variable {anatomy}

/-- A call leaves the variables there were before it, with what it has assigned to them. -/
theorem assigned (calls : anatomy.Calls) (scopes : anatomy.Scopes) :
    anatomy.Assigned (anatomy.visible call.linked.scope) (call.assignments anatomy)
      (anatomy.visible call.after.scope) := by
  cases found : call.function? anatomy with
  | none =>
      have nothing : call.assignments anatomy = [] := by
        rw [assignments, actions, found]
        rfl
      rw [nothing, after, call.exchange_of_missing calls found]
      exact .refl _
  | some function =>
      have same : call.actions anatomy = (call.run anatomy function).result.actions := by
        rw [actions, found]
      have acts := (scopes.invoke_acts function call.arguments
        (anatomy.libraryOf call.linked.program) call.setting
        (anatomy.opened call.linked.scope)).exchange call.sheets
      rcases acts with ⟨respect, replayed, _⟩
      -- All variables that there were are the outermost ones when the function ends.
      have kept := respect.outer (Nat.le_refl _)
      have left := respect.take_replay (Nat.le_refl _)
      rw [List.take_length] at kept left
      rw [← replayed] at left
      rw [assignments, same, after, call.exchange_of_found calls found]
      refine ⟨fun action member => (List.mem_filter.mp member).2, kept, ?_⟩
      rw [scopes.visible_closed, scopes.entries_rewound]
      exact left

end HostCall

/-! ## Sessions -/

namespace SessionOperation

/-- Whether an operation leaves what is linked, and calls it at most. -/
def staysLinked : SessionOperation -> Bool
  | .setUp | .takeDown | .load _ _ | .link => false
  | _ => true

end SessionOperation

namespace Session

section

variable (anatomy : Anatomy language)

/-- The call that an operation is, if it comes to one. -/
def call? (session : Session language) (operation : SessionOperation) :
    Option (HostCall language) :=
  session.linked?.bind fun linked =>
    match operation with
    | .callEntryPoint format resolver players =>
        let run : EntryRun language :=
          ⟨linked, session.setting, MountedSheet.blank resolver (format.sizeFor players)⟩
        if run.isDefined then some run.call else none
    | .callAlgorithm function x y =>
        if language.defines linked.program function 2 then
          some ⟨linked, session.setting, function, [.integer x, .integer y], linked.sheets⟩
        else none
    | _ => none

/-- What an operation assigns to the variables outside of functions. -/
def assignmentsOf (session : Session language) (operation : SessionOperation) :
    List anatomy.Act :=
  ((session.call? operation).map fun call => call.assignments anatomy).getD []

/-- What operations assign to the variables outside of functions, one after another. -/
def assignments : Session language -> List SessionOperation -> List anatomy.Act
  | _, [] => []
  | session, operation :: rest =>
      session.assignmentsOf anatomy operation ++ (session.after operation).assignments rest

end

/-- An operation that stays linked leaves the linked program as it is, or as its call does. -/
theorem linked_after {session : Session language} {linked : Linked language}
    (isLinked : session.linked? = some linked) {operation : SessionOperation}
    (stays : operation.staysLinked = true) :
    (session.after operation).linked? = some ((session.call? operation).elim linked
      HostCall.after) := by
  rcases Option.bind_eq_some_iff.mp isLinked with ⟨engine, there, has⟩
  cases operation with
  | setUp | takeDown | load | link => cases stays
  | registerArchive archive =>
      rcases session.registerArchive_frame archive with ⟨cached, frame⟩
      rw [after, frame, call?, isLinked]
      exact isLinked
  | callEntryPoint format resolver players =>
      let run : EntryRun language :=
        ⟨linked, session.setting, MountedSheet.blank resolver (format.sizeFor players)⟩
      rw [after, callEntryPoint_eq run there has rfl rfl, call?, isLinked]
      simp only [Option.bind_some, enteredBy, linked?, EntryRun.after]
      split <;> rfl
  | callAlgorithm function x y =>
      rw [after, call?, isLinked]
      simp only [callAlgorithm, there, has, callLinked_eq, Option.bind_some]
      split
      · -- However the call ends, it leaves the same linked program.
        cases (HostCall.exchange _).result.1 <;> rfl
      · exact isLinked
  | _ =>
      rw [call?, isLinked]
      exact isLinked

/-- What is linked when an operation calls it. -/
theorem linked_of_call {session : Session language} {linked : Linked language}
    (isLinked : session.linked? = some linked) {operation : SessionOperation}
    {call : HostCall language} (calls : session.call? operation = some call) :
    call.linked = linked := by
  rw [call?, isLinked, Option.bind_some] at calls
  cases operation with
  | callEntryPoint format resolver players | callAlgorithm function x y =>
      simp only at calls
      split at calls
      · cases calls
        rfl
      · cases calls
  | _ => cases calls

section

variable {anatomy : Anatomy language}

/-- No operation but those that unlink changes what is linked, except by assignments. -/
theorem after_assigns (calls : anatomy.Calls) (scopes : anatomy.Scopes)
    {session : Session language} {linked : Linked language}
    (isLinked : session.linked? = some linked) {operation : SessionOperation}
    (stays : operation.staysLinked = true) : Exists fun left =>
      (session.after operation).linked? = some left ∧ left.program = linked.program ∧
        anatomy.Assigned (anatomy.visible linked.scope) (session.assignmentsOf anatomy operation)
          (anatomy.visible left.scope) := by
  refine ⟨_, linked_after isLinked stays, ?_⟩
  rw [assignmentsOf]
  cases called : session.call? operation with
  | none => exact ⟨rfl, .refl _⟩
  | some call =>
      have same := linked_of_call isLinked called
      subst same
      exact ⟨rfl, call.assigned calls scopes⟩

theorem afterAll_assigns (calls : anatomy.Calls) (scopes : anatomy.Scopes)
    {session : Session language} {linked : Linked language}
    (isLinked : session.linked? = some linked) {operations : List SessionOperation}
    (stay : ∀ operation ∈ operations, operation.staysLinked = true) : Exists fun left =>
      (session.afterAll operations).linked? = some left ∧ left.program = linked.program ∧
        anatomy.Assigned (anatomy.visible linked.scope) (session.assignments anatomy operations)
          (anatomy.visible left.scope) := by
  induction operations generalizing session linked with
  | nil => exact ⟨linked, isLinked, rfl, .refl _⟩
  | cons operation rest inductionHypothesis =>
      rcases after_assigns calls scopes isLinked (stay operation List.mem_cons_self) with
        ⟨middle, here, same, first⟩
      rcases inductionHypothesis here fun other member =>
        stay other (List.mem_cons_of_mem operation member) with ⟨left, last, kept, later⟩
      exact ⟨left, last, kept.trans same, first.trans later⟩

end

/-! ## Other statements -/

end Session

/-- A linked program with another program in its place. -/
def Linked.withProgram (linked : Linked language) (program : language.Program) :
    Linked language :=
  { linked with program := program }

/-- An engine with another program in the place of the linked one. -/
def Engine.withProgram (engine : Engine language) (program : language.Program) :
    Engine language :=
  { engine with linked? := engine.linked?.map fun linked => linked.withProgram program }

namespace Session

/-- A session with another program in the place of the linked one. -/
def withProgram (session : Session language) (program : language.Program) : Session language :=
  { session with engine? := session.engine?.map fun engine => engine.withProgram program }

section

variable {anatomy : Anatomy language} (session : Session language) (program : language.Program)

theorem appearance_withProgram :
    (session.withProgram program).appearance = session.appearance := by
  rcases session with ⟨cached, _ | ⟨system, map?, game?, _ | linked⟩⟩
  · rfl
  · rfl
  · rfl

theorem lines_withProgram : (session.withProgram program).lines = session.lines :=
  rfl

theorem engine_withProgram {session : Session language} {engine : Engine language}
    (there : session.engine? = some engine) :
    (session.withProgram program).engine? = some (engine.withProgram program) := by
  rw [withProgram, there, Option.map_some]

theorem linked_withProgram {engine : Engine language} {linked : Linked language}
    (has : engine.linked? = some linked) :
    (engine.withProgram program).linked? = some (linked.withProgram program) := by
  rw [Engine.withProgram, has, Option.map_some]

end

/-- Programs whose functions are the same, though their statements may differ, for calls. -/
structure CallsAlike (first second : language.Program) : Prop where
  defines : language.defines first = language.defines second
  call : language.call first = language.call second

theorem callsAlike {anatomy : Anatomy language} (merges : anatomy.Merges) (calls : anatomy.Calls)
    {first second : language.Program}
    (same : anatomy.libraryOf first = anatomy.libraryOf second) : CallsAlike first second where
  defines := by
    funext name arity
    rw [merges.defines, merges.defines, same]
  call := by
    funext name arguments setting scope
    rw [Language.call, Language.call, Language.sessionCall, calls.callWith, calls.callWith, same]

section

variable {program : language.Program} (session : Session language) {linked : Linked language}

theorem callLinked_withProgram (alike : CallsAlike program linked.program)
    (engine : Engine language) (function : String) (arguments : List Value)
    (sheets : List MountedSheet) :
    (session.withProgram program).callLinked (engine.withProgram program)
        (linked.withProgram program) function arguments sheets =
      let (outcome, left, painted) := session.callLinked engine linked function arguments sheets
      (outcome, left.withProgram program, painted) := by
  have called : language.call (linked.withProgram program).program function arguments
        (session.withProgram program).setting (linked.withProgram program).scope =
      language.call linked.program function arguments session.setting linked.scope :=
    congrFun (congrFun (congrFun (congrFun alike.call function) arguments) session.setting)
      linked.scope
  simp only [callLinked, called]
  rfl

theorem runEntryPoint_withProgram (alike : CallsAlike program linked.program)
    (engine : Engine language) (sheets : List MountedSheet) (number : Nat) :
    (session.withProgram program).runEntryPoint (engine.withProgram program)
        (linked.withProgram program) sheets number =
      let (returned, left, painted) := session.runEntryPoint engine linked sheets number
      (returned, left.withProgram program, painted) := by
  have defined : language.defines (linked.withProgram program).program entryPoint 1 =
    language.defines linked.program entryPoint 1 :=
    congrFun (congrFun alike.defines entryPoint) 1
  unfold runEntryPoint
  rw [defined, callLinked_withProgram session alike]
  split
  · rcases session.callLinked engine linked entryPoint [.sheet number] sheets with
      ⟨words | value, left, painted⟩
    · rfl
    · rfl
  · rfl

theorem callEntryPoint_withProgram {engine : Engine language}
    (there : session.engine? = some engine) (has : engine.linked? = some linked)
    (alike : CallsAlike program linked.program) (format : MapFormat) (resolver : Resolver)
    (players : Nat) :
    (session.withProgram program).callEntryPoint format resolver players =
      let (outcome, left) := session.callEntryPoint format resolver players
      (outcome, left.withProgram program) := by
  have ran := runEntryPoint_withProgram session alike engine
  have sheets : (linked.withProgram program).sheets = linked.sheets := rfl
  simp only [callEntryPoint, there, has, engine_withProgram program there,
    linked_withProgram program has, sheets, ran]

theorem callAlgorithm_withProgram {engine : Engine language}
    (there : session.engine? = some engine) (has : engine.linked? = some linked)
    (alike : CallsAlike program linked.program) (function : String) (x y : Int) :
    (session.withProgram program).callAlgorithm function x y =
      let (outcome, left) := session.callAlgorithm function x y
      (outcome, left.withProgram program) := by
  have called := callLinked_withProgram session alike engine
  have sheets : (linked.withProgram program).sheets = linked.sheets := rfl
  have defined : language.defines (linked.withProgram program).program function 2 =
    language.defines linked.program function 2 :=
    congrFun (congrFun alike.defines function) 2
  simp only [callAlgorithm, there, has, engine_withProgram program there,
    linked_withProgram program has, sheets, defined, called]
  split
  · rcases session.callLinked engine linked function [.integer x, .integer y]
      linked.sheets with ⟨words | value, left, painted⟩
    · rfl
    · rfl
  · rfl

variable {session} {operation : SessionOperation} {operations : List SessionOperation}

theorem after_withProgram (isLinked : session.linked? = some linked)
    (alike : CallsAlike program linked.program) (stays : operation.staysLinked = true) :
    (session.withProgram program).after operation =
      (session.after operation).withProgram program := by
  rcases Option.bind_eq_some_iff.mp isLinked with ⟨engine, there, has⟩
  cases operation with
  | setUp | takeDown | load | link => cases stays
  | registerArchive archive =>
      simp only [after, registerArchive_eq]
      rfl
  | callEntryPoint format resolver players =>
      exact congrArg Prod.snd (callEntryPoint_withProgram session there has alike _ _ _)
  | callAlgorithm function x y =>
      exact congrArg Prod.snd (callAlgorithm_withProgram session there has alike _ _ _)
  | _ => rfl

/-- What is seen of an operation that does not link is the same, whatever statements there are. -/
theorem observe_withProgram (isLinked : session.linked? = some linked)
    (alike : CallsAlike program linked.program) (stays : operation.staysLinked = true) :
    (session.withProgram program).observe operation = session.observe operation := by
  rcases Option.bind_eq_some_iff.mp isLinked with ⟨engine, there, has⟩
  have answered : (session.withProgram program).answer operation = session.answer operation := by
    cases operation with
    | setUp | takeDown | load | link => cases stays
    | registerArchive archive =>
        simp only [answer, registerArchive_eq]
    | callEntryPoint format resolver players =>
        simp only [answer, callEntryPoint_withProgram session there has alike]
    | callAlgorithm function x y =>
        simp only [answer, callAlgorithm_withProgram session there has alike]
    | _ => rfl
  rw [observe, answered, reported, after_withProgram isLinked alike stays,
    appearance_withProgram]
  rfl

/-- The linked program remains the one it was. -/
theorem program_after (isLinked : session.linked? = some linked)
    (stays : operation.staysLinked = true) : Exists fun left =>
      (session.after operation).linked? = some left ∧ left.program = linked.program := by
  refine ⟨_, linked_after isLinked stays, ?_⟩
  cases called : session.call? operation with
  | none => rfl
  | some call =>
      have same := linked_of_call isLinked called
      subst same
      rfl

/-- All that is seen of operations that do not link is the same, and so is what they leave. -/
theorem transcript_withProgram (isLinked : session.linked? = some linked)
    (alike : CallsAlike program linked.program)
    (stay : ∀ operation ∈ operations, operation.staysLinked = true) :
    (session.withProgram program).transcript operations = session.transcript operations ∧
      (session.withProgram program).afterAll operations =
        (session.afterAll operations).withProgram program := by
  induction operations generalizing session linked with
  | nil => exact ⟨rfl, rfl⟩
  | cons operation rest inductionHypothesis =>
      have first := stay operation List.mem_cons_self
      rcases program_after isLinked first with ⟨left, here, same⟩
      have later := inductionHypothesis here (same ▸ alike) fun other member =>
        stay other (List.mem_cons_of_mem operation member)
      rw [← after_withProgram isLinked alike first] at later
      refine ⟨?_, later.2⟩
      rw [transcript, transcript, observe_withProgram isLinked alike first, later.1]

end

/-- **Calls leave the variables of a linked program in their places, and no statement outside of
functions is evaluated by them.**  A session is linked, and then anything is done with it but
linking, loading, setting up and taking down: functions are called, and come to values, throw, or
fail, as often as one likes.  The same program is linked then.  Its variables have the same names
in the same order, and their values are what the assignments of the calls to these variables
make of the values there were, in their order, a constant being left as it is.  A function that is
called next begins with these variables and its parameters.  With other statements outside of
functions, all that is seen of the session would have been the same. -/
theorem calls_leave_variables {anatomy : Anatomy language} (merges : anatomy.Merges)
    (calls : anatomy.Calls) (scopes : anatomy.Scopes) {session : Session language}
    {linked : Linked language} (isLinked : session.linked? = some linked)
    {operations : List SessionOperation}
    (stay : ∀ operation ∈ operations, operation.staysLinked = true) :
    (Exists fun left => (session.afterAll operations).linked? = some left ∧
      left.program = linked.program ∧
      anatomy.names left.scope = anatomy.names linked.scope ∧
      anatomy.Assigned (anatomy.visible linked.scope) (session.assignments anatomy operations)
        (anatomy.visible left.scope) ∧
      (∀ (index : Nat) (entry : ScopeEntry anatomy.Content),
        (anatomy.visible linked.scope)[index]? = some entry ->
          anatomy.isFixed entry.content = true ->
            (anatomy.visible left.scope)[index]? = some entry) ∧
      ∀ function arguments setting,
        (anatomy.invoke function arguments (anatomy.libraryOf left.program) setting
          (anatomy.opened left.scope)).EndsIn fun ended => Exists fun later =>
            ended.actions = (anatomy.parameters function arguments).map .push ++ later ∧
              anatomy.entries ended.state = Action.replay later
                (anatomy.visible left.scope ++ anatomy.parameters function arguments)) ∧
    ∀ program, anatomy.libraryOf program = anatomy.libraryOf linked.program ->
      (session.withProgram program).transcript operations = session.transcript operations ∧
        (session.withProgram program).afterAll operations =
          (session.afterAll operations).withProgram program := by
  constructor
  · rcases afterAll_assigns calls scopes isLinked stay with ⟨left, there, same, assigned⟩
    refine ⟨left, there, same, assigned.names, assigned, fun _ _ => assigned.fixed, ?_⟩
    intro function arguments setting
    refine (scopes.invoke_acts function arguments _ setting (anatomy.opened left.scope)).mono ?_
    rintro ended ⟨_, replayed, later, begins⟩
    refine ⟨later, begins, ?_⟩
    rw [replayed, begins, Action.replay_append, Action.replay_pushes]
    rfl
  · intro program same
    exact transcript_withProgram isLinked (callsAlike merges calls same) stay

/-- A script that introduces the name of its variable anew, in a function and in a loop. -/
def shadowing : ScriptSource :=
  ⟨"Map.c",
    "let n = 0; print(n); fn G(x) \x7b let n = x; throw n \x7d " ++
      "fn A(x, y) \x7b n += 1; for n in x..y \x7b G(n) \x7d \x7d fn B(x, y) \x7b print(n) \x7d"⟩

/-- The functions of the script. -/
def shadowingFunctions : List Phrases.Function :=
  [⟨"G", ["x"], [.declare false "n" (.named "x"), .throw (.named "n")]⟩,
    ⟨"A", ["x", "y"], [.assign "n" (.plus (.named "n") (.literal (.integer 1))),
      .each "n" (.named "x") (.named "y") [.call "G" [.named "n"]]]⟩,
    ⟨"B", ["x", "y"], [.print (.named "n")]⟩]

/-- What the script says. -/
def shadowingLexicon : List (String × Phrases.Program) :=
  [(shadowing.source,
    { functions := shadowingFunctions
      statements := [.declare false "n" (.literal (.integer 0)), .print (.named "n")] })]

/-- The first call comes to a value, and the second fails inside of another call. -/
def shadowingCalls : List SessionOperation :=
  [.callAlgorithm "A" 0 0, .callAlgorithm "A" 0 1, .callAlgorithm "B" 0 0]

/-- A program without its statements. -/
def withoutStatements (program : Phrases.Program) : Phrases.Program :=
  { program with statements := [] }

/-- The third call sees the variable outside, and what the others have assigned. -/
theorem calls_leave_variables_shadowing :
    let anatomy := Phrases.anatomy shadowingLexicon
    let session : Session (Phrases.language shadowingLexicon) :=
      ((new {}).setUp.after (.load .map shadowing)).after .link
    let next := session.afterAll shadowingCalls
    (∀ operation ∈ shadowingCalls, operation.staysLinked = true) ∧
      Exists fun linked => session.linked? = some linked ∧
        anatomy.names linked.scope = ["n"] ∧
        next.linked?.map (fun left => anatomy.names left.scope) = some ["n"] ∧
        next.lines = #["0", "2"] ∧
        ((session.withProgram (withoutStatements linked.program)).afterAll shadowingCalls).lines =
          #["0", "2"] := by
  intro anatomy session next
  have stay : ∀ operation ∈ shadowingCalls, operation.staysLinked = true := by decide
  have named : session.linked?.map (fun linked => anatomy.names linked.scope) = some ["n"] := by
    decide +kernel
  have lines : next.lines = #["0", "2"] := by
    decide +kernel
  rcases Option.map_eq_some_iff.mp named with ⟨linked, isLinked, outermost⟩
  rcases calls_leave_variables (Phrases.merges shadowingLexicon)
    (Phrases.calls shadowingLexicon) (Phrases.scopes shadowingLexicon) isLinked stay with
    ⟨⟨left, there, _, names, _⟩, alike⟩
  have present : next.linked? = some left := there
  have after : next.linked?.map (fun left => anatomy.names left.scope) = some ["n"] := by
    rw [present, Option.map_some, names, outermost]
  have bare := (congrArg Session.lines (alike (withoutStatements linked.program) rfl).2).trans
    (lines_withProgram (session.afterAll shadowingCalls) (withoutStatements linked.program))
  exact ⟨stay, linked, isLinked, outermost, after, lines, bare.trans lines⟩

/-- The script comes to the same in the language of map scripts. -/
example :
    let session : Session interpreter := ((new {}).setUp.after (.load .map shadowing)).after .link
    (session.afterAll shadowingCalls).lines = #["0", "2"] := by
  decide +kernel

end Session

end Landform
