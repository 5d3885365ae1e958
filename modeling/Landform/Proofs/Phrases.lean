import Landform.Proofs.Anatomy

namespace Landform
namespace Script

/-!
# A language of phrases

The laws of an `Anatomy` ask for a language that keeps them.  Here is a small one.  Its programs
are made of phrases, which are enough for functions that call each other, variables that are
introduced anew, loops, and early ends.  Its scripts are not read letter by letter: a lexicon
says which program a text stands for.

What a phrase does is what the script does that it stands for: a function that is called from a
function has a scope of its own, one that is called from outside is run on the scope it is
given, a loop takes its variable back with every round, and nothing assigns to a constant.

Every part of an evaluation is put together from a few primitive ones.  So the laws are shown of
the primitive parts, of what puts parts together, and then of all phrases by induction on the
depth of an evaluation.
-/

/-- What scripts are made of. -/
inductive Phrase where
  | literal (value : Value)
  | named (name : String)
  | plus (first second : Phrase)
  | equal (first second : Phrase)
  | call (name : String) (arguments : List Phrase)
  | print (written : Phrase)
  | declare (fixed : Bool) (name : String) (initial : Phrase)
  | assign (name : String) (assigned : Phrase)
  | each (name : String) (low high : Phrase) (body : List Phrase)
  | throw (thrown : Phrase)
  | leave

namespace Phrases

/-- A function; its value is that of the last phrase. -/
structure Function where
  name : String
  parameters : List String
  body : List Phrase

/-- A program: functions, and statements outside of them. -/
structure Program where
  functions : List Function
  statements : List Phrase

/-- What a variable holds, and whether that is a constant. -/
structure Held where
  value : Value
  fixed : Bool

/-- The variables of an evaluation. -/
abbrev State : Type :=
  List (ScopeEntry Held)

/-- Why an evaluation does not come to a value where it stands. -/
inductive Stop where
  | returned (value : Value)
  | failed (words : String)

/-- A part of an evaluation, in a program with some functions. -/
def Part (α : Type) :=
  List Function -> State -> Dialogue (Evaluated Function Held State (Except Stop α))

/-- The function of a name and a number of parameters. -/
def function? (functions : List Function) (name : String) (arity : Nat) : Option Function :=
  functions.find? fun function => function.name == name && function.parameters.length == arity

/-- The variables that a function introduces for its arguments. -/
def Function.entries (function : Function) (arguments : List Value) : State :=
  List.zipWith (fun name value => ⟨name, value, false⟩) function.parameters arguments

namespace Part

variable {α β : Type}

/-- Comes to a value at once. -/
def value (result : α) : Part α :=
  fun _ state => .done ⟨.ok result, [], state⟩

/-- Stops. -/
def stop (reason : Stop) : Part α :=
  fun _ state => .done ⟨.error reason, [], state⟩

/-- Goes on with the value of a part, if it comes to one. -/
def andThen (first : Part α) (next : α -> Part β) : Part β :=
  fun functions state =>
    (first functions state).bind fun ended =>
      match ended.outcome with
      | .ok result =>
          (next result functions ended.state).bind fun later =>
            .done { later with actions := ended.actions ++ later.actions }
      | .error reason => .done ⟨.error reason, ended.actions, ended.state⟩

instance : Monad Part where
  pure := value
  bind := andThen

/-- Writes a line. -/
def write (line : String) : Part Unit :=
  fun _ state => .ask (.write line) fun _ => .done ⟨.ok (), [], state⟩

/-- Introduces a variable. -/
def push (entry : ScopeEntry Held) : Part Unit :=
  fun _ state => .done ⟨.ok (), [.push entry], state ++ [entry]⟩

/-- The position of the innermost variable of a name. -/
def position? (name : String) : State -> Option Nat
  | [] => none
  | entry :: rest =>
      match position? name rest with
      | some position => some (position + 1)
      | none => if entry.name == name then some 0 else none

/-- The innermost variable of a name. -/
def find? (name : String) (state : State) : Option (Nat × Held) :=
  (position? name state).bind fun position =>
    state[position]?.map fun entry => (position, entry.content)

/-- The value of a variable. -/
def read (name : String) : Part Value :=
  fun _ state =>
    match find? name state with
    | some (_, held) => .done ⟨.ok held.value, [], state⟩
    | none => .done ⟨.error (.failed ("Variable not found: " ++ name)), [], state⟩

/-- Gives a variable that is no constant another value. -/
def assign (name : String) (assigned : Value) : Part Unit :=
  fun _ state =>
    match find? name state with
    | some (position, ⟨_, false⟩) =>
        let action : Action Function Held := .assign position ⟨assigned, false⟩
        .done ⟨.ok (), [action], action.onEntries state⟩
    | some _ => .done ⟨.error (.failed ("Cannot modify constant: " ++ name)), [], state⟩
    | none => .done ⟨.error (.failed ("Variable not found: " ++ name)), [], state⟩

/-- The function that a call is of; the call is noted. -/
def resolve (name : String) (arity : Nat) : Part (Option Function) :=
  fun functions state =>
    let found := function? functions name arity
    .done ⟨.ok found, [.call name arity found], state⟩

/-- A part whose variables are taken back, however it ends. -/
def inBlock (part : Part α) : Part α :=
  fun functions state =>
    (part functions state).bind fun ended =>
      let action : Action Function Held := .rewind state.length
      .done ⟨ended.outcome, ended.actions ++ [action], action.onEntries ended.state⟩

/-- A part that is evaluated in a scope of its own, where only its calls are to be noted. -/
def apart (opened : State) (part : Part α) : Part α :=
  fun functions state =>
    (part functions opened).bind fun ended =>
      .done ⟨ended.outcome, ended.actions.filter Action.isCall, state⟩

/-- A part that may also come to its value by returning it. -/
def returning (part : Part Value) : Part Value :=
  fun functions state =>
    (part functions state).bind fun ended =>
      match ended.outcome with
      | .error (.returned result) => .done { ended with outcome := .ok result }
      | _ => .done ended

/-- The values of some phrases. -/
def values (each : Phrase -> Part Value) : List Phrase -> Part (List Value)
  | [] => pure []
  | first :: rest => do
      let value ← each first
      return value :: (← values each rest)

/-- The value of the last of some phrases. -/
def last (each : Phrase -> Part Value) : List Phrase -> Part Value
  | [] => pure .unit
  | [phrase] => each phrase
  | first :: rest => do
      let _ ← each first
      last each rest

/-- Rounds for numbers, one after another. -/
def rounds (round : Int -> Part Value) : List Int -> Part Value
  | [] => pure .unit
  | number :: rest => do
      let _ ← round number
      rounds round rest

end Part

/-- The numbers from one to another, which is left out. -/
def numbers (low high : Int) : List Int :=
  (List.range (high - low).toNat).map fun step : Nat => low + step

/-- The value of a phrase, if it is not deeper than a bound. -/
def evaluate : (depth : Nat) -> Phrase -> Part Value
  | 0, _ => .stop (.failed "Expression exceeds maximum complexity")
  | _ + 1, .literal value => pure value
  | _ + 1, .named name => .read name
  | depth + 1, .plus first second => do
      match ← evaluate depth first, ← evaluate depth second with
      | .integer a, .integer b => return .integer (a + b)
      | _, _ => .stop (.failed "Function not found: +")
  | depth + 1, .equal first second => do
      match ← evaluate depth first, ← evaluate depth second with
      | .integer a, .integer b => return .truth (a == b)
      | _, _ => return .truth false
  | depth + 1, .call name arguments => do
      let values ← Part.values (evaluate depth) arguments
      match ← Part.resolve name values.length with
      | some function =>
          .apart (function.entries values) (.returning (.last (evaluate depth) function.body))
      | none => .stop (.failed ("Function not found: " ++ name))
  | depth + 1, .print written => do
      Part.write (← evaluate depth written).printedText
      return .unit
  | depth + 1, .declare fixed name initial => do
      let value ← evaluate depth initial
      Part.push ⟨name, value, fixed⟩
      return .unit
  | depth + 1, .assign name assigned => do
      let value ← evaluate depth assigned
      Part.assign name value
      return .unit
  | depth + 1, .each name low high body => do
      match ← evaluate depth low, ← evaluate depth high with
      | .integer low, .integer high =>
          Part.rounds (fun number => .inBlock do
            Part.push ⟨name, .integer number, false⟩
            Part.last (evaluate depth) body) (numbers low high)
      | _, _ => .stop (.failed "For loop expects iterable type")
  | depth + 1, .throw thrown => do
      let value ← evaluate depth thrown
      .stop (.failed ("Runtime error: " ++ value.printedText))
  | _ + 1, .leave => .stop (.returned .unit)

/-- How deep an evaluation may go. -/
def deepest : Nat := 64

/-- How a statement that has come to this ends. -/
def endingOf : Except Stop Value -> Ending
  | .ok _ => .goesOn
  | .error (.returned _) => .returns
  | .error (.failed words) => .fails words

/-- Performs a statement outside of functions. -/
def perform (statement : Phrase) (functions : List Function) (state : State) :
    Dialogue (Evaluated Function Held State Ending) :=
  (evaluate deepest statement functions state).bind fun ended =>
    .done ⟨endingOf ended.outcome, ended.actions, ended.state⟩

/-- What a function comes to, in words if it fails. -/
def outcomeOf : Except Stop Value -> Except String Value
  | .ok value | .error (.returned value) => .ok value
  | .error (.failed words) => .error words

/-- Introduces variables. -/
def pushAll : State -> Part Unit
  | [] => pure ()
  | entry :: rest => do
      Part.push entry
      pushAll rest

/-- Runs a function in a scope. -/
def invoke (function : Function) (arguments : List Value) (functions : List Function)
    (state : State) : Dialogue (Evaluated Function Held State (Except String Value)) :=
  ((pushAll (function.entries arguments)).andThen
      (fun _ => Part.last (evaluate deepest) function.body) functions state).bind fun ended =>
    .done ⟨outcomeOf ended.outcome, ended.actions, ended.state⟩

/-- The words about a function that there is not. -/
def missing (name : String) : String :=
  "Function not found: " ++ name

/-- Runs the statements of a program. -/
def run (program : Program) (state : State) : Dialogue (Except String Unit × State) :=
  (inTurn (fun statement => perform statement program.functions) program.statements state).bind
    fun ended => .done (ended.outcome.outcome, ended.state)

/-- Calls a function of a program; of its own variables the parameters never remain. -/
def call (rewinds : Bool) (program : Program) (name : String) (arguments : List Value)
    (state : State) : Dialogue (Except String Value × State) :=
  match function? program.functions name arguments.length with
  | none => .done (.error (missing name), state)
  | some function =>
      (invoke function arguments program.functions state).bind fun ended =>
        let introduced := ended.state.drop (state.length + (function.entries arguments).length)
        .done (ended.outcome,
          ended.state.take state.length ++ if rewinds then [] else introduced)

/-- Two programs merged to one. -/
def Program.merge (first second : Program) : Program where
  functions := second.functions ++ first.functions
  statements := first.statements ++ second.statements

/-- The language of phrases, with a lexicon of the scripts that can be read. -/
def language (lexicon : List (String × Program)) : Language where
  Program := Program
  Scope := State
  read := fun _ text =>
    match lexicon.lookup text with
    | some program => .ok program
    | none => .error "Syntax error"
  empty := ⟨[], []⟩
  merge := Program.merge
  defines := fun program name arity => (function? program.functions name arity).isSome
  newScope := []
  run := fun program _ state => run program state
  callWith := fun options program name arguments _ state =>
    if options.evaluatesFirst then
      (run program state).bind fun
        | (.ok _, ready) => call options.rewindsScope program name arguments ready
        | (.error words, left) => .done (.error words, left)
    else call options.rewindsScope program name arguments state

/-- What the language of phrases works with. -/
def anatomy (lexicon : List (String × Program)) : Anatomy (language lexicon) where
  Library := List Function
  Function := Function
  Statement := Phrase
  State := State
  Content := Held
  libraryOf := Program.functions
  statements := Program.statements
  function? := function?
  missing := fun _ name _ => missing name
  parameters := Function.entries
  opened := id
  closed := id
  entries := id
  isFixed := Held.fixed
  rewound := List.take
  perform := fun statement functions _ => perform statement functions
  invoke := fun function arguments functions _ => invoke function arguments functions

/-! ## Parts keep the laws -/

variable {lexicon : List (String × Program)}

/-- What is to hold of the end of an evaluation that begins in a state. -/
structure Keeps (lexicon : List (String × Program)) (functions : List Function) (state : State)
    {Outcome : Type} (ended : Evaluated Function Held State Outcome) : Prop where
  respect : Action.AllRespect Held.fixed state.length ended.actions state
  replayed : ended.state = Action.replay ended.actions state
  found : ∀ action ∈ ended.actions, (anatomy lexicon).FoundIn functions action

namespace Keeps

variable {functions : List Function} {state : State} {Outcome Later : Type}

theorem of_nothing (outcome : Outcome) : Keeps lexicon functions state ⟨outcome, [], state⟩ where
  respect := trivial
  replayed := rfl
  found := fun _ impossible => nomatch impossible

theorem of_action (outcome : Outcome) {action : Action Function Held}
    (respects : action.Respects Held.fixed state.length state)
    (found : (anatomy lexicon).FoundIn functions action) :
    Keeps lexicon functions state ⟨outcome, [action], action.onEntries state⟩ where
  respect := ⟨respects, trivial⟩
  replayed := rfl
  found := fun _ member => List.mem_singleton.mp member ▸ found

theorem withOutcome {ended : Evaluated Function Held State Outcome}
    (keeps : Keeps lexicon functions state ended) (outcome : Later) :
    Keeps lexicon functions state ⟨outcome, ended.actions, ended.state⟩ :=
  ⟨keeps.respect, keeps.replayed, keeps.found⟩

theorem trans {first : Evaluated Function Held State Outcome}
    {later : Evaluated Function Held State Later} (here : Keeps lexicon functions state first)
    (behind : Keeps lexicon functions first.state later) :
    Keeps lexicon functions state { later with actions := first.actions ++ later.actions } where
  respect := by
    have deep : state.length ≤ first.state.length := by
      rw [here.replayed]
      exact here.respect.le_length (Nat.le_refl _)
    refine Action.allRespect_append.mpr ⟨here.respect, ?_⟩
    rw [← here.replayed]
    exact behind.respect.mono deep
  replayed := by
    rw [Action.replay_append, ← here.replayed]
    exact behind.replayed
  found := by
    intro action member
    rcases List.mem_append.mp member with before | after
    · exact here.found action before
    · exact behind.found action after

end Keeps

/-- A part keeps the laws wherever it is evaluated. -/
def Part.Lawful (lexicon : List (String × Program)) {α : Type} (part : Part α) : Prop :=
  ∀ functions state, (part functions state).EndsIn (Keeps lexicon functions state)

namespace Part

variable {α β : Type} {part : Part α}

theorem lawful_pure (result : α) : (pure result : Part α).Lawful lexicon :=
  fun _ _ => .of_nothing _

theorem lawful_stop (reason : Stop) : (stop reason : Part α).Lawful lexicon :=
  fun _ _ => .of_nothing _

theorem lawful_write (line : String) : (write line).Lawful lexicon :=
  fun _ _ _ => .of_nothing _

theorem lawful_push (entry : ScopeEntry Held) : (push entry).Lawful lexicon :=
  fun _ _ => .of_action _ trivial trivial

theorem lawful_read (name : String) : (read name).Lawful lexicon := by
  intro functions state
  unfold read
  split <;> exact .of_nothing _

theorem lawful_assign (name : String) (assigned : Value) :
    (assign name assigned).Lawful lexicon := by
  intro functions state
  unfold assign
  split
  · rename_i position value found
    refine .of_action _ ?_ trivial
    rw [find?] at found
    rcases Option.bind_eq_some_iff.mp found with ⟨_, _, behind⟩
    rcases Option.map_eq_some_iff.mp behind with ⟨entry, there, same⟩
    rcases Prod.mk.inj same with ⟨rfl, content⟩
    exact ⟨entry, there, congrArg Held.fixed content⟩
  · exact .of_nothing _
  · exact .of_nothing _

theorem lawful_resolve (name : String) (arity : Nat) : (resolve name arity).Lawful lexicon :=
  fun _ _ => .of_action _ trivial rfl

theorem Lawful.andThen {next : α -> Part β} (first : part.Lawful lexicon)
    (later : ∀ result, (next result).Lawful lexicon) : (part >>= next).Lawful lexicon := by
  intro functions state
  refine (first functions state).bind fun ended here => ?_
  split
  · rename_i result _
    exact (later result functions ended.state).bind fun last behind => here.trans behind
  · exact here.withOutcome _

theorem Lawful.inBlock (lawful : part.Lawful lexicon) : part.inBlock.Lawful lexicon := by
  intro functions state
  refine (lawful functions state).bind fun ended here => ?_
  refine ⟨Action.allRespect_append.mpr ⟨here.respect, Nat.le_refl _, trivial⟩, ?_, ?_⟩
  · rw [Action.replay_append, ← here.replayed]
    rfl
  · intro action member
    rcases List.mem_append.mp member with before | last
    · exact here.found action before
    · rw [List.mem_singleton.mp last]
      trivial

theorem Lawful.apart (lawful : part.Lawful lexicon) (opened : State) :
    (part.apart opened).Lawful lexicon := by
  intro functions state
  refine (lawful functions opened).bind fun ended here => ?_
  have unseen : Action.AllRespect Held.fixed state.length
        (ended.actions.filter Action.isCall) state ∧
      Action.replay (ended.actions.filter Action.isCall) state = state :=
    Action.replay_calls fun action member => (List.mem_filter.mp member).2
  exact ⟨unseen.1, unseen.2.symm, fun action member =>
    here.found action (List.mem_filter.mp member).1⟩

theorem Lawful.returning {part : Part Value} (lawful : part.Lawful lexicon) :
    part.returning.Lawful lexicon := by
  intro functions state
  refine (lawful functions state).bind fun ended here => ?_
  split
  · exact here.withOutcome _
  · exact here

section

variable {each : Phrase -> Part Value} (eachLawful : ∀ phrase, (each phrase).Lawful lexicon)
include eachLawful

theorem lawful_values (phrases : List Phrase) : (values each phrases).Lawful lexicon := by
  induction phrases with
  | nil => exact lawful_pure _
  | cons first rest inductionHypothesis =>
      refine (eachLawful first).andThen fun value => ?_
      exact inductionHypothesis.andThen fun values => lawful_pure _

theorem lawful_last (phrases : List Phrase) : (last each phrases).Lawful lexicon := by
  induction phrases with
  | nil => exact lawful_pure _
  | cons first rest inductionHypothesis =>
      cases rest with
      | nil => exact eachLawful first
      | cons second others => exact (eachLawful first).andThen fun _ => inductionHypothesis

end

theorem lawful_rounds {round : Int -> Part Value}
    (roundLawful : ∀ number, (round number).Lawful lexicon) (numbers : List Int) :
    (rounds round numbers).Lawful lexicon := by
  induction numbers with
  | nil => exact lawful_pure _
  | cons number rest inductionHypothesis =>
      exact (roundLawful number).andThen fun _ => inductionHypothesis

/-- Every phrase keeps the laws, by induction on the depth of its evaluation. -/
theorem evaluate_lawful (depth : Nat) (phrase : Phrase) :
    (evaluate depth phrase).Lawful lexicon := by
  induction depth generalizing phrase with
  | zero => exact lawful_stop _
  | succ depth each =>
      cases phrase with
      | literal value => exact lawful_pure value
      | named name => exact lawful_read name
      | leave => exact lawful_stop _
      | throw thrown => exact (each thrown).andThen fun _ => lawful_stop _
      | print written =>
          exact (each written).andThen fun _ => (lawful_write _).andThen fun _ => lawful_pure _
      | declare fixed name initial =>
          exact (each initial).andThen fun _ => (lawful_push _).andThen fun _ => lawful_pure _
      | assign name assigned =>
          exact (each assigned).andThen fun _ =>
            (lawful_assign name _).andThen fun _ => lawful_pure _
      | plus first second =>
          refine (each first).andThen fun a => (each second).andThen fun b => ?_
          split
          · exact lawful_pure _
          · exact lawful_stop _
      | equal first second =>
          refine (each first).andThen fun a => (each second).andThen fun b => ?_
          split <;> exact lawful_pure _
      | call name arguments =>
          refine (lawful_values each arguments).andThen fun values => ?_
          refine (lawful_resolve name values.length).andThen fun found => ?_
          cases found with
          | none => exact lawful_stop _
          | some function => exact (lawful_last each function.body).returning.apart _
      | each name low high body =>
          refine (each low).andThen fun a => (each high).andThen fun b => ?_
          split
          · refine lawful_rounds (fun number => ?_) _
            exact ((lawful_push _).andThen fun _ => lawful_last each body).inBlock
          · exact lawful_stop _

end Part

/-! ## The language keeps the laws -/

theorem pushAll_eq (entries : State) (functions : List Function) (state : State) :
    pushAll entries functions state =
      .done ⟨.ok (), entries.map .push, state ++ entries⟩ := by
  induction entries generalizing state with
  | nil =>
      rw [List.append_nil]
      rfl
  | cons entry rest inductionHypothesis =>
      have later := inductionHypothesis (state ++ [entry])
      rw [List.append_assoc] at later
      simp only [pushAll, bind, Part.andThen, Part.push, Dialogue.bind, later]
      rfl

theorem pushAll_lawful (entries : State) : (pushAll entries).Lawful lexicon := by
  induction entries with
  | nil => exact Part.lawful_pure ()
  | cons entry rest inductionHypothesis =>
      exact (Part.lawful_push entry).andThen fun _ => inductionHypothesis

/-- A function introduces its parameters first, and keeps the laws whatever it does then. -/
theorem invoke_ends (function : Function) (arguments : List Value) (functions : List Function)
    (state : State) :
    (invoke function arguments functions state).EndsIn fun ended =>
      Keeps lexicon functions state ended ∧
        Exists fun later => ended.actions = (function.entries arguments).map .push ++ later := by
  have introduced : (pushAll (function.entries arguments)).Lawful lexicon := pushAll_lawful _
  have evaluated : (Part.last (evaluate deepest) function.body).Lawful lexicon :=
    Part.lawful_last (Part.evaluate_lawful deepest) function.body
  have pushed := introduced functions state
  rw [pushAll_eq] at pushed
  have body := evaluated functions (state ++ function.entries arguments)
  have whole : (((pushAll (function.entries arguments)).andThen fun _ =>
      Part.last (evaluate deepest) function.body) functions state).EndsIn fun ended =>
      Keeps lexicon functions state ended ∧
        Exists fun later => ended.actions = (function.entries arguments).map .push ++ later := by
    rw [Part.andThen, pushAll_eq]
    exact body.bind fun ended here => ⟨pushed.trans here, ended.actions, rfl⟩
  exact whole.bind fun ended keeps => ⟨keeps.1.withOutcome _, keeps.2⟩

theorem merges (lexicon : List (String × Program)) : (anatomy lexicon).Merges where
  function?_empty _ _ := rfl
  function?_merge _ _ _ _ := List.find?_append
  statements_empty := rfl
  statements_merge _ _ := rfl
  defines _ _ _ := rfl

theorem runs (lexicon : List (String × Program)) : (anatomy lexicon).Runs where
  run _ _ _ := rfl

theorem calls (lexicon : List (String × Program)) : (anatomy lexicon).Calls where
  callWith program name arguments setting scope := by
    simp only [language, Bool.false_eq_true, if_false, call, Anatomy.callFromOutside]
    cases found : function? program.functions name arguments.length with
    | none =>
        simp only [anatomy, found]
    | some function =>
        simp only [anatomy, found, if_true, List.append_nil]
        rfl
  perform_foundIn statement functions _ state :=
    (Part.evaluate_lawful deepest statement functions state).bind fun _ keeps => keeps.found
  invoke_foundIn function arguments functions _ state :=
    (invoke_ends function arguments functions state).mono fun _ ended => ended.1.found

theorem scopes (lexicon : List (String × Program)) : (anatomy lexicon).Scopes where
  entries_rewound _ _ := rfl
  visible_closed _ := rfl
  invoke_acts function arguments functions _ state :=
    (@invoke_ends lexicon function arguments functions state).mono
      fun _ ended => ⟨ended.1.respect, ended.1.replayed, ended.2⟩

end Phrases

end Script
end Landform
