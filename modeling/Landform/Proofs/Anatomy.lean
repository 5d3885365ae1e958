import Landform.Proofs.Exchange
import Landform.Script.Language

namespace Landform
namespace Script

/-!
# What a session relies on of its language

A session merges scripts, runs what they make up, and calls its functions; all three are done by
the language.  What holds of every link and of every call then rests on what the language is
known to do.  This is written down here, for any language, and nothing else about languages is
used elsewhere.

An `Anatomy` names what a language works with, and leaves open what it is: functions and
statements, the state of an evaluation, and the variables in it.  An evaluation comes to an
outcome and a state, and besides it is known for its actions: which functions were run for
which calls, and what was done to the variables.

The laws are four, and each is about one thing a session uses.  `Merges` is about programs,
`Runs` about the statements outside of functions, `Calls` about how a function is found and
entered, and `Scopes` about what becomes of variables.  None of them speaks of sessions, of
several scripts, or of several calls.
-/

/-! ## Actions -/

/-- A variable in a scope: its name, and what it holds. -/
structure ScopeEntry (Content : Type) where
  name : String
  content : Content

/--
Something that an evaluation does besides its requests: a call by name, with the function of the
program that is run for it, if it is one of the program; and the three ways to change the
variables that the evaluation began with.  Variables are counted from the outermost one.  What is
assigned is a content as a whole: whether it is fixed goes with the value, not with the variable.
-/
inductive Action (Function Content : Type) where
  | call (name : String) (arity : Nat) (function? : Option Function)
  | push (entry : ScopeEntry Content)
  | assign (position : Nat) (content : Content)
  | rewind (size : Nat)

namespace Action

variable {Function Content : Type}

/-- Variables after an action. -/
def onEntries (entries : List (ScopeEntry Content)) :
    Action Function Content -> List (ScopeEntry Content)
  | call _ _ _ => entries
  | push entry => entries ++ [entry]
  | assign position content =>
      entries.modify position fun entry => { entry with content := content }
  | rewind size => entries.take size

/-- Whether an action is a call. -/
def isCall : Action Function Content -> Bool
  | call _ _ _ => true
  | _ => false

/-- Whether an action keeps clear of what it must not touch: contents that are fixed, and the
outermost variables, which are not to be wound back. -/
def Respects (isFixed : Content -> Bool) (floor : Nat) (entries : List (ScopeEntry Content)) :
    Action Function Content -> Prop
  | assign position _ =>
      Exists fun entry => entries[position]? = some entry ∧ isFixed entry.content = false
  | rewind size => floor ≤ size
  | _ => True

/-- Whether an action assigns to one of the outermost variables. -/
def assignsBelow (floor : Nat) : Action Function Content -> Bool
  | assign position _ => decide (position < floor)
  | _ => false

/-- Variables after some actions. -/
def replay (actions : List (Action Function Content)) (entries : List (ScopeEntry Content)) :
    List (ScopeEntry Content) :=
  actions.foldl onEntries entries

/-- Each of some actions keeps clear of what it must not touch. -/
def AllRespect (isFixed : Content -> Bool) (floor : Nat) :
    List (Action Function Content) -> List (ScopeEntry Content) -> Prop
  | [], _ => True
  | action :: rest, entries =>
      action.Respects isFixed floor entries ∧
        AllRespect isFixed floor rest (action.onEntries entries)

/-- Those of some actions that assign to the outermost variables. -/
def outer (floor : Nat) (actions : List (Action Function Content)) :
    List (Action Function Content) :=
  actions.filter (assignsBelow floor)

variable {isFixed : Content -> Bool} {floor : Nat} {entries : List (ScopeEntry Content)}
  {action : Action Function Content} {actions later : List (Action Function Content)}

@[simp] theorem replay_cons :
    replay (action :: actions) entries = replay actions (action.onEntries entries) :=
  rfl

theorem replay_append : replay (actions ++ later) entries = replay later (replay actions entries) :=
  List.foldl_append

theorem replay_pushes (pushed : List (ScopeEntry Content)) :
    replay (pushed.map fun entry => (push entry : Action Function Content)) entries =
      entries ++ pushed := by
  induction pushed generalizing entries with
  | nil => exact (List.append_nil entries).symm
  | cons entry rest inductionHypothesis =>
      rw [List.map_cons, replay_cons, inductionHypothesis, onEntries, List.append_assoc]
      rfl

theorem allRespect_append :
    AllRespect isFixed floor (actions ++ later) entries ↔
      AllRespect isFixed floor actions entries ∧
        AllRespect isFixed floor later (replay actions entries) := by
  induction actions generalizing entries with
  | nil => exact ⟨fun respect => ⟨trivial, respect⟩, And.right⟩
  | cons action rest inductionHypothesis =>
      simp only [List.cons_append, AllRespect, replay_cons, inductionHypothesis, and_assoc]

/-- Among the outermost variables, an action that keeps clear is seen only if it assigns there. -/
theorem Respects.take_onEntries (respects : action.Respects isFixed floor entries)
    (deep : floor ≤ entries.length) :
    floor ≤ (action.onEntries entries).length ∧
      (action.onEntries entries).take floor =
        if action.assignsBelow floor then action.onEntries (entries.take floor)
        else entries.take floor := by
  cases action with
  | call name arity function? => exact ⟨deep, rfl⟩
  | push entry =>
      refine ⟨?_, List.take_append_of_le_length deep⟩
      rw [onEntries, List.length_append]
      exact Nat.le_add_right_of_le deep
  | assign position content =>
      refine ⟨?_, ?_⟩
      · rw [onEntries, List.length_modify]
        exact deep
      · simp only [onEntries, assignsBelow, decide_eq_true_eq, List.take_modify]
        split
        · rfl
        · rename_i above
          refine List.modify_eq_self ?_
          rw [List.length_take]
          omega
  | rewind size =>
      have covered : floor ≤ size := respects
      refine ⟨?_, ?_⟩
      · rw [onEntries, List.length_take]
        omega
      · rw [onEntries, List.take_take, Nat.min_eq_left covered]
        rfl

theorem AllRespect.le_length (respect : AllRespect isFixed floor actions entries)
    (deep : floor ≤ entries.length) : floor ≤ (replay actions entries).length := by
  induction actions generalizing entries with
  | nil => exact deep
  | cons action rest inductionHypothesis =>
      rcases respect with ⟨here, later⟩
      exact inductionHypothesis later (here.take_onEntries deep).1

/-- What keeps clear of more variables keeps clear of fewer. -/
theorem AllRespect.mono {lower : Nat} (respect : AllRespect isFixed floor actions entries)
    (fewer : lower ≤ floor) : AllRespect isFixed lower actions entries := by
  induction actions generalizing entries with
  | nil => trivial
  | cons action rest inductionHypothesis =>
      rcases respect with ⟨here, later⟩
      refine ⟨?_, inductionHypothesis later⟩
      cases action with
      | call | push => trivial
      | assign position content => exact here
      | rewind size => exact Nat.le_trans fewer here

/-- Calls alone do nothing to variables. -/
theorem replay_calls (calls : ∀ action ∈ actions, action.isCall = true) :
    AllRespect isFixed floor actions entries ∧ replay actions entries = entries := by
  induction actions with
  | nil => exact ⟨trivial, rfl⟩
  | cons action rest inductionHypothesis =>
      rcases inductionHypothesis fun other member =>
        calls other (List.mem_cons_of_mem action member) with ⟨respect, same⟩
      have isCall := calls action List.mem_cons_self
      cases action with
      | call name arity function? => exact ⟨⟨trivial, respect⟩, same⟩
      | push | assign | rewind => cases isCall

/-- What actions that keep clear make of the outermost variables is what those of them make of
these that assign to them. -/
theorem AllRespect.take_replay (respect : AllRespect isFixed floor actions entries)
    (deep : floor ≤ entries.length) :
    (replay actions entries).take floor = replay (outer floor actions) (entries.take floor) := by
  induction actions generalizing entries with
  | nil => rfl
  | cons action rest inductionHypothesis =>
      rcases respect with ⟨here, later⟩
      rcases here.take_onEntries deep with ⟨deeper, taken⟩
      rw [replay_cons, inductionHypothesis later deeper, taken, outer, outer, List.filter_cons]
      split
      · rfl
      · rfl

/-- What assigns to the outermost variables keeps clear of what is fixed, also by itself. -/
theorem AllRespect.outer (respect : AllRespect isFixed floor actions entries)
    (deep : floor ≤ entries.length) :
    AllRespect isFixed floor (outer floor actions) (entries.take floor) := by
  induction actions generalizing entries with
  | nil => trivial
  | cons action rest inductionHypothesis =>
      rcases respect with ⟨here, later⟩
      rcases here.take_onEntries deep with ⟨deeper, taken⟩
      have behind := inductionHypothesis later deeper
      rw [taken] at behind
      rw [Action.outer, List.filter_cons]
      cases below : action.assignsBelow floor with
      | false =>
          rw [below] at behind
          exact behind
      | true =>
          rw [below] at behind
          refine ⟨?_, behind⟩
          cases action with
          | assign position content =>
              rcases here with ⟨entry, found, free⟩
              refine ⟨entry, ?_, free⟩
              rw [List.getElem?_take_of_lt (of_decide_eq_true below)]
              exact found
          | call | push | rewind => cases below

/-! Assignments leave the names of variables, and what is fixed. -/

theorem names_onEntries (assigns : action.assignsBelow floor = true) :
    (action.onEntries entries).map ScopeEntry.name = entries.map ScopeEntry.name := by
  cases action with
  | assign position content =>
      refine List.ext_getElem? fun index => ?_
      simp only [onEntries, List.getElem?_map, List.getElem?_modify]
      cases entries[index]? with
      | none => rfl
      | some entry =>
          refine congrArg some ?_
          split <;> rfl
  | call | push | rewind => cases assigns

theorem names_replay (assign : ∀ action ∈ actions, action.assignsBelow floor = true) :
    (replay actions entries).map ScopeEntry.name = entries.map ScopeEntry.name := by
  induction actions generalizing entries with
  | nil => rfl
  | cons action rest inductionHypothesis =>
      rw [replay_cons,
        inductionHypothesis fun other member => assign other (List.mem_cons_of_mem action member)]
      exact names_onEntries (assign action List.mem_cons_self)

theorem fixed_onEntries (respects : action.Respects isFixed floor entries)
    (assigns : action.assignsBelow floor = true) {index : Nat} {entry : ScopeEntry Content}
    (found : entries[index]? = some entry) (fixed : isFixed entry.content = true) :
    (action.onEntries entries)[index]? = some entry := by
  cases action with
  | assign position content =>
      rcases respects with ⟨assigned, there, free⟩
      have other : position ≠ index := by
        intro same
        rw [same, found] at there
        cases there
        rw [free] at fixed
        cases fixed
      rw [onEntries, List.getElem?_modify_ne _ _ other]
      exact found
  | call | push | rewind => cases assigns

theorem fixed_replay (respect : AllRespect isFixed floor actions entries)
    (assign : ∀ action ∈ actions, action.assignsBelow floor = true) {index : Nat}
    {entry : ScopeEntry Content} (found : entries[index]? = some entry)
    (fixed : isFixed entry.content = true) : (replay actions entries)[index]? = some entry := by
  induction actions generalizing entries with
  | nil => exact found
  | cons action rest inductionHypothesis =>
      rcases respect with ⟨here, later⟩
      have kept := fixed_onEntries here (assign action List.mem_cons_self) found fixed
      exact inductionHypothesis later
        (fun other member => assign other (List.mem_cons_of_mem action member)) kept

end Action

/-! ## Anatomies -/

/-- What an evaluation comes to: an outcome, what it has done, and the state it leaves. -/
structure Evaluated (Function Content State Outcome : Type) where
  outcome : Outcome
  actions : List (Action Function Content)
  state : State

/-- How a statement ends: the next one has its turn, or the evaluation returns, or it fails. -/
inductive Ending where
  | goesOn
  | returns
  | fails (words : String)

/-- What a run that ends so comes to. -/
def Ending.outcome : Ending -> Except String Unit
  | fails words => .error words
  | _ => .ok ()

/-- Statements in turn, each in the state that the one before it has left, up to the first that
does not go on. -/
def inTurn {Statement Function Content State : Type}
    (perform : Statement -> State -> Dialogue (Evaluated Function Content State Ending)) :
    List Statement -> State -> Dialogue (Evaluated Function Content State Ending)
  | [], state => .done ⟨.goesOn, [], state⟩
  | statement :: rest, state =>
      (perform statement state).bind fun first =>
        match first.outcome with
        | .goesOn =>
            (inTurn perform rest first.state).bind fun later =>
              .done { later with actions := first.actions ++ later.actions }
        | _ => .done first

/-- Where each statement has a property of its actions that goes together, so have all in turn. -/
theorem inTurn_ends {Statement Function Content State : Type}
    {perform : Statement -> State -> Dialogue (Evaluated Function Content State Ending)}
    {kept : Action Function Content -> Prop}
    (each : ∀ statement state, (perform statement state).EndsIn fun ended =>
      ∀ action ∈ ended.actions, kept action)
    (statements : List Statement) (state : State) :
    (inTurn perform statements state).EndsIn fun ended =>
      ∀ action ∈ ended.actions, kept action := by
  induction statements generalizing state with
  | nil => exact fun _ impossible => nomatch impossible
  | cons statement rest inductionHypothesis =>
      refine (each statement state).bind fun first here => ?_
      split
      · refine (inductionHypothesis first.state).bind fun later behind => ?_
        intro action member
        rcases List.mem_append.mp member with before | after
        · exact here action before
        · exact behind action after
      · exact here

/--
What a language works with.  A library is all there is in a program but its statements outside
of functions.  A state is what an evaluation changes; it is opened on a scope, and closed when
the evaluation is done.
-/
structure Anatomy (language : Language) where
  Library : Type
  Function : Type
  Statement : Type
  State : Type
  Content : Type
  libraryOf : language.Program -> Library
  statements : language.Program -> List Statement
  function? : Library -> String -> Nat -> Option Function
  missing : Library -> String -> List Value -> String
  parameters : Function -> List Value -> List (ScopeEntry Content)
  opened : language.Scope -> State
  closed : State -> language.Scope
  entries : State -> List (ScopeEntry Content)
  isFixed : Content -> Bool
  rewound : Nat -> State -> State
  perform : Statement -> Library -> Setting -> State ->
    Dialogue (Evaluated Function Content State Ending)
  invoke : Function -> List Value -> Library -> Setting -> State ->
    Dialogue (Evaluated Function Content State (Except String Value))

namespace Anatomy

variable {language : Language} (anatomy : Anatomy language)

/-- What actions of evaluations are made of. -/
abbrev Act : Type :=
  Action anatomy.Function anatomy.Content

/-- Statements of a program with some library, in turn. -/
def performAll (library : anatomy.Library) (setting : Setting)
    (statements : List anatomy.Statement) (state : anatomy.State) :
    Dialogue (Evaluated anatomy.Function anatomy.Content anatomy.State Ending) :=
  inTurn (fun statement => anatomy.perform statement library setting) statements state

/-- The variables of a scope. -/
def visible (scope : language.Scope) : List (ScopeEntry anatomy.Content) :=
  anatomy.entries (anatomy.opened scope)

/-- A call from outside, of which nothing remains in the scope: the function of the library is
run on the scope, and then as many variables are left as there were before. -/
def callFromOutside (library : anatomy.Library) (name : String) (arguments : List Value)
    (setting : Setting) (scope : language.Scope) :
    Dialogue (Except String Value × language.Scope) :=
  match anatomy.function? library name arguments.length with
  | none => .done (.error (anatomy.missing library name arguments), scope)
  | some function =>
      (anatomy.invoke function arguments library setting (anatomy.opened scope)).bind
        fun ended =>
          .done (ended.outcome,
            anatomy.closed (anatomy.rewound (anatomy.visible scope).length ended.state))

/-- If an action is a call, it is one of the function that a library has. -/
def FoundIn (library : anatomy.Library) : anatomy.Act -> Prop
  | .call name arity function? => function? = anatomy.function? library name arity
  | _ => True

/-! ## Laws -/

/--
Merging two programs: the statements of the second come behind those of the first, and of two
functions with one name and number of parameters that of the second counts.  A program defines
what can be found in it.
-/
structure Merges : Prop where
  function?_empty : ∀ name arity,
    anatomy.function? (anatomy.libraryOf language.empty) name arity = none
  function?_merge : ∀ first second name arity,
    anatomy.function? (anatomy.libraryOf (language.merge first second)) name arity =
      (anatomy.function? (anatomy.libraryOf second) name arity).or
        (anatomy.function? (anatomy.libraryOf first) name arity)
  statements_empty : anatomy.statements language.empty = []
  statements_merge : ∀ first second,
    anatomy.statements (language.merge first second) =
      anatomy.statements first ++ anatomy.statements second
  defines : ∀ program name arity,
    language.defines program name arity =
      (anatomy.function? (anatomy.libraryOf program) name arity).isSome

/-- A run performs the statements of the program in turn. -/
structure Runs : Prop where
  run : ∀ program setting scope,
    language.run program setting scope =
      (anatomy.performAll (anatomy.libraryOf program) setting (anatomy.statements program)
          (anatomy.opened scope)).bind
        fun ended => .done (ended.outcome.outcome, anatomy.closed ended.state)

/--
A call from outside that evaluates no statements and winds the scope back does just that, and
a call inside of an evaluation is of the function that the library has.
-/
structure Calls : Prop where
  callWith : ∀ program name arguments setting scope,
    language.callWith { evaluatesFirst := false, rewindsScope := true } program name arguments
        setting scope =
      anatomy.callFromOutside (anatomy.libraryOf program) name arguments setting scope
  perform_foundIn : ∀ statement library setting state,
    (anatomy.perform statement library setting state).EndsIn fun ended =>
      ∀ action ∈ ended.actions, anatomy.FoundIn library action
  invoke_foundIn : ∀ function arguments library setting state,
    (anatomy.invoke function arguments library setting state).EndsIn fun ended =>
      ∀ action ∈ ended.actions, anatomy.FoundIn library action

/--
Variables: winding back leaves the outermost ones, and a scope has those that it was closed
with.  A function begins by introducing its parameters.  Whatever it does then, it assigns to
nothing that is fixed, and winds nothing back that was there when it began.
-/
structure Scopes : Prop where
  entries_rewound : ∀ size state,
    anatomy.entries (anatomy.rewound size state) = (anatomy.entries state).take size
  visible_closed : ∀ state, anatomy.visible (anatomy.closed state) = anatomy.entries state
  invoke_acts : ∀ function arguments library setting state,
    (anatomy.invoke function arguments library setting state).EndsIn fun ended =>
      Action.AllRespect anatomy.isFixed (anatomy.entries state).length ended.actions
          (anatomy.entries state) ∧
        anatomy.entries ended.state = Action.replay ended.actions (anatomy.entries state) ∧
        Exists fun later =>
          ended.actions = (anatomy.parameters function arguments).map .push ++ later

end Anatomy

end Script
end Landform
