import Landform.Generation
import Landform.Proofs.Linking
import Landform.Proofs.Painting

namespace Landform

open Script

variable {language : Language}

/-!
# The calls of a rendering

A rendering calls functions at the points where the painter asks for them, and each call may
change the variables for the next.  `Calling` holds what the calls so far have left and what
they were; no session is among it.  `overlayHost_mirrors` says that the host which works on a
session answers just like the one which only makes the calls, and that the session's journal
gains the failures of the calls and nothing else.
-/

/-! ## Calls by themselves -/

/-- A call of a script algorithm, and what it has answered. -/
structure AlgorithmCall where
  function : String
  x : Int
  y : Int
  answer : Except String Bool

namespace AlgorithmCall

/-- The message about a call that has failed. -/
def failure? (call : AlgorithmCall) : Option String :=
  match call.answer with
  | .ok _ => none
  | .error message => some message

end AlgorithmCall

/-- What the calls of a rendering have left so far, and the calls in their order. -/
structure Calling (language : Language) where
  linked : Linked language
  lines : List String
  calls : List AlgorithmCall := []

/-- What a call comes to, as a yes or no. -/
def HostCall.answer (call : HostCall language) : Except String Bool :=
  match call.exchange.result.1 with
  | .ok value => .ok value.assents
  | .error words => .error (Session.failureText call.function words)

namespace Calling

/-- The messages about the calls that have failed. -/
def failures (calling : Calling language) : List String :=
  calling.calls.filterMap AlgorithmCall.failure?

/-- Whether a call of a function has failed. -/
def hasFailed (calling : Calling language) (function : String) : Bool :=
  calling.calls.any fun call => call.function == function && call.failure?.isSome

/-- The call of a function at a point. -/
def callAt (calling : Calling language) (setting : Setting) (function : String) (x y : Int) :
    HostCall language where
  linked := calling.linked
  setting := setting
  function := function
  arguments := [.integer x, .integer y]
  sheets := calling.linked.sheets

/-- What a call of a function at a point answers; a function that is not there cannot. -/
def answerAt (calling : Calling language) (setting : Setting) (function : String)
    (x y : Int) : Except String Bool :=
  if language.defines calling.linked.program function 2 then
    (calling.callAt setting function x y).answer
  else .error (Session.noAlgorithm function).message

/-- What there is after a call of a function at a point. -/
def after (calling : Calling language) (setting : Setting) (function : String) (x y : Int) :
    Calling language :=
  let calls := calling.calls ++ [⟨function, x, y, calling.answerAt setting function x y⟩]
  if language.defines calling.linked.program function 2 then
    let call := calling.callAt setting function x y
    { linked := call.after, lines := calling.lines ++ call.exchange.lines, calls := calls }
  else { calling with calls := calls }

end Calling

namespace Calling

theorem after_calls (calling : Calling language) (setting : Setting) (function : String)
    (x y : Int) :
    (calling.after setting function x y).calls =
      calling.calls ++ [⟨function, x, y, calling.answerAt setting function x y⟩] := by
  unfold after
  split <;> rfl

theorem after_sheets {calling : Calling language} (sheets : calling.linked.sheets = [])
    (setting : Setting) (function : String) (x y : Int) :
    (calling.after setting function x y).linked.sheets = [] := by
  unfold after
  split
  · simp only [HostCall.after, HostCall.exchange, callAt, sheets, exchange_sheets_nil]
  · exact sheets

theorem failures_of_ok {calling : Calling language} {setting : Setting} {function : String}
    {x y : Int} {covered : Bool} (answer : calling.answerAt setting function x y = .ok covered) :
    (calling.after setting function x y).failures = calling.failures := by
  simp only [failures, after_calls, answer, List.filterMap_append, List.filterMap_cons,
    List.filterMap_nil, AlgorithmCall.failure?, List.append_nil]

theorem failures_of_error {calling : Calling language} {setting : Setting} {function : String}
    {x y : Int} {message : String}
    (answer : calling.answerAt setting function x y = .error message) :
    (calling.after setting function x y).failures = calling.failures ++ [message] := by
  simp only [failures, after_calls, answer, List.filterMap_append, List.filterMap_cons,
    List.filterMap_nil, AlgorithmCall.failure?]

theorem hasFailed_of_ok {calling : Calling language} {setting : Setting} {function : String}
    {x y : Int} {covered : Bool} (answer : calling.answerAt setting function x y = .ok covered)
    (other : String) :
    (calling.after setting function x y).hasFailed other = calling.hasFailed other := by
  simp only [hasFailed, after_calls, answer, List.any_append, List.any_cons, List.any_nil,
    AlgorithmCall.failure?, Option.isSome_none, Bool.and_false, Bool.or_false]

theorem hasFailed_of_error {calling : Calling language} {setting : Setting}
    {function : String} {x y : Int} {message : String}
    (answer : calling.answerAt setting function x y = .error message) (other : String) :
    (calling.after setting function x y).hasFailed other =
      (calling.hasFailed other || function == other) := by
  simp only [hasFailed, after_calls, answer, List.any_append, List.any_cons, List.any_nil,
    AlgorithmCall.failure?, Option.isSome_some, Bool.and_true, Bool.or_false]

end Calling

/-- The host that only makes the calls.  A function that has failed is not called again. -/
def callHost (setting : Setting) : Landscape.ScriptHost (Calling language) where
  covers := fun calling function x y =>
    if calling.hasFailed function then (false, calling)
    else
      ((calling.answerAt setting function x y).toOption.getD false,
        calling.after setting function x y)

/-! ## The host that works on a session -/

/-- The state of a session's host, beside what its calls have left by themselves. -/
structure Mirrors (setting : Setting) (reported : List String)
    (state : Generation.OverlayState language) (calling : Calling language) : Prop where
  linked : Exists fun engine =>
    state.session.engine? = some engine ∧ engine.linked? = some calling.linked
  sheets : calling.linked.sheets = []
  setting : state.session.setting = setting
  lines : state.session.lines = calling.lines.toArray
  journal : state.session.journal = ⟨(reported ++ calling.failures).toArray⟩
  failed : ∀ function, state.failed.contains function = calling.hasFailed function

/-- A call on a session does what the call does by itself; nothing but its failure is left to
report. -/
theorem callAlgorithm_eq {session : Session language} {engine : Engine language}
    {calling : Calling language} (there : session.engine? = some engine)
    (isLinked : engine.linked? = some calling.linked) (sheets : calling.linked.sheets = [])
    (written : session.lines = calling.lines.toArray) (function : String) (x y : Int) :
    Exists fun outcome => Exists fun after =>
      session.callAlgorithm function x y = (outcome, after) ∧
      outcome.mapError Fault.message = calling.answerAt session.setting function x y ∧
      (Exists fun engine => after.engine? = some engine ∧
        engine.linked? = some (calling.after session.setting function x y).linked) ∧
      after.setting = session.setting ∧
      after.lines = (calling.after session.setting function x y).lines.toArray ∧
      after.journal = session.journal := by
  cases defined : language.defines calling.linked.program function 2 with
  | false =>
      refine ⟨.error (Session.noAlgorithm function), session, ?_, ?_, ⟨engine, there, ?_⟩, rfl,
        ?_, rfl⟩
      · simp only [Session.callAlgorithm, there, isLinked, defined, Bool.false_eq_true, if_false]
      · simp only [Calling.answerAt, defined, Bool.false_eq_true, if_false]
        rfl
      · simp only [Calling.after, defined, Bool.false_eq_true, if_false, isLinked]
      · simp only [Calling.after, defined, Bool.false_eq_true, if_false, written]
  | true =>
      let call := calling.callAt session.setting function x y
      have quiet : call.exchange.notes = [] := by
        simp only [call, HostCall.exchange, Calling.callAt, sheets, exchange_notes_nil]
      let after : Session language :=
        { session with
          engine? := some { engine with linked? := some call.after }
          lines := session.lines ++ call.exchange.lines.toArray }
      have called : session.callLinked engine calling.linked function
          [.integer x, .integer y] calling.linked.sheets =
            (call.exchange.result.1, after, call.exchange.sheets) := by
        have journal : session.journal.append call.exchange.notes.toArray = session.journal := by
          rw [quiet, Journal.append_empty]
        simp only [after]
        rw [← journal]
        exact callLinked_eq session engine calling.linked function _ _
      have answer : calling.answerAt session.setting function x y = call.answer := by
        simp only [Calling.answerAt, defined, if_true, call]
      have next : calling.after session.setting function x y =
          { linked := call.after
            lines := calling.lines ++ call.exchange.lines
            calls := calling.calls ++ [⟨function, x, y, call.answer⟩] } := by
        simp only [Calling.after, answer, defined, if_true, call]
      rw [answer, next]
      simp only [Session.callAlgorithm, there, isLinked, defined, if_true, called,
        HostCall.answer]
      cases result : call.exchange.result.1 with
      | ok value =>
          refine ⟨_, after, rfl, rfl, ⟨_, rfl, rfl⟩, rfl, ?_, rfl⟩
          simp only [after, written, List.append_toArray]
      | error words =>
          refine ⟨_, after, rfl, rfl, ⟨_, rfl, rfl⟩, rfl, ?_, rfl⟩
          simp only [after, written, List.append_toArray]

/-- A host on a session answers as the calls do by themselves, and reports their failures. -/
theorem overlayHost_mirrors (setting : Setting) (reported : List String) :
    Landscape.AnswerAlike
      (Generation.overlayHost : Landscape.ScriptHost (Generation.OverlayState language))
      (callHost setting) (Mirrors setting reported) := by
  rintro ⟨session, failed⟩ calling mirrors function x y
  have known := mirrors.failed function
  cases before : calling.hasFailed function with
  | true =>
      rw [before] at known
      simp only [Generation.overlayHost, callHost, known, before, if_true, true_and]
      exact mirrors
  | false =>
      rw [before] at known
      rcases mirrors.linked with ⟨engine, there, isLinked⟩
      rcases callAlgorithm_eq there isLinked mirrors.sheets mirrors.lines function x y with
        ⟨outcome, after, called, answer, nowLinked, told, lines, journal⟩
      have heard : session.setting = setting := mirrors.setting
      rw [heard] at answer nowLinked told lines
      have reports : session.journal = ⟨(reported ++ calling.failures).toArray⟩ := mirrors.journal
      have sheets := Calling.after_sheets mirrors.sheets setting function x y
      simp only [Generation.overlayHost, callHost, known, before, Bool.false_eq_true, if_false,
        called]
      cases outcome with
      | ok covered =>
          have answered : calling.answerAt setting function x y = .ok covered := answer.symm
          refine ⟨by rw [answered]; rfl, nowLinked, sheets, told, lines, ?_, ?_⟩
          · rw [journal, reports, Calling.failures_of_ok answered]
          · intro other
            rw [Calling.hasFailed_of_ok answered]
            exact mirrors.failed other
      | error fault =>
          have answered : calling.answerAt setting function x y = .error fault.message :=
            answer.symm
          refine ⟨by rw [answered]; rfl, nowLinked, sheets, told, lines, ?_, ?_⟩
          · simp only [Session.report, Journal.push_eq_append, journal, reports,
              Calling.failures_of_error answered, Journal.append, List.append_toArray,
              List.append_assoc]
          · intro other
            have earlier : failed.contains other = calling.hasFailed other :=
              mirrors.failed other
            rw [Calling.hasFailed_of_error answered, ← earlier, List.contains_cons,
              Bool.or_comm, Bool.beq_comm]

/-! ## Words of failures -/

theorem answerAt_spoken {calling : Calling language} {setting : Setting} {function : String}
    {x y : Int} {message : String}
    (answer : calling.answerAt setting function x y = .error message) :
    Text.isBlankText message = false := by
  unfold Calling.answerAt at answer
  split at answer
  · unfold HostCall.answer at answer
    split at answer
    · cases answer
    · rw [← Except.error.inj answer]
      exact failureText_spoken _ _
  · rw [← Except.error.inj answer]
    exact Text.isBlankText_of_front (Text.isBlankText_of_front (by decide +kernel) function) _

/-- However a map is painted, no call fails with a blank message. -/
theorem failures_spoken (setting : Setting) (resolver : Resolver) (map : Landscape.Node)
    (width height : Nat) {calling : Calling language} (uncalled : calling.calls = []) :
    ∀ message ∈ (Landscape.paint (callHost setting) resolver map width height
        calling).state.failures, Text.isBlankText message = false := by
  refine Landscape.paint_keeps (callHost setting)
    (fun calling => ∀ message ∈ calling.failures, Text.isBlankText message = false) ?_ resolver
    map width height ?_
  · intro calling spoken function x y
    simp only [callHost]
    split
    · exact spoken
    · cases answer : calling.answerAt setting function x y with
      | ok covered =>
          rw [Calling.failures_of_ok answer]
          exact spoken
      | error failure =>
          rw [Calling.failures_of_error answer]
          intro message member
          rcases List.mem_append.mp member with earlier | last
          · exact spoken message earlier
          · rw [List.mem_singleton.mp last]
            exact answerAt_spoken answer
  · intro message impossible
    rw [Calling.failures, uncalled] at impossible
    cases impossible

end Landform
