import Landform.Proofs.Description
import Landform.Proofs.Reports
import Mathlib.Data.List.Induction

namespace Landform

open Script

variable {language : Language}

/-!
# Functions that fail

When a map is painted with a linked game script, every overlay of a script that is reached asks
for a function by its name, and overlays may share one.  A call fails if there is no such
function of two parameters or if it ends with an error.  Then the failure is reported, the
overlay does not cover the point, and the function is not called again as long as this map is
painted, whatever overlay asks for it.  All other functions are called as before.

A `Consultation` is what an overlay has asked and what became of it, and `consultingHost` is the
host of a session which notes its consultations.  That they are the questions of the map's
overlays holds of any host (`paint_map_asks`); what the calls among them answer is told from the
linked scripts (`Performs`).  The invariant of a painting is `Reflects`: the functions that have
failed are those of the calls which have failed.
-/

/-! ## Consultations -/

/-- What a host of script functions was asked, and what a call has answered, if one was made. -/
structure Consultation where
  function : String
  x : Int
  y : Int
  called? : Option (Except String Bool)

namespace Consultation

/-- What the host has answered: yes just if there was a call that said so. -/
def answer (consultation : Consultation) : Bool :=
  match consultation.called? with
  | some (.ok covered) => covered
  | _ => false

/-- The consultation as the question of an overlay. -/
def question (consultation : Consultation) : Landscape.Question :=
  ⟨consultation.function, consultation.x, consultation.y, consultation.answer⟩

/-- The call that was made. -/
def call? (consultation : Consultation) : Option AlgorithmCall :=
  consultation.called?.map (AlgorithmCall.mk consultation.function consultation.x consultation.y)

/-- The message about a call that has failed. -/
def failure? (consultation : Consultation) : Option String :=
  match consultation.called? with
  | some (.error message) => some message
  | _ => none

/-- Whether there was a call and it has failed. -/
def hasFailed (consultation : Consultation) : Bool :=
  consultation.failure?.isSome

/-- What is reported of a call that has failed. -/
def report (consultation : Consultation) : String :=
  consultation.failure?.getD ""

theorem failure_eq (consultation : Consultation) :
    consultation.failure? =
      if consultation.hasFailed then some consultation.report else none := by
  unfold hasFailed report
  cases consultation.failure? <;> rfl

theorem call_function (consultation : Consultation) {call : AlgorithmCall}
    (made : consultation.call? = some call) : call.function = consultation.function := by
  rcases Option.map_eq_some_iff.mp made with ⟨answer, _, rfl⟩
  rfl

theorem call_failure (consultation : Consultation) :
    consultation.call?.bind AlgorithmCall.failure? = consultation.failure? := by
  unfold call? failure?
  rcases consultation.called? with _ | _ | _ <;> rfl

theorem called_of_hasFailed {consultation : Consultation}
    (failed : consultation.hasFailed = true) : consultation.called?.isSome = true := by
  unfold hasFailed failure? at failed
  split at failed
  case h_1 message called =>
    rw [called]
    rfl
  case h_2 => cases failed

end Consultation

/-- A function was called whenever it was asked for, until a call of it had failed. -/
def CalledUntilFailed (consultations : List Consultation) : Prop :=
  ∀ before consultation behind, consultations = before ++ consultation :: behind ->
    (consultation.called?.isSome = true ↔
      ∀ earlier ∈ before, earlier.function = consultation.function -> earlier.hasFailed = false)

namespace Calling

/-- What a call of a function at a point comes to.  It fails if there is no such function of two
parameters, or if the function ends with an error. -/
inductive Answers (calling : Calling language) (setting : Setting) (function : String)
    (x y : Int) : Except String Bool -> Prop where
  | undefined (absent : language.defines calling.linked.program function 2 = false) :
      Answers calling setting function x y (.error (Session.noAlgorithm function).message)
  | failed {words : String} (defined : language.defines calling.linked.program function 2 = true)
      (ended : (calling.callAt setting function x y).exchange.result.1 = .error words) :
      Answers calling setting function x y (.error (Session.failureText function words))
  | answered {value : Value}
      (defined : language.defines calling.linked.program function 2 = true)
      (ended : (calling.callAt setting function x y).exchange.result.1 = .ok value) :
      Answers calling setting function x y (.ok value.assents)

/-- Made one after another, the calls of some consultations answer as was noted. -/
def Performs (setting : Setting) :
    Calling language -> List Consultation -> Calling language -> Prop
  | calling, [], last => last = calling
  | calling, consultation :: rest, last =>
      match consultation.called? with
      | none => Performs setting calling rest last
      | some answer =>
          calling.Answers setting consultation.function consultation.x consultation.y answer ∧
            Performs setting
              (calling.after setting consultation.function consultation.x consultation.y) rest last

/-- What is noted of a host that only makes the calls. -/
def consultation (calling : Calling language) (setting : Setting) (function : String)
    (x y : Int) : Consultation where
  function := function
  x := x
  y := y
  called? :=
    if calling.hasFailed function then none else some (calling.answerAt setting function x y)

theorem consultation_of_failed {calling : Calling language} {function : String}
    (failed : calling.hasFailed function = true) (setting : Setting) (x y : Int) :
    calling.consultation setting function x y = ⟨function, x, y, none⟩ := by
  simp only [consultation, failed, if_true]

theorem consultation_of_unfailed {calling : Calling language} {function : String}
    (unfailed : calling.hasFailed function = false) (setting : Setting) (x y : Int) :
    calling.consultation setting function x y =
      ⟨function, x, y, some (calling.answerAt setting function x y)⟩ := by
  simp only [consultation, unfailed, Bool.false_eq_true, if_false]

theorem answers_answerAt (calling : Calling language) (setting : Setting) (function : String)
    (x y : Int) : calling.Answers setting function x y (calling.answerAt setting function x y) := by
  unfold answerAt
  split
  case isFalse absent => exact .undefined (Bool.eq_false_iff.mpr absent)
  case isTrue defined =>
    unfold HostCall.answer
    split
    case h_1 value ended => exact .answered defined ended
    case h_2 words ended => exact .failed defined ended

theorem performs_append {setting : Setting} {first second : List Consultation}
    {calling between last : Calling language} (before : Performs setting calling first between)
    (after : Performs setting between second last) :
    Performs setting calling (first ++ second) last := by
  induction first generalizing calling with
  | nil =>
      have same : between = calling := before
      exact same ▸ after
  | cons consultation rest inductionHypothesis =>
      simp only [List.cons_append, Performs] at before ⊢
      split at before
      · exact inductionHypothesis before
      · exact ⟨before.1, inductionHypothesis before.2⟩

end Calling

/-! ## What is noted of the calls -/

theorem calledUntilFailed_snoc {noted : List Consultation} {consultation : Consultation}
    (before : CalledUntilFailed noted)
    (last : consultation.called?.isSome = true ↔
      ∀ earlier ∈ noted, earlier.function = consultation.function -> earlier.hasFailed = false) :
    CalledUntilFailed (noted ++ [consultation]) := by
  intro front here behind split
  rcases List.eq_nil_or_concat behind with rfl | ⟨inner, final, rfl⟩
  · rcases List.append_inj' split rfl with ⟨rfl, same⟩
    rw [← List.head_eq_of_cons_eq same]
    exact last
  · rw [List.concat_eq_append, ← List.cons_append, ← List.append_assoc] at split
    exact before front here inner (List.append_inj' split rfl).1

theorem CalledUntilFailed.front {noted behind : List Consultation}
    (untilFailed : CalledUntilFailed (noted ++ behind)) : CalledUntilFailed noted := by
  rintro before consultation inner rfl
  exact untilFailed before consultation (inner ++ behind) (by
    rw [List.append_assoc, List.cons_append])

/-- No function fails twice. -/
theorem failing_functions_nodup {consultations : List Consultation}
    (untilFailed : CalledUntilFailed consultations) :
    ((consultations.filter Consultation.hasFailed).map Consultation.function).Nodup := by
  induction consultations using List.reverseRecOn with
  | nil => exact List.nodup_nil
  | append_singleton front last inductionHypothesis =>
      have nodup := inductionHypothesis untilFailed.front
      rw [List.filter_append, List.map_append]
      cases failed : last.hasFailed with
      | false =>
          rw [List.filter_cons_of_neg (Bool.eq_false_iff.mp failed), List.filter_nil, List.map_nil,
            List.append_nil]
          exact nodup
      | true =>
          have unfailed :=
            (untilFailed front last [] rfl).mp (Consultation.called_of_hasFailed failed)
          rw [List.filter_cons_of_pos failed, List.filter_nil]
          refine List.nodup_append.mpr ⟨nodup, List.pairwise_singleton _ _, ?_⟩
          rintro function member other same rfl
          rcases List.mem_map.mp member with ⟨earlier, found, named⟩
          rcases List.mem_filter.mp found with ⟨inFront, hasFailed⟩
          have silent := unfailed earlier inFront (named.trans (List.mem_singleton.mp same))
          rw [silent] at hasFailed
          cases hasFailed

/-- What was noted of the calls of a painting, beside what the calls have left. -/
structure Reflects (setting : Setting) (start : Calling language) (noted : List Consultation)
    (calling : Calling language) : Prop where
  performs : Calling.Performs setting start noted calling
  calls : calling.calls = noted.filterMap Consultation.call?
  untilFailed : CalledUntilFailed noted

namespace Reflects

variable {setting : Setting} {start calling : Calling language} {noted : List Consultation}

theorem uncalled (none : start.calls = []) : Reflects setting start [] start :=
  ⟨rfl, none, fun before consultation behind impossible => by cases before <;> cases impossible⟩

/-- What is reported of the calls is what is reported of those that have failed. -/
theorem failures (reflects : Reflects setting start noted calling) :
    calling.failures = (noted.filter Consultation.hasFailed).map Consultation.report := by
  have each : (fun consultation : Consultation =>
      consultation.call?.bind AlgorithmCall.failure?) =
        fun consultation =>
          if consultation.hasFailed then some consultation.report else none :=
    funext fun consultation => consultation.call_failure.trans consultation.failure_eq
  rw [Calling.failures, reflects.calls, List.filterMap_filterMap, each, ← List.filterMap_eq_map,
    List.filterMap_filter]
  rfl

/-- The functions that have failed are those of the calls which have failed. -/
theorem hasFailed_eq_false (reflects : Reflects setting start noted calling)
    (function : String) : calling.hasFailed function = false ↔
      ∀ earlier ∈ noted, earlier.function = function -> earlier.hasFailed = false := by
  rw [Calling.hasFailed, reflects.calls]
  simp only [List.any_eq_false, List.mem_filterMap]
  constructor
  · intro silent earlier member same
    unfold Consultation.hasFailed
    rw [← earlier.call_failure]
    cases made : earlier.call? with
    | none => rfl
    | some call =>
        have named := earlier.call_function made
        have quiet := silent call ⟨earlier, member, made⟩
        rw [named, same, beq_self_eq_true, Bool.true_and] at quiet
        exact Bool.eq_false_iff.mpr quiet
  · rintro silent call ⟨earlier, member, made⟩ failed
    have named := earlier.call_function made
    rcases Bool.and_eq_true_iff.mp failed with ⟨same, loud⟩
    have quiet := silent earlier member (named.symm.trans (beq_iff_eq.mp same))
    unfold Consultation.hasFailed at quiet
    rw [← earlier.call_failure, made, Option.bind_some, loud] at quiet
    cases quiet

/-- A host that only makes the calls is reflected by what is noted of it. -/
theorem step (reflects : Reflects setting start noted calling) (function : String) (x y : Int) :
    Reflects setting start (noted ++ [calling.consultation setting function x y])
      ((callHost setting).covers calling function x y).2 := by
  simp only [callHost]
  cases before : calling.hasFailed function with
  | true =>
      rw [Calling.consultation_of_failed before]
      refine ⟨Calling.performs_append reflects.performs rfl, ?_, ?_⟩
      · simp only [if_true, List.filterMap_append, reflects.calls]
        exact (List.append_nil _).symm
      · refine calledUntilFailed_snoc reflects.untilFailed
          ⟨fun impossible => absurd impossible Bool.false_ne_true, fun silent => ?_⟩
        rw [(reflects.hasFailed_eq_false function).mpr silent] at before
        cases before
  | false =>
      rw [Calling.consultation_of_unfailed before]
      have answers := calling.answers_answerAt setting function x y
      refine ⟨Calling.performs_append reflects.performs ⟨answers, rfl⟩, ?_, ?_⟩
      · simp only [Bool.false_eq_true, if_false, Calling.after_calls, List.filterMap_append,
          reflects.calls]
        rfl
      · exact calledUntilFailed_snoc reflects.untilFailed
          ⟨fun _ => (reflects.hasFailed_eq_false function).mp before, fun _ => rfl⟩

end Reflects

/-! ## Sessions that are consulted -/

namespace Generation

/-- The host on a session, noting what it is asked and what its calls answer. -/
def consultingHost : Landscape.ScriptHost (OverlayState language × List Consultation) where
  covers := fun (⟨session, failed⟩, noted) function x y =>
    if failed.contains function then
      (false, ⟨session, failed⟩, noted ++ [⟨function, x, y, none⟩])
    else
      match session.callAlgorithm function x y with
      | (.ok covered, after) =>
          (covered, ⟨after, failed⟩, noted ++ [⟨function, x, y, some (.ok covered)⟩])
      | (.error fault, after) =>
          (false, ⟨after.report fault.message, function :: failed⟩,
            noted ++ [⟨function, x, y, some (.error fault.message)⟩])

/-- Noting consultations makes no difference, and they are the questions with their answers. -/
theorem consulting_alike :
    Landscape.AnswerAlike
      (overlayHost : Landscape.ScriptHost (OverlayState language)).noting consultingHost
      fun asked consulted =>
        consulted.1 = asked.1 ∧ consulted.2.map Consultation.question = asked.2 := by
  rintro ⟨⟨session, failed⟩, questions⟩ ⟨other, noted⟩ ⟨same, listed⟩ function x y
  have equal : other = ⟨session, failed⟩ := same
  have questioned : noted.map Consultation.question = questions := listed
  subst equal
  simp only [Landscape.ScriptHost.noting, overlayHost, consultingHost]
  split
  · refine ⟨rfl, rfl, ?_⟩
    rw [List.map_append, questioned]
    rfl
  · rcases session.callAlgorithm function x y with ⟨fault | covered, after⟩
    all_goals
      refine ⟨rfl, rfl, ?_⟩
      rw [List.map_append, questioned]
      rfl

/-- What is noted of a session is what is noted of the calls by themselves. -/
theorem consultingHost_eq {setting : Setting} {reported : List String}
    {state : OverlayState language} {calling : Calling language}
    (mirrors : Mirrors setting reported state calling) (noted : List Consultation)
    (function : String) (x y : Int) :
    consultingHost.covers (state, noted) function x y =
      ((overlayHost.covers state function x y).1, (overlayHost.covers state function x y).2,
        noted ++ [calling.consultation setting function x y]) := by
  rcases state with ⟨session, failed⟩
  have known : failed.contains function = calling.hasFailed function := mirrors.failed function
  simp only [consultingHost, overlayHost, known]
  cases before : calling.hasFailed function with
  | true => simp only [if_true, Calling.consultation_of_failed before]
  | false =>
      rcases mirrors.linked with ⟨engine, there, isLinked⟩
      rcases callAlgorithm_eq there isLinked mirrors.sheets mirrors.lines function x y with
        ⟨outcome, after, called, answer, _⟩
      have heard : session.setting = setting := mirrors.setting
      rw [heard] at answer
      simp only [Bool.false_eq_true, if_false, Calling.consultation_of_unfailed before, called,
        ← answer]
      cases outcome <;> rfl

/-- A session that is consulted does as the calls do by themselves, and what is noted of it
reflects them. -/
theorem consulting_reflects (setting : Setting) (reported : List String)
    (start : Calling language) :
    Landscape.AnswerAlike consultingHost (callHost setting) fun consulted calling =>
      Mirrors setting reported consulted.1 calling ∧
        Reflects setting start consulted.2 calling := by
  rintro ⟨state, noted⟩ calling ⟨mirrors, reflects⟩ function x y
  have alike := overlayHost_mirrors setting reported state calling mirrors function x y
  rw [consultingHost_eq mirrors]
  exact ⟨alike.1, alike.2, reflects.step function x y⟩

end Generation

/-! ## Renderings -/

open Generation

namespace OverlayRun

/-- The map as it is painted in a session, with the consultations of the session's host. -/
def consultedIn (run : OverlayRun language) (session : Session language) :
    Landscape.Canvas (OverlayState language × List Consultation) :=
  let size := run.format.sizeFor renderedPlayers
  Landscape.paint consultingHost run.resolver run.map size.1 size.2
    (run.startIn session, [])

/-- A session is consulted about the overlays of the map where the painter reaches them, and what
it paints and leaves does not depend on the notes. -/
theorem consultedIn_asks (run : OverlayRun language) (session : Session language) :
    let size := run.format.sizeFor renderedPlayers
    let consulted := run.consultedIn session
    let painted := run.paintedIn session
    consulted.foreground = painted.foreground ∧ consulted.background = painted.background ∧
      consulted.state.1 = painted.state ∧
      Exists fun answers : Nat × Nat -> Landscape.Way -> Bool =>
        (∀ point way, answers point way = true -> point ∈ Landscape.pointsOf size ∧
          Landscape.IsAskedAt (answers point) point.1 point.2 (Landscape.sitesOf run.map size)
            way) ∧
        consulted.state.2.map Consultation.question =
          Landscape.questionsOf run.map size answers := by
  intro size consulted painted
  rcases Landscape.paint_map_asks overlayHost run.map size.1 size.2 (run.startIn session) with
    ⟨answers, given, asks⟩
  let asked : OverlayState language × List Landscape.Question := (run.startIn session, [])
  let start : OverlayState language × List Consultation := (run.startIn session, [])
  have alike := Landscape.paint_alike consulting_alike run.resolver run.map size.1 size.2
    (show start.1 = asked.1 ∧ start.2.map Consultation.question = asked.2 from ⟨rfl, rfl⟩)
  rw [(asks run.resolver).2] at alike
  rcases alike with ⟨fores, backs, states, questions⟩
  exact ⟨fores.symm, backs.symm, states, answers, given, questions⟩

/-- The consultations of a session where the scripts are linked reflect the calls. -/
theorem consultedIn_reflects {run : OverlayRun language} {session : Session language}
    (ready : run.IsReadyIn session) :
    Reflects run.linking.setting run.uncalled (run.consultedIn session).state.2
      run.canvas.state := by
  let start : OverlayState language × List Consultation := (run.startIn session, [])
  have before : Mirrors run.linking.setting (Landscape.unknownMaterials run.resolver run.map)
      start.1 run.uncalled ∧ Reflects run.linking.setting run.uncalled start.2 run.uncalled :=
    ⟨startIn_mirrors ready, Reflects.uncalled rfl⟩
  have alike := Landscape.paint_alike (consulting_reflects run.linking.setting _ run.uncalled)
    run.resolver run.map (run.format.sizeFor renderedPlayers).1
    (run.format.sizeFor renderedPlayers).2 before
  exact alike.2.2.2

end OverlayRun

namespace Generation

variable {m : Type -> Type} [Monad m] [LawfulMonad m]

/-- With a game script that is linked well, a description is rendered in a session where it is
linked. -/
theorem byLandscape_of_linked {describing : Describing} {session : Session language}
    (footing : describing.footing = ⟨session.cached, [], session.players, session.teams⟩)
    {map : Landscape.Node} {program : language.Program} (first : describing.HasMap map)
    (asks : map.asksScript = true) (script : describing.GameScript language program)
    (linked : (describing.run map program).linking.diagnostics.length ≤ 1) :
    let run := describing.run map program
    Exists fun ready => run.IsReadyIn ready ∧
      let left := (run.paintedIn ready).state.session
      byLandscape (fun path => (pure (describing.answers path) : m (Except Fault Archive)))
          describing.request session =
        pure (run.rendered, if run.reports.isEmpty then left.takeLines.2 else left) := by
  intro run
  cases script with
  | @found path fileName source archive program saved named opened entry text read =>
      have isThere : ((Except.ok archive).bind fun archive => scriptIn archive path fileName) =
          .ok ⟨fileName, source⟩ :=
        scriptIn_of_ok entry text
      rcases afterOpening_of_script describing.request map path fileName session isThere read with
        ⟨ready, isReady, ends⟩
      have same : (⟨⟨session.cached, [], session.players, session.teams⟩,
          describing.request.resolver, describing.request.format, map, program⟩ :
            OverlayRun language) = run := by
        rw [← footing]
        rfl
      rw [same] at isReady
      rw [same, SessionStep.firstOfSeveral_of_few linked] at ends
      have rendered := renderWithScript_eq describing.request isReady rfl rfl
      refine ⟨ready, isReady, ?_⟩
      simp only [byLandscape, first.isFirst, asks, if_true, saved, named, pure_bind, opened, ends]
      exact congrArg pure rendered

end Generation

namespace OverlayRun

theorem rendered_succeeded (run : OverlayRun language) :
    (GenerationResult.ofOutcome run.rendered).succeeded = run.reports.isEmpty := by
  rw [rendered]
  cases run.reports <;> rfl

theorem rendered_map {run : OverlayRun language} {made : GeneratedMap}
    (ends : (GenerationResult.ofOutcome run.rendered).map? = some made) :
    made.foreground = some run.canvas.foreground ∧
      made.background = some run.canvas.background := by
  rw [rendered] at ends
  cases reported : run.reports with
  | nil =>
      rw [reported] at ends
      cases ends
      exact ⟨rfl, rfl⟩
  | cons first rest =>
      rw [reported] at ends
      cases ends

end OverlayRun

/-! ## Results of generators -/

namespace Generator

variable {m : Type -> Type} [Monad m] [LawfulMonad m]

/--
**Functions that fail are reported once and not called again.**  When a description is rendered
with its game script linked, the host is consulted about the overlays of scripts at the points
where the painter reaches them, and nothing else.  The function is called unless an earlier call
of it has failed, by whatever overlay, and an overlay whose function is not called or fails does
not cover the point.  The calls answer as the linked scripts do; one fails if there is no such
function of two parameters or if the function ends with an error.

So no function fails twice, and the journal holds one message for each that fails, in the order
of the failures, behind the messages about unknown materials.  The request fails if and only if
some material is unknown or some call has failed.
-/
theorem generate_calls_until_failed (answers : String -> Except Fault Archive)
    {request : GenerationRequest} (isLandscape : request.kind = .landscape)
    (generator : Generator language) {map : Landscape.Node} {program : language.Program}
    (first : (generator.describing answers request).HasMap map) (asks : map.asksScript = true)
    (script : (generator.describing answers request).GameScript language program)
    (linked :
      ((generator.describing answers request).run map program).linking.diagnostics.length ≤ 1) :
    let run := (generator.describing answers request).run map program
    let size := request.format.sizeFor renderedPlayers
    let unknown := (map.preorder.filter (Landscape.Node.lacksMaterial request.resolver)).map
      Landscape.Node.materialReport
    Exists fun ready => Exists fun result => Exists fun after =>
      let consulted := run.consultedIn ready
      let left := consulted.state.1.session
      let consultations := consulted.state.2
      let failing := consultations.filter Consultation.hasFailed
      run.IsReadyIn ready ∧
      generator.generate (fun path => (pure (answers path) : m (Except Fault Archive))) request =
        pure (result, after) ∧
      after.session = (if result.succeeded then left.takeLines.2 else left) ∧
      (∀ made, result.map? = some made ->
        made.foreground = some consulted.foreground ∧
          made.background = some consulted.background) ∧
      (Exists fun given : Nat × Nat -> Landscape.Way -> Bool =>
        (∀ point way, given point way = true -> point ∈ Landscape.pointsOf size ∧
          Landscape.IsAskedAt (given point) point.1 point.2 (Landscape.sitesOf map size) way) ∧
        consultations.map Consultation.question = Landscape.questionsOf map size given) ∧
      (Exists fun last =>
        Calling.Performs run.linking.setting run.uncalled consultations last) ∧
      CalledUntilFailed consultations ∧
      (failing.map Consultation.function).Nodup ∧
      after.session.journal.messages = (unknown ++ failing.map Consultation.report).toArray ∧
      (result.succeeded = false ↔
        (Exists fun node => node ∈ map.preorder ∧
          node.lacksMaterial request.resolver = true) ∨
        Exists fun consultation =>
          consultation ∈ consultations ∧ consultation.hasFailed = true) := by
  intro run size unknown
  have footing : (generator.describing answers request).footing =
      ⟨(generator.session.withCounts request).cached, [],
        (generator.session.withCounts request).players,
        (generator.session.withCounts request).teams⟩ := rfl
  rcases byLandscape_of_linked (m := m) footing first asks script linked with
    ⟨ready, isReady, ran⟩
  rcases run.consultedIn_asks ready with ⟨fores, backs, same, given⟩
  rcases OverlayRun.paintedIn_mirrors isReady with ⟨foresAlike, backsAlike, _⟩
  have reflects := OverlayRun.consultedIn_reflects isReady
  have journal := OverlayRun.paintedIn_journal isReady
  have succeeded := run.rendered_succeeded
  have reports : run.reports = unknown ++
      ((run.consultedIn ready).state.2.filter Consultation.hasFailed).map
        Consultation.report := by
    rw [OverlayRun.reports, reflects.failures]
    exact congrArg (· ++ _) (Landscape.unknownMaterials_eq request.resolver map)
  let left := (run.paintedIn ready).state.session
  let last := if run.reports.isEmpty then left.takeLines.2 else left
  have messages : last.journal.messages = run.reports.toArray := by
    have left : left.journal.messages = run.reports.toArray := congrArg Journal.messages journal
    simp only [last]
    split <;> exact left
  refine ⟨ready, .ofOutcome run.rendered, { generator with session := last }, isReady, ?_, ?_, ?_,
    given, ⟨_, reflects.performs⟩, reflects.untilFailed,
    failing_functions_nodup reflects.untilFailed, ?_, ?_⟩
  · have here : Generation.byLandscape
        (fun path => (pure (answers path) : m (Except Fault Archive))) request
        (generator.session.withCounts request) = pure (run.rendered, last) := ran
    simp only [generate, isLandscape, here, pure_bind]
  · rw [same, succeeded]
  · intro made ends
    rw [fores, backs, foresAlike, backsAlike]
    exact OverlayRun.rendered_map ends
  · exact messages.trans (congrArg List.toArray reports)
  · rw [succeeded, reports, List.isEmpty_eq_false_iff, ne_eq, List.append_eq_nil_iff,
      List.map_eq_nil_iff, List.map_eq_nil_iff, List.filter_eq_nil_iff, List.filter_eq_nil_iff]
    simp only [not_and_or, not_forall, not_not, exists_prop]

/-- A map with two overlays of one name and one of another, all of them decided by a script. -/
def cavesAndSea : GenerationRequest where
  kind := .landscape
  fileName := "Landscape.txt"
  scriptPath? := some "Script.c"
  source := "map M \x7b overlay Cave \x7b algo=script; \x7d; " ++
    "overlay Cave \x7b algo=script; \x7d; overlay Sea \x7b algo=script; \x7d; \x7d;"
  width := 2
  height := 1

/-- A game script that knows the sea, but no caves. -/
def seaScript : String :=
  "fn ScriptAlgoSea(x, y) \x7b true \x7d"

/-- An opener that finds the same archive everywhere, with the script of the sea. -/
def seaScriptEverywhere (_ : String) : Except Fault Archive :=
  .ok (Archive.ofTexts "." [("Script.c", seaScript)])

/-- Two overlays ask for the caves at two points each, and the caves are called once. -/
theorem generate_calls_until_failed_cavesAndSea :
    let generator : Generator interpreter := bare
    let describing := generator.describing seaScriptEverywhere cavesAndSea
    Exists fun map => Exists fun program : interpreter.Program =>
      let run := describing.run map program
      cavesAndSea.kind = .landscape ∧ describing.HasMap map ∧ map.asksScript = true ∧
        describing.GameScript interpreter program ∧ run.linking.diagnostics.length ≤ 1 ∧
        Exists fun ready => run.IsReadyIn ready ∧
          ((run.consultedIn ready).state.2.filter Consultation.hasFailed).length = 1 := by
  intro generator describing
  have isLandscape : cavesAndSea.kind = .landscape := rfl
  have journal : (Id.run (generator.generate (fun path => pure (seaScriptEverywhere path))
      cavesAndSea)).2.session.journal.messages =
        #["Script algorithm function ScriptAlgoCave(x, y) is not defined"] := by
    decide +kernel
  have read : (Landscape.Document.ofText cavesAndSea.source).toOption.bind
      (fun document => document.maps.head?.map fun map => (map.asksScript,
        (map.preorder.filter (Landscape.Node.lacksMaterial cavesAndSea.resolver)).map
          Landscape.Node.materialReport)) = some (true, []) := by
    decide +kernel
  have linking : (readScriptSource interpreter ⟨"Script.c", seaScript⟩).toOption.map
      (fun program => (describing.footing.linking
        (interpreter.inSequence (readable interpreter [] ++ [program]))).diagnostics) =
      some [] := by
    decide +kernel
  rcases Option.bind_eq_some_iff.mp read with ⟨document, readDocument, maps⟩
  rcases Option.map_eq_some_iff.mp maps with ⟨map, head, mapIs⟩
  rcases Option.map_eq_some_iff.mp linking with ⟨program, readProgram, diagnostics⟩
  rcases Prod.mk.inj mapIs with ⟨asks, known⟩
  have first : describing.HasMap map := ⟨document, ok_of_toOption readDocument, head⟩
  have script : describing.GameScript interpreter program :=
    .found rfl (by decide +kernel) rfl (by decide +kernel) (by decide +kernel)
      (ok_of_toOption readProgram)
  have quiet : (describing.run map program).linking.diagnostics = [] := diagnostics
  have linked : (describing.run map program).linking.diagnostics.length ≤ 1 := by
    rw [quiet]
    exact Nat.zero_le 1
  rcases generate_calls_until_failed (m := Id) seaScriptEverywhere isLandscape generator first asks
    script linked with ⟨ready, result, after, isReady, ran, _, _, _, _, _, _, messages, _⟩
  refine ⟨map, program, isLandscape, first, asks, script, linked, ready, isReady, ?_⟩
  rw [ran] at journal
  have reported : after.session.journal.messages =
      #["Script algorithm function ScriptAlgoCave(x, y) is not defined"] := journal
  have one := congrArg Array.size (messages.symm.trans reported)
  rw [List.size_toArray, known, List.nil_append, List.length_map] at one
  exact one

end Generator

end Landform
