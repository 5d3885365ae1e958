import Landform.Proofs.Lifecycle

namespace Landform

open Script

variable {language : Language}

/-!
# What can be seen of a session

A session is known by what it answers, what it reports, and what it shows of itself between two
operations: its constants and counts, its system scripts, and whether it is set up, linked and
loaded.  A transcript writes all of this down, operation by operation.  The number of a session
and the reports that were there before are left out.

Two sessions that differ in these two alone have the same transcript.  Lines that are waiting in
front of one of them are seen once at most: they are taken with the next lines taken, or
forgotten at the next setting up.  `transcript_beside` says both, and it is enough to compare
the operations one by one.

Setting up leaves nothing of a session but its system scripts and its counts, so these decide
its transcript from then on.  Taking a session down falls short of that: lines that scripts have
written and nobody has taken are still there to be taken.
-/

/-- The messages that were reported to a journal after an earlier state of it. -/
def Journal.since (journal earlier : Journal) : List String :=
  journal.messages.toList.drop earlier.count

theorem Journal.since_self (journal : Journal) : journal.since journal = [] :=
  List.drop_of_length_le (Nat.le_of_eq Array.length_toList)

theorem Journal.since_append (journal : Journal) (messages : Array String) :
    (journal.append messages).since journal = messages.toList := by
  simp only [since, append, count, Array.toList_append]
  exact List.drop_left' Array.length_toList

theorem Journal.since_clear (journal : Journal) : journal.clear.since journal = [] :=
  List.drop_nil

/-! ## Transcripts -/

/-- What a session answers to an operation. -/
inductive SessionAnswer where
  | nothing
  | registered (outcome : Except Fault Nat)
  | settled (outcome : Except Fault Unit)
  | painted (outcome : Except Fault EntryOutcome)
  | covered (outcome : Except Fault Bool)
  | lines (written : List String)

/-- What a session shows of itself. -/
structure Appearance where
  cached : List ScriptSource
  isSetUp : Bool
  isLinked : Bool
  hasScript : ScriptRole -> Bool
  constant? : String -> Option Int
  players : Int
  teams : Int

/-- What is seen of an operation: its answer, its reports, and what the session shows then. -/
structure Observation where
  answer : SessionAnswer
  reported : List String
  appearance : Appearance

namespace Session

/-- The answer of a session to an operation. -/
def answer (session : Session language) : SessionOperation -> SessionAnswer
  | .registerArchive archive => .registered (session.registerArchive archive).1
  | .load role script => .settled (session.load role script).1
  | .link => .settled session.link.1
  | .callEntryPoint format resolver players =>
      .painted (session.callEntryPoint format resolver players).1
  | .callAlgorithm function x y => .covered (session.callAlgorithm function x y).1
  | .takeLines => .lines session.takeLines.1
  | _ => .nothing

/-- What is reported during an operation. -/
def reported (session : Session language) (operation : SessionOperation) : List String :=
  (session.after operation).journal.since session.journal

/-- What a session shows of itself. -/
def appearance (session : Session language) : Appearance where
  cached := session.cached
  isSetUp := session.isSetUp
  isLinked := session.isLinked
  hasScript := session.hasScript
  constant? := session.constant?
  players := session.players
  teams := session.teams

/-- What is seen of an operation on a session. -/
def observe (session : Session language) (operation : SessionOperation) : Observation where
  answer := session.answer operation
  reported := session.reported operation
  appearance := (session.after operation).appearance

/-- What is seen of a session while operations are carried out one after another. -/
def transcript : Session language -> List SessionOperation -> List Observation
  | _, [] => []
  | session, operation :: rest =>
      session.observe operation :: (session.after operation).transcript rest

end Session

/-! ## Lines in front -/

/-- An answer with lines in front of those it has. -/
def SessionAnswer.behind (ahead : List String) : SessionAnswer -> SessionAnswer
  | .lines written => .lines (ahead ++ written)
  | answer => answer

/-- An observation with lines in front of those that are taken. -/
def Observation.behind (ahead : List String) (observation : Observation) : Observation :=
  { observation with answer := observation.answer.behind ahead }

/-- What an operation leaves of lines that are waiting in front. -/
def SessionOperation.leaves (ahead : List String) : SessionOperation -> List String
  | .setUp | .takeLines => []
  | _ => ahead

/-- A transcript as it is when lines are waiting in front of those of the session. -/
def withAhead : List String -> List SessionOperation -> List Observation -> List Observation
  | _, [], observations => observations
  | _, _ :: _, [] => []
  | ahead, operation :: operations, observation :: observations =>
      observation.behind ahead :: withAhead (operation.leaves ahead) operations observations

theorem SessionAnswer.behind_nil (answer : SessionAnswer) : answer.behind [] = answer := by
  cases answer <;> rfl

theorem withAhead_nil (operations : List SessionOperation) (observations : List Observation) :
    withAhead [] operations observations = observations := by
  induction operations generalizing observations with
  | nil => rfl
  | cons operation rest inductionHypothesis =>
      cases observations with
      | nil => rfl
      | cons observation later =>
          have nothing : operation.leaves [] = [] := by cases operation <;> rfl
          rw [withAhead, nothing, inductionHypothesis, Observation.behind,
            SessionAnswer.behind_nil]

namespace Session

/-- A session with lines in front of its own, on another journal and with another number. -/
def beside (session : Session language) (ahead : List String) (journal : Journal)
    (generation : Nat) : Session language :=
  { session with
    lines := ahead.toArray ++ session.lines
    journal := journal
    generation := generation }

/-- Another session has lines in front of those of a session, and may differ from it in its
journal and its number. -/
def Beside (ahead : List String) (session other : Session language) : Prop :=
  Exists fun journal => Exists fun generation => other = session.beside ahead journal generation

/-- An operation shows the same of two sessions, up to lines in front, and they stay so. -/
structure Agree (ahead : List String) (operation : SessionOperation)
    (session other : Session language) : Prop where
  answer : other.answer operation = (session.answer operation).behind ahead
  reported : other.reported operation = session.reported operation
  after : Beside (operation.leaves ahead) (session.after operation) (other.after operation)

theorem appearance_beside {ahead : List String} {session other : Session language}
    (beside : Beside ahead session other) : other.appearance = session.appearance := by
  rcases beside with ⟨journal, generation, rfl⟩
  rfl

/-! ## Operations, one by one -/

/-- The messages about the scripts that cannot be read. -/
def unreadable (language : Language) (scripts : List ScriptSource) : List String :=
  scripts.filterMap fun script =>
    match readScriptSource language script with
    | .ok _ => none
    | .error message => some message

theorem readAll_journal (scripts : List ScriptSource) (journal : Journal) :
    (readAll language scripts journal).2 =
      journal.append (unreadable language scripts).toArray := by
  induction scripts generalizing journal with
  | nil => exact journal.append_empty.symm
  | cons script rest inductionHypothesis =>
      cases read : readScriptSource language script with
      | ok program =>
          simp only [readAll, unreadable, List.filterMap_cons, read]
          exact inductionHypothesis journal
      | error message =>
          simp only [readAll, unreadable, List.filterMap_cons, read]
          rw [inductionHypothesis, Journal.push_eq_append, Journal.append_append]
          exact congrArg journal.append (List.toArray_cons _ _).symm

/-- Setting up reports the same, whatever the session was before. -/
theorem setUp_journal (session : Session language) :
    session.setUp.journal =
      session.journal.append (unreadable language session.cached).toArray :=
  readAll_journal session.cached session.journal

section

variable (session : Session language) (ahead : List String) (journal : Journal)
variable (generation : Nat)

theorem beside_engine : (session.beside ahead journal generation).engine? = session.engine? :=
  rfl

theorem beside_setting : (session.beside ahead journal generation).setting = session.setting :=
  rfl

theorem registerArchive_beside (archive : Archive) :
    (session.registerArchive archive).2.journal = session.journal ∧
      (session.beside ahead journal generation).registerArchive archive =
        ((session.registerArchive archive).1,
          (session.registerArchive archive).2.beside ahead journal generation) := by
  rw [registerArchive_eq, registerArchive_eq]
  exact ⟨rfl, rfl⟩

/-- What loading a script does depends on what is loaded and on the script alone. -/
theorem load_beside (role : ScriptRole) (script : ScriptSource) : Exists fun notes =>
    (session.load role script).2.journal = session.journal.append notes ∧
      (session.beside ahead journal generation).load role script =
        ((session.load role script).1,
          (session.load role script).2.beside ahead (journal.append notes) generation) := by
  cases there : session.engine? with
  | none =>
      refine ⟨#[], ?_⟩
      simp only [load, beside_engine, there, Journal.append_empty, and_self]
  | some engine =>
      cases read : readScriptSource language script with
      | ok program =>
          refine ⟨#[], ?_⟩
          simp only [load, beside_engine, there, read, Journal.append_empty, true_and]
          rfl
      | error message =>
          refine ⟨#[message], ?_⟩
          simp only [load, beside_engine, there, read, Journal.push_eq_append, true_and]
          rfl

/-- A link reports, writes and leaves what its own session decides. -/
theorem link_beside : Exists fun notes =>
    session.link.2.journal = session.journal.append notes ∧
      (session.beside ahead journal generation).link =
        (session.link.1, session.link.2.beside ahead (journal.append notes) generation) := by
  cases there : session.engine? with
  | none =>
      refine ⟨#[], ?_⟩
      simp only [link, beside_engine, there, Journal.append_empty, and_self]
  | some engine =>
      have beyond := @link_eq language (session.beside ahead journal generation) engine there
      refine ⟨(session.linking engine).diagnostics.toArray, ?_⟩
      rw [link_eq there, beyond]
      refine ⟨rfl, ?_⟩
      simp only [linkedBy, beside, Array.append_assoc]
      rfl

theorem callEntryPoint_beside (format : MapFormat) (resolver : Resolver) (players : Nat) :
    Exists fun notes =>
      (session.callEntryPoint format resolver players).2.journal =
          session.journal.append notes ∧
        (session.beside ahead journal generation).callEntryPoint format resolver players =
          ((session.callEntryPoint format resolver players).1,
            (session.callEntryPoint format resolver players).2.beside ahead
              (journal.append notes) generation) := by
  cases isLinked : session.isLinked with
  | false =>
      have early : (session.beside ahead journal generation).isLinked = false := isLinked
      refine ⟨#[], ?_⟩
      rw [callEntryPoint_early isLinked, callEntryPoint_early early, Journal.append_empty,
        Journal.append_empty]
      exact ⟨rfl, rfl⟩
  | true =>
      rcases engine_of_isLinked isLinked with ⟨engine, linked, there, has⟩
      let run : EntryRun language :=
        ⟨linked, session.setting, MountedSheet.blank resolver (format.sizeFor players)⟩
      have beyond := @callEntryPoint_eq language (session.beside ahead journal generation)
        engine run there has rfl format resolver players rfl
      refine ⟨run.diagnostics.toArray, ?_⟩
      rw [callEntryPoint_eq run there has rfl rfl, beyond]
      refine ⟨rfl, ?_⟩
      simp only [enteredBy, beside, Array.append_assoc]

theorem callAlgorithm_beside (function : String) (x y : Int) : Exists fun notes =>
    (session.callAlgorithm function x y).2.journal = session.journal.append notes ∧
      (session.beside ahead journal generation).callAlgorithm function x y =
        ((session.callAlgorithm function x y).1,
          (session.callAlgorithm function x y).2.beside ahead (journal.append notes)
            generation) := by
  cases isLinked : session.isLinked with
  | false =>
      have early : (session.beside ahead journal generation).isLinked = false := isLinked
      refine ⟨#[], ?_⟩
      rw [callAlgorithm_early isLinked, callAlgorithm_early early, Journal.append_empty,
        Journal.append_empty]
      exact ⟨rfl, rfl⟩
  | true =>
      rcases engine_of_isLinked isLinked with ⟨engine, linked, there, has⟩
      by_cases defined : language.defines linked.program function 2 = true
      -- The call gets a name, and its dialogue is compared as a whole.
      · obtain ⟨call, same⟩ : Exists fun call : HostCall language => call =
            ⟨linked, session.setting, function, [.integer x, .integer y], linked.sheets⟩ :=
          ⟨_, rfl⟩
        refine ⟨call.exchange.notes.toArray, ?_⟩
        simp only [callAlgorithm, beside_engine, beside_setting, there, has, defined, if_true,
          callLinked_eq, ← same]
        simp only [beside, Array.append_assoc]
        cases call.exchange.result.1 <;> exact ⟨rfl, rfl⟩
      · refine ⟨#[], ?_⟩
        simp only [callAlgorithm, beside_engine, there, has, defined, Bool.false_eq_true,
          if_false, Journal.append_empty, and_self]

variable {session ahead journal generation} {operation : SessionOperation}

/-- Two sessions agree on an operation that neither reports nor touches the lines. -/
theorem agree_of_silent
    (answer : (session.beside ahead journal generation).answer operation =
      (session.answer operation).behind ahead)
    (here : (session.after operation).journal = session.journal)
    (there : (session.beside ahead journal generation).after operation =
      (session.after operation).beside ahead journal generation)
    (leaves : operation.leaves ahead = ahead) :
    Agree ahead operation session (session.beside ahead journal generation) := by
  refine ⟨answer, ?_, ⟨journal, generation, ?_⟩⟩
  · rw [reported, reported, here, there, Journal.since_self]
    exact journal.since_self
  · rw [there, leaves]

/-- Two sessions agree on an operation that adds the same to both journals. -/
theorem agree_of_notes {notes : Array String}
    (answer : (session.beside ahead journal generation).answer operation =
      (session.answer operation).behind ahead)
    (here : (session.after operation).journal = session.journal.append notes)
    (there : (session.beside ahead journal generation).after operation =
      (session.after operation).beside ahead (journal.append notes) generation)
    (leaves : operation.leaves ahead = ahead) :
    Agree ahead operation session (session.beside ahead journal generation) := by
  refine ⟨answer, ?_, ⟨journal.append notes, generation, ?_⟩⟩
  · rw [reported, reported, here, there, Journal.since_append]
    exact journal.since_append notes
  · rw [there, leaves]

end

section

variable {session other : Session language}

/-- What setting up shows is decided by the system scripts and the counts. -/
theorem setUp_agree (cached : other.cached = session.cached)
    (players : other.players = session.players) (teams : other.teams = session.teams) :
    Beside [] session.setUp other.setUp ∧ other.observe .setUp = session.observe .setUp := by
  have beside : Beside [] session.setUp other.setUp := by
    refine ⟨other.setUp.journal, other.setUp.generation, ?_⟩
    simp only [setUp, Session.beside, readAll_programs, cached, players, teams]
    rfl
  refine ⟨beside, ?_⟩
  have reports : other.reported .setUp = session.reported .setUp := by
    rw [reported, reported, after, after, setUp_journal, setUp_journal, cached,
      Journal.since_append, Journal.since_append]
  rw [observe, observe, reports, after, after, appearance_beside beside]
  rfl

/-- Every operation shows the same of two sessions, up to the lines in front of one of them. -/
theorem after_agree {ahead : List String} (beside : Beside ahead session other)
    (operation : SessionOperation) : Agree ahead operation session other := by
  rcases beside with ⟨journal, generation, rfl⟩
  cases operation with
  | register _ | takeDown | addConstant _ | withPlayers _ | withTeams _ =>
      exact agree_of_silent rfl rfl rfl rfl
  | registerArchive archive =>
      rcases session.registerArchive_beside ahead journal generation archive with ⟨kept, same⟩
      exact agree_of_silent (by rw [answer, same]; rfl) kept
        (congrArg Prod.snd same) rfl
  | setUp =>
      -- The lines in front are forgotten with all others.
      rcases @setUp_agree language session (session.beside ahead journal generation)
        rfl rfl rfl with ⟨beside, seen⟩
      exact ⟨rfl, congrArg Observation.reported seen, beside⟩
  | load role script =>
      rcases session.load_beside ahead journal generation role script with ⟨notes, here, same⟩
      exact agree_of_notes (by rw [answer, same]; rfl) here
        (congrArg Prod.snd same) rfl
  | link =>
      rcases session.link_beside ahead journal generation with ⟨notes, here, same⟩
      exact agree_of_notes (by rw [answer, same]; rfl) here
        (congrArg Prod.snd same) rfl
  | callEntryPoint format resolver players =>
      rcases session.callEntryPoint_beside ahead journal generation format resolver players with
        ⟨notes, here, same⟩
      exact agree_of_notes (by rw [answer, same]; rfl) here
        (congrArg Prod.snd same) rfl
  | callAlgorithm function x y =>
      rcases session.callAlgorithm_beside ahead journal generation function x y with
        ⟨notes, here, same⟩
      exact agree_of_notes (by rw [answer, same]; rfl) here
        (congrArg Prod.snd same) rfl
  | takeLines =>
      refine ⟨?_, ?_, ⟨journal, generation, rfl⟩⟩
      · simp only [answer, takeLines, Session.beside, SessionAnswer.behind, Array.toList_append]
      · exact journal.since_self.trans session.journal.since_self.symm
  | report message =>
      exact agree_of_notes rfl (session.journal.push_eq_append message)
        (congrArg (fun pushed => { session.beside ahead journal generation with journal := pushed })
          (journal.push_eq_append message)) rfl
  | clearJournal =>
      refine ⟨rfl, ?_, ⟨journal.clear, generation, rfl⟩⟩
      exact journal.since_clear.trans session.journal.since_clear.symm

/-- A whole transcript is the same, up to the lines in front, since every operation is. -/
theorem transcript_beside {ahead : List String} (beside : Beside ahead session other)
    (operations : List SessionOperation) :
    other.transcript operations = withAhead ahead operations (session.transcript operations) := by
  induction operations generalizing ahead session other with
  | nil => rfl
  | cons operation rest inductionHypothesis =>
      have agree := after_agree beside operation
      have seen : other.observe operation = (session.observe operation).behind ahead := by
        rw [observe, agree.answer, agree.reported, appearance_beside agree.after]
        rfl
      rw [transcript, transcript, withAhead, seen, inductionHypothesis agree.after]

/-- **Setting up supersedes the past.**  Of two sessions with the same system scripts and the
same counts, whatever else was done with them, nothing different is seen once they are set up. -/
theorem setUp_supersedes (cached : session.cached = other.cached)
    (players : session.players = other.players) (teams : session.teams = other.teams)
    (operations : List SessionOperation) :
    session.transcript (.setUp :: operations) = other.transcript (.setUp :: operations) := by
  rcases setUp_agree cached.symm players.symm teams.symm with ⟨beside, seen⟩
  have later := transcript_beside beside operations
  rw [withAhead_nil] at later
  rw [transcript, transcript, seen]
  exact congrArg _ later.symm

/-- A life that leaves a line nobody has taken, a script, and a link. -/
def leaving : List SessionOperation :=
  [.register ⟨"System.c", "fn Twice(n) \x7b 2 * n \x7d"⟩, .setUp, .addConstant ⟨"SNOW", 3⟩,
    .load .map ⟨"Map.c", "print(\"left\"); fn InitializeMap(map) \x7b true \x7d"⟩, .link,
    .addConstant ⟨"SNOW", 4⟩]

/-- A session that was linked and one that was never set up are the same once set up. -/
theorem setUp_supersedes_leaving :
    let used : Session interpreter := (new {}).afterAll leaving
    let unused : Session interpreter := (new {}).afterAll (leaving.take 1)
    (used.isLinked = true ∧ used.lines = #["left"] ∧ used.constant? "SNOW" = some 3 ∧
      unused.isSetUp = false) ∧
      (used.cached = unused.cached ∧ used.players = unused.players ∧
        used.teams = unused.teams) ∧
      ∀ operations, used.transcript (.setUp :: operations) =
        unused.transcript (.setUp :: operations) := by
  intro used unused
  have shared : used.cached = unused.cached ∧ used.players = unused.players ∧
      used.teams = unused.teams := by decide +kernel
  exact ⟨by decide +kernel, shared, setUp_supersedes shared.1 shared.2.1 shared.2.2⟩

/-! ## Taking down -/

/-- A session that was taken down is a new one, with the lines nobody has taken in front. -/
theorem takeDown_beside (session : Session language) (journal : Journal) :
    Beside session.lines.toList (new journal) session.takeDown := by
  refine ⟨session.journal, session.generation, ?_⟩
  simp only [takeDown, beside, new, fresh, Array.toArray_toList, Array.append_empty]

/-- **What taking down leaves.**  Whatever was done with a session, nothing of it is seen once it
was taken down but the lines that nobody has taken.  They are taken with the next lines, or
forgotten when the session is set up.  So the session is like a new one just if there are none. -/
theorem takeDown_leaves_lines (session : Session language) (journal : Journal) :
    session.takeDown.appearance = (new journal : Session language).appearance ∧
      (∀ operations, session.takeDown.transcript operations =
        withAhead session.lines.toList operations
          ((new journal : Session language).transcript operations)) ∧
      ((∀ operations, session.takeDown.transcript operations =
          (new journal : Session language).transcript operations) ↔ session.lines = #[]) := by
  have beside := session.takeDown_beside journal
  have ahead := transcript_beside beside
  refine ⟨appearance_beside beside, ahead, fun same => ?_, fun none operations => ?_⟩
  -- Taking lines at once is what tells the sessions apart.
  · have taken := same [.takeLines]
    simp only [transcript, observe, answer, takeLines, List.cons.injEq, Observation.mk.injEq,
      SessionAnswer.lines.injEq] at taken
    exact Array.toList_eq_nil_iff.mp taken.1.1
  · rw [ahead, none]
    exact withAhead_nil _ _

/-- The line is still there after the session was taken down; a new session has none. -/
theorem takeDown_leaving :
    let used : Session interpreter := (new {}).afterAll leaving
    used.takeDown.takeLines.1 = ["left"] ∧
      (new {} : Session interpreter).takeLines.1 = [] ∧
      used.takeDown.transcript [.takeLines] ≠
        (new {} : Session interpreter).transcript [.takeLines] := by
  intro used
  have left : used.takeDown.takeLines.1 = ["left"] := by decide +kernel
  refine ⟨left, rfl, fun same => ?_⟩
  simp only [transcript, observe, answer, left, List.cons.injEq, Observation.mk.injEq,
    SessionAnswer.lines.injEq] at same
  cases same.1.1

end

end Session

end Landform
