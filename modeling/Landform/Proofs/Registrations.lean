import Landform.Proofs.Transcripts
import Mathlib.Data.List.DropRight
import Mathlib.Data.List.Induction

namespace Landform

open Script

variable {language : Language}

/-!
# Registered scripts

System scripts are registered one by one or by an archive, at any time and as often as one likes.
A session keeps one of each name.  Where a name was registered before, the new script takes the
place of the old one, so what is kept is not a record of what was registered.

Still it is decided by such a record, and by nothing else.  A script is kept just if it is the
last that was registered under its name, and the scripts stand in the order in which their names
were first registered (`KeptFrom`).  The record starts anew when the session is taken down; no
other operation takes part in it.  An archive whose scripts cannot all be read is in the record
with those in front of the first that cannot be read, although the caller is told that it failed.

The scripts that are kept are read when the session is set up, and not before.  Until then a
registration cannot be noticed: the programs, the link, every answer and every report are those of
a session to which nothing was registered.
-/

/-! ## What is registered -/

/-- Whether an operation is there to register scripts. -/
def SessionOperation.registers : SessionOperation -> Bool
  | .register _ | .registerArchive _ => true
  | _ => false

/-- What was registered since a session was last taken down. -/
def registered (operations : List SessionOperation) : List ScriptSource :=
  (operations.rtakeWhile fun operation => !operation.takesDown).flatMap
    SessionOperation.registrations

/-- If not all entries can be read, those in front of the first that cannot be read are. -/
theorem Archive.reading_of_error {archive : Archive} {names : List String} {fault : Fault}
    (failed : (archive.reading names).1 = .error fault) :
    Exists fun before => Exists fun name => Exists fun after =>
      names = before ++ name :: after ∧ archive.read name = .error fault ∧
        (archive.reading names).2.map ScriptSource.fileName = before ∧
        ∀ script ∈ (archive.reading names).2,
          archive.read script.fileName = .ok script.source := by
  induction names with
  | nil => cases failed
  | cons name rest inductionHypothesis =>
      cases read : archive.read name with
      | ok source =>
          simp only [reading, read] at failed ⊢
          obtain ⟨before, unread, after, split, fails, names, texts⟩ := inductionHypothesis failed
          exact ⟨name :: before, unread, after, congrArg (name :: ·) split, fails,
            congrArg (name :: ·) names, List.forall_mem_cons.mpr ⟨read, texts⟩⟩
      | error other =>
          simp only [reading, read] at failed ⊢
          cases failed
          exact ⟨[], name, rest, rfl, read, rfl, List.forall_mem_nil _⟩

namespace Session

theorem foldl_register (scripts : List ScriptSource) (session : Session language) :
    scripts.foldl register session = session.withCached (placeAll scripts session.cached) := by
  induction scripts generalizing session with
  | nil => rfl
  | cons script rest inductionHypothesis => exact inductionHypothesis (session.register script)

/-- **A failed archive is kept in part.**  If an archive fails, its scripts in front of the first
that cannot be read were registered all the same, and nothing else was done. -/
theorem registerArchive_failed {session : Session language} {archive : Archive} {fault : Fault}
    (failed : (session.registerArchive archive).1 = .error fault) :
    Exists fun scripts : List ScriptSource => Exists fun name => Exists fun after =>
      archive.find scriptPattern = scripts.map ScriptSource.fileName ++ name :: after ∧
        archive.read name = .error fault ∧
        (∀ script ∈ scripts, archive.read script.fileName = .ok script.source) ∧
        (session.registerArchive archive).2 = scripts.foldl register session := by
  rw [registerArchive_eq] at failed ⊢
  cases reads : (archive.reading (archive.find scriptPattern)).1 with
  | ok done =>
      rw [reads] at failed
      cases failed
  | error other =>
      rw [reads] at failed
      cases failed
      obtain ⟨before, name, after, split, fails, rfl, texts⟩ := Archive.reading_of_error reads
      exact ⟨_, name, after, split, fails, texts, (foldl_register _ session).symm⟩

/-- Of the three scripts the second cannot be read, and the first is kept. -/
example : ((fresh : Session interpreter).registerArchive ⟨"System",
    [⟨"A.c", .ok "fn A() \x7b 1 \x7d"⟩, ⟨"B.c", .error (Archive.missingEntry "B.c")⟩,
      ⟨"C.c", .ok "fn C() \x7b 3 \x7d"⟩]⟩).2.cached = [⟨"A.c", "fn A() \x7b 1 \x7d"⟩] := by
  decide +kernel

end Session

/-! ## Places -/

section

variable {scripts : List ScriptSource} {script other : ScriptSource}

/-- A script that is placed drives out those of its name and no others. -/
theorem mem_placeScript_iff (distinct : DistinctNames scripts) :
    other ∈ Session.placeScript script scripts ↔ other = script ∨
      (other ∈ scripts ∧ Text.sameName script.fileName other.fileName = false) := by
  induction scripts with
  | nil =>
      simp only [Session.placeScript, List.mem_singleton, List.not_mem_nil, false_and, or_false]
  | cons old rest inductionHypothesis =>
      obtain ⟨apart, restDistinct⟩ := List.pairwise_cons.mp distinct
      unfold Session.placeScript
      cases same : Text.sameName old.fileName script.fileName with
      | true =>
          -- No later script has the name of the one that is driven out.
          have others : ∀ later ∈ rest,
              Text.sameName script.fileName later.fileName = false := fun later member =>
            Bool.eq_false_iff.mpr fun alike =>
              Bool.eq_false_iff.mp (apart later member) (Text.sameName_trans same alike)
          rw [if_pos rfl, List.mem_cons, List.mem_cons]
          refine or_congr_right ⟨fun member => ⟨.inr member, others other member⟩, ?_⟩
          rintro ⟨rfl | member, different⟩
          · rw [Text.sameName_comm, same] at different
            cases different
          · exact member
      | false =>
          have different : Text.sameName script.fileName old.fileName = false :=
            (Text.sameName_comm _ _).trans same
          rw [if_neg Bool.false_ne_true, List.mem_cons, List.mem_cons,
            inductionHypothesis restDistinct]
          constructor
          · rintro (rfl | placed | ⟨member, apart⟩)
            · exact .inr ⟨.inl rfl, different⟩
            · exact .inl placed
            · exact .inr ⟨.inr member, apart⟩
          · rintro (placed | ⟨rfl | member, apart⟩)
            · exact .inr (.inl placed)
            · exact .inl rfl
            · exact .inr (.inr ⟨member, apart⟩)

/-- What depends on the names alone is the same in each place, and may be added to at the end. -/
theorem map_placeScript {α : Type} {f : String -> α}
    (alike : ∀ name other, Text.sameName name other = true -> f name = f other)
    (script : ScriptSource) (scripts : List ScriptSource) :
    ((Session.placeScript script scripts).map fun kept => f kept.fileName) =
      if scripts.any fun old => Text.sameName old.fileName script.fileName then
        scripts.map fun kept => f kept.fileName
      else (scripts.map fun kept => f kept.fileName) ++ [f script.fileName] := by
  induction scripts with
  | nil => rfl
  | cons old rest inductionHypothesis =>
      unfold Session.placeScript
      cases same : Text.sameName old.fileName script.fileName with
      | true =>
          simp only [if_true, List.map_cons, List.any_cons, same, Bool.true_or, alike _ _ same]
      | false =>
          simp only [Bool.false_eq_true, if_false, List.map_cons, List.any_cons, same,
            Bool.false_or, inductionHypothesis]
          split <;> rfl

end

/-! ## The record of registrations -/

/-- The script that was last registered under a name. -/
def lastNamed? (record : List ScriptSource) (name : String) : Option ScriptSource :=
  record.reverse.find? fun script => Text.sameName script.fileName name

/-- When a name was first registered: the number of registrations before. -/
def firstNamed (record : List ScriptSource) (name : String) : Nat :=
  record.findIdx fun script => Text.sameName script.fileName name

/-- Scripts are those that registrations leave: under each name the last that was registered, in
the order in which the names were first registered. -/
structure KeptFrom (record scripts : List ScriptSource) : Prop where
  distinct : DistinctNames scripts
  mem_iff : ∀ script, script ∈ scripts ↔ lastNamed? record script.fileName = some script
  ordered : (scripts.map fun script => firstNamed record script.fileName).Pairwise (· < ·)

section

variable {record scripts : List ScriptSource} {script : ScriptSource} {name : String}

theorem sameName_alike {first other : String} (same : Text.sameName name other = true) :
    Text.sameName first name = Text.sameName first other := by
  unfold Text.sameName at same ⊢
  rw [beq_iff_eq.mp same]

theorem firstNamed_alike (name other : String) (same : Text.sameName name other = true) :
    firstNamed record name = firstNamed record other := by
  simp only [firstNamed, sameName_alike same]

theorem lastNamed?_alike {other : String} (same : Text.sameName name other = true) :
    lastNamed? record name = lastNamed? record other := by
  simp only [lastNamed?, sameName_alike same]

theorem firstNamed_lt_iff :
    firstNamed record name < record.length ↔ (lastNamed? record name).isSome = true := by
  rw [firstNamed, List.findIdx_lt_length, lastNamed?, List.find?_isSome]
  simp only [List.mem_reverse]

theorem lastNamed?_append : lastNamed? (record ++ [script]) name =
    if Text.sameName script.fileName name then some script else lastNamed? record name := by
  simp only [lastNamed?, List.reverse_append, List.reverse_singleton, List.singleton_append,
    List.find?_cons]
  cases Text.sameName script.fileName name <;> rfl

/-- What is kept was registered. -/
theorem KeptFrom.firstNamed_lt (kept : KeptFrom record scripts) (member : script ∈ scripts) :
    firstNamed record script.fileName < record.length := by
  rw [firstNamed_lt_iff, (kept.mem_iff script).mp member]
  rfl

/-- A name of which nothing is kept was not registered. -/
theorem KeptFrom.firstNamed_of_fresh (kept : KeptFrom record scripts)
    (fresh : (scripts.any fun old => Text.sameName old.fileName name) = false) :
    firstNamed record name = record.length := by
  refine Nat.le_antisymm List.findIdx_le_length (Nat.le_of_not_lt fun before => ?_)
  obtain ⟨last, found⟩ := Option.isSome_iff_exists.mp (firstNamed_lt_iff.mp before)
  have named : Text.sameName last.fileName name = true := by
    have passed := List.find?_some found
    exact passed
  have member : last ∈ scripts := (kept.mem_iff last).mpr ((lastNamed?_alike named).trans found)
  rw [List.any_eq_false] at fresh
  exact fresh last member named

/-- A registration is recorded and kept. -/
theorem placeScript_keptFrom (kept : KeptFrom record scripts) (script : ScriptSource) :
    KeptFrom (record ++ [script]) (Session.placeScript script scripts) where
  distinct := placeScript_distinct script kept.distinct
  mem_iff other := by
    rw [mem_placeScript_iff kept.distinct, lastNamed?_append, kept.mem_iff]
    cases alike : Text.sameName script.fileName other.fileName with
    | true =>
        simp only [if_true, reduceCtorEq, and_false, or_false, Option.some.injEq, @eq_comm _ other]
    | false =>
        have apart : other ≠ script := fun same => by
          rw [same, Text.sameName_refl] at alike
          cases alike
        simp only [apart, Bool.false_eq_true, if_false, and_true, false_or]
  ordered := by
    -- Names that were registered before keep their first places.
    have before : (scripts.map fun old => firstNamed (record ++ [script]) old.fileName) =
        scripts.map fun old => firstNamed record old.fileName :=
      List.map_congr_left fun old member => by
        rw [firstNamed, List.findIdx_append]
        exact if_pos (kept.firstNamed_lt member)
    rw [map_placeScript firstNamed_alike, before]
    split
    · exact kept.ordered
    · rename_i fresh
      have last : firstNamed (record ++ [script]) script.fileName = record.length := by
        have nowhere := kept.firstNamed_of_fresh (Bool.eq_false_iff.mpr fresh)
        unfold firstNamed at nowhere ⊢
        rw [List.findIdx_append, nowhere, if_neg (Nat.lt_irrefl _)]
        simp only [List.findIdx_cons, Text.sameName_refl, cond_true, Nat.zero_add]
      rw [last]
      refine List.pairwise_append.mpr ⟨kept.ordered, List.pairwise_singleton _ _, ?_⟩
      intro first member second isLast
      obtain ⟨old, there, rfl⟩ := List.mem_map.mp member
      rw [List.mem_singleton.mp isLast]
      exact kept.firstNamed_lt there

end

/-- All that is kept is told by the record. -/
theorem placeAll_keptFrom (record : List ScriptSource) :
    KeptFrom record (Session.placeAll record []) := by
  induction record using List.reverseRecOn with
  | nil => exact ⟨List.Pairwise.nil, fun _ => ⟨nofun, nofun⟩, List.Pairwise.nil⟩
  | append_singleton record script inductionHypothesis =>
      rw [Session.placeAll, List.foldl_append]
      exact placeScript_keptFrom inductionHypothesis script

theorem KeptFrom.nodup {record scripts : List ScriptSource} (kept : KeptFrom record scripts) :
    scripts.Nodup :=
  (List.pairwise_map.mp kept.ordered).imp fun earlier same => by
    rw [same] at earlier
    exact Nat.lt_irrefl _ earlier

/-- No other scripts, and no other order, are told by the same record. -/
theorem KeptFrom.unique {record scripts others : List ScriptSource}
    (kept : KeptFrom record scripts) (otherKept : KeptFrom record others) : scripts = others := by
  have members := (List.perm_ext_iff_of_nodup kept.nodup otherKept.nodup).mpr fun script =>
    (kept.mem_iff script).trans (otherKept.mem_iff script).symm
  refine members.eq_of_pairwise (fun first second _ _ earlier later => ?_)
    (List.pairwise_map.mp kept.ordered) (List.pairwise_map.mp otherKept.ordered)
  exact absurd later (Nat.lt_asymm earlier)

/-! ## Operations -/

/-- An operation adds to the record what it registers, or makes it start anew. -/
theorem registered_append (operations : List SessionOperation) (operation : SessionOperation) :
    registered (operations ++ [operation]) =
      if operation.takesDown then [] else registered operations ++ operation.registrations := by
  unfold registered
  cases last : operation.takesDown with
  | true =>
      rw [List.rtakeWhile_concat_neg]
      · rfl
      · simp only [last, Bool.not_true, Bool.false_eq_true, not_false_eq_true]
  | false =>
      rw [List.rtakeWhile_concat_pos, List.flatMap_append, List.flatMap_singleton]
      · rfl
      · simp only [last, Bool.not_false]

namespace Session

theorem after_registers (session : Session language) {operation : SessionOperation}
    (registers : operation.registers = true) : session.after operation =
      session.withCached (placeAll operation.registrations session.cached) := by
  cases operation with
  | register script => rfl
  | registerArchive archive =>
      rw [after, registerArchive_eq]
      rfl
  | _ => cases registers

/-- The system scripts of a session are those of the record. -/
theorem afterAll_cached (journal : Journal) (operations : List SessionOperation) :
    ((new journal : Session language).afterAll operations).cached =
      placeAll (registered operations) [] := by
  induction operations using List.reverseRecOn with
  | nil => rfl
  | append_singleton operations operation inductionHypothesis =>
      have next : (new journal : Session language).afterAll (operations ++ [operation]) =
          ((new journal).afterAll operations).after operation := List.foldl_append
      rw [next, after_cached, registered_append, inductionHypothesis]
      split
      · rfl
      · exact List.foldl_append.symm

/-- The names of the system scripts, in lower case. -/
def keptNames (scripts : List ScriptSource) : List String :=
  scripts.map fun script => Text.asciiLower script.fileName

theorem placeAll_keptNames (scripts cached : List ScriptSource) :
    keptNames cached <+: keptNames (placeAll scripts cached) := by
  induction scripts generalizing cached with
  | nil => exact List.prefix_rfl
  | cons script rest inductionHypothesis =>
      refine List.IsPrefix.trans ?_ (inductionHypothesis (placeScript script cached))
      have alike (name other : String) (same : Text.sameName name other = true) :
          Text.asciiLower name = Text.asciiLower other := beq_iff_eq.mp same
      rw [keptNames, keptNames, map_placeScript alike]
      split
      · exact List.prefix_rfl
      · exact List.prefix_append _ _

/-- Only taking down moves a system script or removes it. -/
theorem after_keptNames (session : Session language) {operation : SessionOperation}
    (stays : operation.takesDown = false) :
    keptNames session.cached <+: keptNames (session.after operation).cached := by
  rw [after_cached, stays]
  exact placeAll_keptNames _ _

/-! ## Until the next setting up -/

section

variable (session : Session language) (cached : List ScriptSource)

theorem link_withCached : (session.withCached cached).link =
    (session.link.1, session.link.2.withCached cached) := by
  cases there : session.engine? with
  | none => simp only [link, withCached, there]
  | some engine =>
      have elsewhere := @link_eq language (session.withCached cached) engine there
      rw [link_eq there, elsewhere]
      rfl

theorem load_withCached (role : ScriptRole) (script : ScriptSource) :
    (session.withCached cached).load role script =
      ((session.load role script).1, (session.load role script).2.withCached cached) := by
  cases there : session.engine? with
  | none => simp only [load, withCached, there]
  | some engine =>
      cases read : readScriptSource language script with
      | ok program => simp only [load, withCached, there, read]
      | error message => simp only [load, withCached, there, read]

theorem callEntryPoint_withCached (format : MapFormat) (resolver : Resolver) (players : Nat) :
    (session.withCached cached).callEntryPoint format resolver players =
      ((session.callEntryPoint format resolver players).1,
        (session.callEntryPoint format resolver players).2.withCached cached) := by
  cases isLinked : session.isLinked with
  | false =>
      have early : (session.withCached cached).isLinked = false := isLinked
      rw [callEntryPoint_early isLinked, callEntryPoint_early early]
      rfl
  | true =>
      obtain ⟨engine, linked, there, has⟩ := engine_of_isLinked isLinked
      let run : EntryRun language :=
        ⟨linked, session.setting, MountedSheet.blank resolver (format.sizeFor players)⟩
      have elsewhere := @callEntryPoint_eq language (session.withCached cached) engine run there
        has rfl format resolver players rfl
      rw [callEntryPoint_eq run there has rfl rfl, elsewhere]
      rfl

theorem callAlgorithm_withCached (function : String) (x y : Int) :
    (session.withCached cached).callAlgorithm function x y =
      ((session.callAlgorithm function x y).1,
        (session.callAlgorithm function x y).2.withCached cached) := by
  cases isLinked : session.isLinked with
  | false =>
      have early : (session.withCached cached).isLinked = false := isLinked
      rw [callAlgorithm_early isLinked, callAlgorithm_early early]
      rfl
  | true =>
      obtain ⟨engine, linked, there, has⟩ := engine_of_isLinked isLinked
      have elsewhere : (session.withCached cached).engine? = some engine := there
      have told : (session.withCached cached).setting = session.setting := rfl
      simp only [callAlgorithm, there, elsewhere, has, callLinked_eq, told]
      split
      · cases (HostCall.exchange _).result.1 <;> rfl
      · rfl

/-- Which scripts are kept changes nothing but that, until the session is set up. -/
theorem after_withCached {operation : SessionOperation} (waits : operation.setsUp = false) :
    (session.withCached cached).answer operation = session.answer operation ∧
      (Exists fun later => (session.withCached cached).after operation =
        (session.after operation).withCached later) := by
  cases operation with
  | setUp => cases waits
  | registerArchive archive =>
      rw [answer, answer, after, after, registerArchive_eq, registerArchive_eq]
      exact ⟨rfl, _, rfl⟩
  | load role script =>
      rw [answer, answer, after, after, load_withCached]
      exact ⟨rfl, _, rfl⟩
  | link =>
      rw [answer, answer, after, after, link_withCached]
      exact ⟨rfl, _, rfl⟩
  | callEntryPoint format resolver players =>
      rw [answer, answer, after, after, callEntryPoint_withCached]
      exact ⟨rfl, _, rfl⟩
  | callAlgorithm function x y =>
      rw [answer, answer, after, after, callAlgorithm_withCached]
      exact ⟨rfl, _, rfl⟩
  | register | takeDown | addConstant | withPlayers | withTeams | takeLines | report
  | clearJournal => exact ⟨rfl, _, rfl⟩

/-- Registrations among other operations change nothing but which scripts are kept. -/
theorem afterAll_unregistered (operations : List SessionOperation)
    (waits : ∀ operation ∈ operations, operation.setsUp = false) : Exists fun kept =>
      (session.withCached cached).afterAll
          (operations.filter fun operation => !operation.registers) =
        (session.afterAll operations).withCached kept := by
  induction operations generalizing session cached with
  | nil => exact ⟨cached, rfl⟩
  | cons operation rest inductionHypothesis =>
      obtain ⟨here, later⟩ := List.forall_mem_cons.mp waits
      cases registers : operation.registers with
      | true =>
          rw [List.filter_cons, registers]
          have same : session.withCached cached = (session.after operation).withCached cached := by
            rw [after_registers session registers]
            rfl
          rw [same]
          exact inductionHypothesis (session.after operation) cached later
      | false =>
          rw [List.filter_cons, registers]
          obtain ⟨_, kept, next⟩ := session.after_withCached cached here
          obtain ⟨last, same⟩ := inductionHypothesis (session.after operation) kept later
          refine ⟨last, Eq.trans ?_ same⟩
          rw [← next]
          rfl

/-- What an operation reports does not depend on which scripts are kept. -/
theorem reported_withCached {operation : SessionOperation} (waits : operation.setsUp = false) :
    (session.withCached cached).reported operation = session.reported operation := by
  obtain ⟨_, later, next⟩ := session.after_withCached cached waits
  rw [reported, reported, next]
  rfl

end

/-- **The system scripts of a session.**  Whatever was done with a new session, it keeps of the
scripts that were registered since it was last taken down, one by one or by an archive, the last
of each name, in the order in which their names were first registered.  No operation but taking
down moves one or removes it.  What is registered later cannot be told from anything that is
answered, reported or left until the session is set up; then the scripts are read that are kept. -/
theorem registrations_decide (journal : Journal) (operations : List SessionOperation) :
    let session : Session language := (new journal).afterAll operations
    KeptFrom (registered operations) session.cached ∧
      (∀ scripts, KeptFrom (registered operations) scripts -> scripts = session.cached) ∧
      (∀ operation, operation.takesDown = false ->
        keptNames session.cached <+: keptNames (session.after operation).cached) ∧
      session.takeDown.cached = [] ∧
      (∀ later, (∀ operation ∈ later, operation.setsUp = false) ->
        let now := session.afterAll later
        let unregistered := session.afterAll (later.filter fun operation => !operation.registers)
        (Exists fun cached => unregistered = now.withCached cached) ∧
          ∀ operation, operation.setsUp = false ->
            unregistered.answer operation = now.answer operation ∧
              unregistered.reported operation = now.reported operation) ∧
      session.setUp.engine? = some { system := readable language session.cached } := by
  intro session
  have kept : KeptFrom (registered operations) session.cached := by
    rw [afterAll_cached]
    exact placeAll_keptFrom _
  refine ⟨kept, fun scripts alike => alike.unique kept,
    fun operation stays => session.after_keptNames stays, rfl, ?later, ?setUp⟩
  case later =>
    intro later waits now unregistered
    obtain ⟨kept, same⟩ := session.afterAll_unregistered session.cached later waits
    refine ⟨⟨kept, same⟩, fun operation still => ?_⟩
    have here : unregistered = now.withCached kept := same
    rw [here]
    exact ⟨(now.after_withCached kept still).1, now.reported_withCached kept still⟩
  case setUp =>
    rw [← readAll_programs session.cached session.journal]
    rfl

/-- A life in which an archive gives a script another text and spelling, and a map script asks for
its value. -/
def respelling : List SessionOperation :=
  [.register ⟨"Old.c", "fn Old() \x7b 0 \x7d"⟩, .takeDown,
    .register ⟨"Lib.c", "fn Value() \x7b 1 \x7d"⟩,
    .registerArchive (.ofTexts "System"
      [("Other.c", "fn Other() \x7b 0 \x7d"), ("lib.c", "fn Value() \x7b 2 \x7d")]),
    .setUp,
    .load .map ⟨"Map.c", "fn InitializeMap(map) \x7b print(Value()); true \x7d"⟩]

/-- The value is that of the archive, though the script is registered once more before it is asked
for; the place of the script is the first. -/
theorem registrations_decide_respelling :
    let session : Session interpreter := (new {}).afterAll respelling
    let again : SessionOperation := .register ⟨"LIB.C", "fn Value() \x7b 3 \x7d"⟩
    let asking : List SessionOperation := [.link, .callEntryPoint (.fixed 1 1) ⟨[], []⟩ 1]
    ⟨"lib.c", "fn Value() \x7b 2 \x7d"⟩ ∈ session.cached ∧
      session.cached.map ScriptSource.fileName = ["lib.c", "Other.c"] ∧
      keptNames session.cached <+: keptNames (session.after again).cached ∧
      (session.afterAll (again :: asking)).takeLines.1 = ["2"] := by
  intro session again asking
  obtain ⟨kept, _, stays, _, waits, _⟩ := @registrations_decide interpreter {} respelling
  obtain ⟨_, alike⟩ := waits (again :: asking) (by decide)
  have seen := SessionAnswer.lines.inj (alike .takeLines rfl).1
  have asked : (session.afterAll asking).takeLines.1 = ["2"] := by decide +kernel
  exact ⟨(kept.mem_iff _).mpr (by decide +kernel), by decide +kernel, stays again rfl,
    seen.symm.trans asked⟩

end Session

end Landform
