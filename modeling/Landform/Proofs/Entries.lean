import Landform.Disk.FileTree
import Landform.Generation
import Landform.Script.Interpreter
import Landform.Proofs.Wildcards

namespace Landform

open Script (interpreter)

/-!
# Finding and reading entries

An archive is asked in two ways.  It lists the names that a pattern covers, spelled as they are,
and it reads the first entry that has a name up to the case of ASCII letters.  The two need not
mean the same entries.

Of several entries whose names differ in case only, each is listed, and reading any of the names
gives the first of them.  So a listed name reads its own entry just if no entry in front of it has
this name, and an archive is kept as system scripts with every script's own text if no two of its
scripts are called the same.

A name is also asked for as a pattern, to see whether there is such an entry.  What is read is
listed, but what is listed may not be readable: a name may hold marks, and the folding of a
pattern knows more letters than reading does.  Only names of plain characters are safe.
-/

/-! ## Names up to case -/

/-- Names are the same up to case if their characters are, one by one. -/
theorem Text.sameName_iff (a b : String) :
    Text.sameName a b = true ↔
      List.Forall₂ (fun c d => c.toLower = d.toLower) a.toList b.toList := by
  rw [Text.sameName, beq_iff_eq, Text.asciiLower, Text.asciiLower, String.ofList_inj,
    ← List.forall₂_eq_eq_eq, List.forall₂_map_left_iff, List.forall₂_map_right_iff]

namespace Wildcard

/-- What fits a pattern fits it in both cases. -/
theorem fits_of_lower {parts : List WildcardPart} {name other : List Char}
    (same : List.Forall₂ (fun c d => c.toLower = d.toLower) name other)
    (fits : Fits parts name) : Fits parts other := by
  induction fits generalizing other with
  | done =>
      cases same with
      | nil => exact .done
  | one single taken _ inductionHypothesis =>
      cases same with
      | cons first rest =>
          exact .one single (WildcardPart.takes_of_toLower_eq first taken)
            (inductionHypothesis rest)
  | enough _ inductionHypothesis => exact .enough (inductionHypothesis same)
  | more sameLine _ inductionHypothesis =>
      cases same with
      | cons first rest =>
          refine .more (fun lineFeed => sameLine ?_) (inductionHypothesis rest)
          rw [lineFeed] at first
          exact Text.eq_lineFeed_of_toLower_eq first

theorem covers_of_sameName {pattern : Wildcard} {name other : String}
    (same : Text.sameName name other = true) (covered : pattern.covers name = true) :
    pattern.covers other = true := by
  rw [covers_iff_fits] at covered ⊢
  exact fits_of_lower ((Text.sameName_iff name other).mp same) covered

/-- A name that is taken for a pattern covers itself in both cases. -/
theorem ofText_covers {name other : String} (same : Text.sameName other name = true) :
    (ofText name).covers other = true := by
  rw [covers_iff_fits]
  have letters := (Text.sameName_iff name other).mp (Text.sameName_comm other name ▸ same)
  exact fits_of_each (letters.imp fun _ _ => WildcardPart.ofChar_takes)

/-- Plain characters take nothing but themselves in both cases. -/
theorem lower_of_each {among : Char -> Prop} {text name : List Char}
    (plain : ∀ c ∈ text, WildcardPart.Plain among c) (inside : ∀ d ∈ name, among d)
    (each : List.Forall₂ (fun c d => (WildcardPart.ofChar c).takes d = true) text name) :
    List.Forall₂ (fun d c => d.toLower = c.toLower) name text := by
  induction each with
  | nil => exact .nil
  | cons taken _ inductionHypothesis =>
      refine .cons ?_ (inductionHypothesis (fun c member => plain c (List.mem_cons_of_mem _ member))
        fun d member => inside d (List.mem_cons_of_mem _ member))
      exact (plain _ List.mem_cons_self).alone _ (inside _ List.mem_cons_self) taken

/-- A name of plain characters covers nothing but itself in both cases. -/
theorem sameName_of_covers {among : Char -> Prop} {name other : String}
    (plain : ∀ c ∈ name.toList, WildcardPart.Plain among c) (inside : ∀ d ∈ other.toList, among d)
    (covered : (ofText name).covers other = true) : Text.sameName other name = true := by
  rw [covers_iff_fits] at covered
  have each := each_of_fits
    (fun c member => WildcardPart.ofChar_single (plain c member).noRun) covered
  exact (Text.sameName_iff other name).mpr (lower_of_each plain inside each)

end Wildcard

/-! ## Entries that are listed -/

namespace Archive

/-- The entries that a pattern covers. -/
def covered (archive : Archive) (pattern : String) : List ArchiveEntry :=
  archive.entries.filter fun entry => (Wildcard.ofText pattern).covers entry.name

theorem find_eq (archive : Archive) (pattern : String) :
    archive.find pattern = (archive.covered pattern).map ArchiveEntry.name := by
  rw [find, covered, List.filter_map]
  rfl

/-- Reading gives the first entry of a name up to case. -/
theorem entry_of_split {archive : Archive} {before after : List ArchiveEntry}
    {own : ArchiveEntry} (split : archive.entries = before ++ own :: after) :
    archive.entry? own.name =
      some ((before.find? fun other => Text.sameName other.name own.name).getD own) := by
  unfold entry?
  rw [split, List.find?_append, List.find?_cons, Text.sameName_refl]
  cases before.find? fun other => Text.sameName other.name own.name <;> rfl

/-- A listed name has an entry, and in front of it none that is spelled like it. -/
theorem split_of_listed {archive : Archive} {pattern name : String}
    (listed : name ∈ archive.find pattern) :
    Exists fun before => Exists fun own => Exists fun after =>
      archive.entries = before ++ own :: after ∧ own.name = name ∧
        ∀ other ∈ before, other.name ≠ name := by
  rw [find_eq, List.mem_map] at listed
  rcases listed with ⟨entry, member, named⟩
  have known : (archive.entries.find? fun entry => entry.name == name).isSome := by
    rw [List.find?_isSome]
    exact ⟨entry, List.mem_of_mem_filter member, beq_iff_eq.mpr named⟩
  rcases Option.isSome_iff_exists.mp known with ⟨own, found⟩
  rcases List.find?_eq_some_iff_append.mp found with ⟨spelled, before, after, split, others⟩
  exact ⟨before, own, after, split, beq_iff_eq.mp spelled, fun other member =>
    bne_iff_ne.mp (others other member)⟩

/-- No two entries that a pattern covers differ in the case of their names only. -/
def Distinguishes (archive : Archive) (pattern : String) : Prop :=
  (archive.covered pattern).Pairwise fun entry other => Text.sameName entry.name other.name = false

theorem read_covered {archive : Archive} {pattern : String}
    (distinguishes : archive.Distinguishes pattern) {own : ArchiveEntry}
    (member : own ∈ archive.covered pattern) : archive.read own.name = own.content := by
  rcases List.mem_filter.mp member with ⟨there, covers⟩
  rcases List.append_of_mem there with ⟨before, after, split⟩
  have nobody : before.find? (fun other => Text.sameName other.name own.name) = none := by
    rw [List.find?_eq_none]
    intro other early same
    -- The other entry is covered too, so the two would not be told apart.
    have otherCovers := Wildcard.covers_of_sameName (Text.sameName_comm _ _ ▸ same) covers
    rw [Distinguishes, covered, split, List.filter_append, List.filter_cons, if_pos covers,
      List.pairwise_append] at distinguishes
    have apart := distinguishes.2.2 other (List.mem_filter.mpr ⟨early, otherCovers⟩) own
      List.mem_cons_self
    rw [same] at apart
    cases apart
  rw [read, entry_of_split split, nobody]
  rfl

end Archive

namespace Session

variable {language : Script.Language}

/-- Keeps entries as system scripts, each with the text of its own, up to the first that has
none. -/
def registerOwn : List ArchiveEntry -> Session language -> Except Fault Unit × Session language
  | [], session => (.ok (), session)
  | entry :: rest, session =>
      match entry.content with
      | .ok source => registerOwn rest (session.register ⟨entry.name, source⟩)
      | .error fault => (.error fault, session)

theorem registerEntries_own {archive : Archive} {entries : List ArchiveEntry}
    (own : ∀ entry ∈ entries, archive.read entry.name = entry.content)
    (session : Session language) :
    registerEntries archive (entries.map ArchiveEntry.name) session =
      registerOwn entries session := by
  induction entries generalizing session with
  | nil => rfl
  | cons entry rest inductionHypothesis =>
      have later := inductionHypothesis fun other member =>
        own other (List.mem_cons_of_mem _ member)
      rw [List.map_cons, registerEntries, registerOwn, own entry List.mem_cons_self]
      cases entry.content with
      | ok source => exact later (session.register ⟨entry.name, source⟩)
      | error fault => rfl

end Session

namespace Archive

variable {language : Script.Language}

/-- **Listed names are read up to case.**  A name that an archive lists is never missed, but what
is read is the first entry that has the name up to case.  It is the entry with just this name if
and only if no entry in front of it has the name up to case.  So the scripts of an archive are
kept with their own texts, up to the first that cannot be read, if no two of them have names that
differ in case only. -/
theorem read_listed (archive : Archive) :
    (∀ pattern name, name ∈ archive.find pattern ->
      Exists fun before => Exists fun own => Exists fun after =>
        archive.entries = before ++ own :: after ∧ own.name = name ∧
          (∀ other ∈ before, other.name ≠ name) ∧
          archive.read name =
            ((before.find? fun other => Text.sameName other.name name).getD own).content ∧
          ((∀ other ∈ before, Text.sameName other.name name = false) ↔
            archive.entry? name = some own)) ∧
      (archive.Distinguishes Session.scriptPattern -> ∀ session : Session language,
        session.registerArchive archive =
          let kept := Session.registerOwn (archive.covered Session.scriptPattern) session
          (kept.1.map fun _ => (archive.covered Session.scriptPattern).length, kept.2)) := by
  constructor
  · intro pattern name listed
    rcases split_of_listed listed with ⟨before, own, after, split, rfl, others⟩
    have found := entry_of_split split
    refine ⟨before, own, after, split, rfl, others, by rw [read, found], ?_⟩
    rw [found, Option.some_inj]
    constructor
    · intro different
      rw [List.find?_eq_none.mpr fun other early => Bool.eq_false_iff.mp (different other early)]
      rfl
    · intro first other early
      cases sameCase : before.find? fun other => Text.sameName other.name own.name with
      | none => exact Bool.eq_false_iff.mpr (List.find?_eq_none.mp sameCase other early)
      | some found =>
          rw [sameCase, Option.getD_some] at first
          have inFront := List.mem_of_find?_eq_some sameCase
          exact absurd (congrArg ArchiveEntry.name first) (others found inFront)
  · intro distinguishes session
    have entries := Session.registerEntries_own
      (fun entry member => read_covered distinguishes member) session
    simp only [Session.registerArchive, find_eq, entries, List.length_map]
    rcases Session.registerOwn (archive.covered Session.scriptPattern) session with
      ⟨done | fault, after⟩ <;> rfl

/-- Two scripts with names that differ in case only, and one between them. -/
def twins : Archive :=
  ofTexts "System" [("A.c", "fn F() \x7b 1 \x7d"), ("B.c", ""), ("a.c", "fn F() \x7b 2 \x7d")]

theorem twins_entries : twins.entries =
    [⟨"A.c", .ok "fn F() \x7b 1 \x7d"⟩, ⟨"B.c", .ok ""⟩, ⟨"a.c", .ok "fn F() \x7b 2 \x7d"⟩] :=
  rfl

/-- Of the twins both are listed, and reading either gives the first: a listed name need not read
its own entry, and the second script is kept with the text of the first. -/
theorem read_listed_twins :
    ¬(∀ (archive : Archive) (pattern name : String), name ∈ archive.find pattern ->
      ∀ own ∈ archive.entries, own.name = name -> archive.read name = own.content) ∧
      twins.find Session.scriptPattern = ["A.c", "B.c", "a.c"] ∧
      (twins.read "a.c").toOption = some "fn F() \x7b 1 \x7d" ∧
      ((Session.fresh : Session interpreter).registerArchive twins).2.cached =
        [⟨"a.c", "fn F() \x7b 1 \x7d"⟩, ⟨"B.c", ""⟩] := by
  have first : (twins.read "a.c").toOption = some "fn F() \x7b 1 \x7d" := by decide +kernel
  refine ⟨fun always => ?_, by decide +kernel, first, by decide +kernel⟩
  have second : (⟨"a.c", .ok "fn F() \x7b 2 \x7d"⟩ : ArchiveEntry) ∈ twins.entries := by
    rw [twins_entries]
    exact .tail _ (.tail _ (.head _))
  have own := always twins Session.scriptPattern "a.c" (by decide +kernel) _ second rfl
  rw [own] at first
  exact absurd first (by decide +kernel)

/-- Between the twins a name reads its own entry, and without the second twin the scripts are kept
with their own texts. -/
theorem read_listed_apart :
    let apart := ofTexts "System" [("A.c", "fn F() \x7b 1 \x7d"), ("B.c", ""), ("a.txt", "")]
    ("B.c" ∈ twins.find Session.scriptPattern ∧ twins.read "B.c" = .ok "") ∧
      apart.Distinguishes Session.scriptPattern ∧
      (Session.fresh : Session interpreter).registerArchive apart =
        (.ok 2, ((Session.fresh.register ⟨"A.c", "fn F() \x7b 1 \x7d"⟩).register ⟨"B.c", ""⟩)) := by
  intro apart
  have listed : "B.c" ∈ twins.find Session.scriptPattern := by decide +kernel
  have distinguishes : apart.Distinguishes Session.scriptPattern := by
    unfold Distinguishes
    decide +kernel
  refine ⟨⟨listed, ?_⟩, distinguishes, (read_listed apart).2 distinguishes _⟩
  rcases (@read_listed interpreter twins).1 _ _ listed with
    ⟨before, own, after, split, named, others, read, first⟩
  rw [twins_entries] at split
  -- Only the second entry has the name.
  rcases before with _ | ⟨one, _ | ⟨two, _ | ⟨three, more⟩⟩⟩
  · cases split
    exact absurd named (by decide)
  · cases split
    exact read
  · cases split
    exact absurd named (by decide)
  · simp only [List.cons_append, List.cons.injEq, List.nil_eq, List.append_eq_nil_iff,
      reduceCtorEq, and_false] at split

end Archive

/-! ## Entries that are asked for -/

namespace Archive

/-- Archives as they come about: texts under their names, or the files of a directory. -/
inductive Opened : Archive -> Prop where
  | texts (name : String) (texts : List (String × String)) : Opened (ofTexts name texts)
  | directory {tree : FileTree} {path : String} {archive : Archive}
      (opened : tree.openArchive path = .ok archive) : Opened archive

/-- Reading a name answers that there is no such entry. -/
def Misses (archive : Archive) (name : String) : Prop :=
  Exists fun fault => archive.read name = .error fault ∧ fault.code = "ARCHIVE_ENTRY_MISSING"

/-- An entry that cannot be read is not missing. -/
theorem content_fault {archive : Archive} (opened : archive.Opened) :
    ∀ entry ∈ archive.entries, ∀ fault, entry.content = .error fault ->
      fault.code ≠ "ARCHIVE_ENTRY_MISSING" := by
  intro entry member fault unreadable
  cases opened with
  | texts name texts =>
      rcases List.mem_map.mp member with ⟨pair, _, rfl⟩
      cases unreadable
  | @directory tree path _ opened =>
      unfold FileTree.openArchive at opened
      split at opened
      · cases opened
        rw [FileTree.archiveOf, FileTree.sortedArchive, List.mem_mergeSort,
          List.mem_filterMap] at member
        rcases member with ⟨⟨name, found⟩, _, made⟩
        cases found with
        | directory _ => cases made
        | file content =>
            cases made
            rw [FileTree.entryOf_fault unreadable]
            decide
      · cases opened
      · cases opened

theorem misses_iff {archive : Archive} (opened : archive.Opened) (name : String) :
    archive.Misses name ↔ archive.entry? name = none := by
  constructor
  · rintro ⟨fault, failed, code⟩
    cases found : archive.entry? name with
    | none => rfl
    | some entry =>
        rw [read, found] at failed
        exact absurd code
          (content_fault opened entry (List.mem_of_find?_eq_some found) fault failed)
  · intro nobody
    exact ⟨missingEntry name, by rw [read, nobody], rfl⟩

/-- What is read is listed under the name that it is read by. -/
theorem entry_listed {archive : Archive} {name : String} {entry : ArchiveEntry}
    (found : archive.entry? name = some entry) : entry ∈ archive.covered name := by
  rcases List.find?_eq_some_iff_append.mp found with ⟨same, _⟩
  exact List.mem_filter.mpr ⟨List.mem_of_find?_eq_some found, Wildcard.ofText_covers same⟩

/-- A name of plain characters lists only what reading it may give. -/
theorem find_eq_nil_iff {archive : Archive} {among : Char -> Prop} {name : String}
    (inside : ∀ entry ∈ archive.entries, ∀ d ∈ entry.name.toList, among d)
    (plain : ∀ c ∈ name.toList, WildcardPart.Plain among c) :
    archive.find name = [] ↔ archive.entry? name = none := by
  rw [find_eq, List.map_eq_nil_iff]
  constructor
  · intro nothing
    cases found : archive.entry? name with
    | none => rfl
    | some entry =>
        have listed := entry_listed found
        rw [nothing] at listed
        cases listed
  · intro nobody
    refine List.filter_eq_nil_iff.mpr fun entry member covers => ?_
    have same := Wildcard.sameName_of_covers plain (inside entry member) covers
    exact List.find?_eq_none.mp nobody entry member same

/-- If a character of a name stands for another one, there may be an entry that is listed under
the name and cannot be read by it. -/
theorem exists_listed_missed {name : String} {c : Char} (member : c ∈ name.toList)
    (loose : ¬WildcardPart.Plain (fun _ => True) c) :
    Exists fun other : String =>
      (Wildcard.ofText name).covers other = true ∧ Text.sameName other name = false := by
  -- The other character, which is put in the place of this one.
  obtain ⟨d, taken, differs⟩ : Exists fun d =>
      (WildcardPart.ofChar c).takes d = true ∧ d.toLower ≠ c.toLower := by
    by_cases run : c = '*'
    · subst run
      exact ⟨'x', by decide, by decide⟩
    · by_contra none
      refine loose ⟨run, fun d _ taken => ?_⟩
      by_contra differs
      exact none ⟨d, taken, differs⟩
  rcases List.append_of_mem member with ⟨front, back, split⟩
  refine ⟨String.ofList (front ++ d :: back), ?_, ?_⟩
  · have itself : ∀ cs : List Char,
        List.Forall₂ (fun c d => (WildcardPart.ofChar c).takes d = true) cs cs := fun cs =>
      List.forall₂_same.mpr fun _ _ => WildcardPart.ofChar_takes rfl
    rw [Wildcard.covers_iff_fits, String.toList_ofList, Wildcard.ofText, split]
    exact Wildcard.fits_of_each (List.rel_append (itself front) (.cons taken (itself back)))
  · refine Bool.eq_false_iff.mpr fun same => differs ?_
    rw [Text.sameName, beq_iff_eq, Text.asciiLower, Text.asciiLower, String.ofList_inj,
      String.toList_ofList, split, List.map_append, List.map_append, List.map_cons,
      List.map_cons] at same
    exact (List.cons.inj (List.append_cancel_left same)).1

/-- A name for which all archives agree is made of plain characters. -/
theorem plain_of_agree {name : String}
    (agree : ∀ other : Archive, other.Opened -> (other.find name = [] ↔ other.Misses name)) :
    ∀ c ∈ name.toList, WildcardPart.Plain (fun _ => True) c := by
  intro c member
  by_contra loose
  rcases exists_listed_missed member loose with ⟨entry, covers, other⟩
  let alone := ofTexts "" [(entry, "")]
  have entries : alone.entries = [⟨entry, .ok ""⟩] := rfl
  have nobody : alone.entry? name = none := by
    unfold entry?
    rw [entries, List.find?_singleton, other]
    rfl
  have nothing := (agree alone (.texts _ _)).mpr ((misses_iff (.texts _ _) name).mpr nobody)
  rw [find_eq, covered, entries, List.filter_cons, if_pos covers] at nothing
  cases nothing

/-- Where listing agrees with reading, a script is looked for as if it were simply read. -/
theorem scriptIn_eq {archive : Archive} {name : String}
    (agrees : archive.find name = [] ↔ archive.entry? name = none) (path : String) :
    Generation.scriptIn archive path name =
      match archive.entry? name with
      | some entry => entry.content.map fun source => ⟨name, source⟩
      | none => .error (Generation.noScriptFile path) := by
  unfold Generation.scriptIn
  cases found : archive.entry? name with
  | none =>
      rw [agrees.mpr found]
      rfl
  | some entry =>
      have listed : (archive.find name).isEmpty = false := by
        rw [List.isEmpty_eq_false_iff]
        intro nothing
        rw [agrees.mp nothing] at found
        cases found
      rw [listed, read, found]
      cases content : entry.content <;> rfl

/-- **A name is asked for as a pattern.**  Whatever a name reads is listed under it, and a name is
missed just if no entry has it up to case.  As long as the name is made of characters that are
plain among those of the names in the archive, nothing is listed just if the name is missed, so
that looking for a script fails with the whole path if there is none and reads it otherwise.  All
archives are like this just if the characters of the name are plain among all characters. -/
theorem find_meets_read (archive : Archive) (opened : archive.Opened) (name : String) :
    (∀ entry, archive.entry? name = some entry ->
      archive.read name = entry.content ∧ entry.name ∈ archive.find name) ∧
      (archive.Misses name ↔ archive.entry? name = none) ∧
      (∀ among : Char -> Prop,
        (∀ entry ∈ archive.entries, ∀ d ∈ entry.name.toList, among d) ->
        (∀ c ∈ name.toList, WildcardPart.Plain among c) ->
        (archive.find name = [] ↔ archive.Misses name) ∧
          ∀ path, Generation.scriptIn archive path name =
            match archive.entry? name with
            | some entry => entry.content.map fun source => ⟨name, source⟩
            | none => .error (Generation.noScriptFile path)) ∧
      ((∀ other : Archive, other.Opened -> (other.find name = [] ↔ other.Misses name)) ↔
        ∀ c ∈ name.toList, WildcardPart.Plain (fun _ => True) c) := by
  have missed := misses_iff opened name
  refine ⟨fun entry found => ⟨?_, ?_⟩, missed, fun among inside plain => ⟨?_, fun path => ?_⟩,
    plain_of_agree, fun plain other otherOpened => ?_⟩
  · rw [read, found]
  · rw [find_eq]
    exact List.mem_map_of_mem (entry_listed found)
  · exact (find_eq_nil_iff inside plain).trans missed.symm
  · exact scriptIn_eq (find_eq_nil_iff inside plain) path
  · exact (find_eq_nil_iff (fun _ _ _ _ => trivial) plain).trans (misses_iff otherOpened name).symm

/-- The directory of a landscape, and a game script in it. -/
def scripted : Archive :=
  ofTexts "demo" [("Landscape.txt", "map \x7b\x7d"), ("Script.c", "fn ScriptAlgo(x, y) \x7b true \x7d")]

/-- A plain name is found in any case, or missed with the whole path; the name of a map script is
plain among all characters, and so no archive misses what it lists under it. -/
theorem find_meets_read_scripted :
    scripted.Opened ∧
      (∀ entry ∈ scripted.entries, ∀ d ∈ entry.name.toList, d.toNat < 0x80) ∧
      (∀ c ∈ "SCRIPT.C".toList, WildcardPart.Plain (fun d => d.toNat < 0x80) c) ∧
      (scripted.find "SCRIPT.C" = ["Script.c"] ∧ ¬scripted.Misses "SCRIPT.C") ∧
      Generation.scriptIn scripted "demo/Other.c" "Other.c" =
        .error (Generation.noScriptFile "demo/Other.c") ∧
      ∀ other : Archive, other.Opened -> (other.find "Map.c" = [] ↔ other.Misses "Map.c") := by
  have opened : scripted.Opened := .texts _ _
  have asciiOnly : scripted.entries.all (fun entry =>
      entry.name.toList.all fun d => decide (d.toNat < 0x80)) = true := rfl
  have inside : ∀ entry ∈ scripted.entries, ∀ d ∈ entry.name.toList, d.toNat < 0x80 :=
    fun entry member d letter =>
      of_decide_eq_true (List.all_eq_true.mp (List.all_eq_true.mp asciiOnly entry member) d letter)
  have ascii : ∀ name : String,
      name.toList.all (fun c => decide (c.toNat < 0x80 ∧ c ≠ '*' ∧ c ≠ '?')) = true ->
      ∀ c ∈ name.toList, WildcardPart.Plain (fun d => d.toNat < 0x80) c := by
    intro name marks c member
    have each := of_decide_eq_true (List.all_eq_true.mp marks c member)
    exact WildcardPart.plain_ascii each.1 each.2.1 each.2.2
  have plain := ascii "SCRIPT.C" (by decide +kernel)
  have listed : scripted.find "SCRIPT.C" = ["Script.c"] := by decide +kernel
  have other := (find_meets_read scripted opened "Other.c").2.2.1 _ inside
    (ascii "Other.c" (by decide +kernel))
  have everywhere : ∀ c ∈ "Map.c".toList, WildcardPart.Plain (fun _ => True) c := by
    intro c member
    have each : "Map.c".toList.all (fun c => decide (c.toNat < 0x80 ∧
        c ∉ ['*', '?', 's', 'S', 'k', 'K'])) = true := by decide +kernel
    have marks := of_decide_eq_true (List.all_eq_true.mp each c member)
    exact WildcardPart.plain_all marks.1 marks.2
  refine ⟨opened, inside, plain, ⟨listed, fun missed => ?_⟩, other.2 "demo/Other.c",
    (find_meets_read scripted opened "Map.c").2.2.2.mpr everywhere⟩
  have agrees := ((find_meets_read scripted opened "SCRIPT.C").2.2.1 _ inside plain).1
  rw [agrees.mpr missed] at listed
  cases listed

/-- A mark in a name, or a letter that has another one folded to it: an entry is listed under the
name but none is read, and the script is missed without its path. -/
theorem find_meets_read_fails :
    ¬(∀ archive : Archive, archive.Opened -> ∀ name,
      (archive.find name = [] ↔ archive.Misses name)) ∧
      scripted.find "Scr?pt.c" = ["Script.c"] ∧ scripted.Misses "Scr?pt.c" ∧
      Generation.scriptIn scripted "demo/Scr?pt.c" "Scr?pt.c" =
        .error (missingEntry "Scr?pt.c") ∧
      (ofTexts "demo" [("\u017fcript.c", "")]).find "Script.c" = ["\u017fcript.c"] ∧
      (ofTexts "demo" [("\u017fcript.c", "")]).Misses "Script.c" := by
  have missed : scripted.Misses "Scr?pt.c" :=
    (misses_iff (.texts _ _) "Scr?pt.c").mpr (Option.isNone_iff_eq_none.mp (by decide +kernel))
  have listed : scripted.find "Scr?pt.c" = ["Script.c"] := by decide +kernel
  refine ⟨fun always => ?_, listed, missed, ?_, by decide +kernel, ?_⟩
  · rw [(always scripted (.texts _ _) "Scr?pt.c").mpr missed] at listed
    cases listed
  · rfl
  · exact (misses_iff (.texts _ _) "Script.c").mpr
      (Option.isNone_iff_eq_none.mp (by decide +kernel))

end Archive

end Landform
