import Landform.Scenario.Definitions
import Landform.Text.Trimmed

namespace Landform
namespace Scenario

/-!
# Sections that offer parameters

A text that offers parameters is read line by line, with one parameter open at a time.  Here it is
looked at as a whole.  It is cut before every heading but those of options (`cutSections`).  A
section with the heading `[ParameterDef]` offers one parameter: the lines in front of its first
`[Option]` are its definition part, and all the others, whichever option they stand in, are its
option part.  What the section offers is told from the two parts (`DefinitionsSection.parameter`).

`faultsOf` lists what is wrong with a text, in the order in which it is found.  Nearly all of it is
found where it stands; but that a section has no id is only known at its end, where the next
section begins or the text ends, although it is reported at the heading.
-/

/-! ## Lines -/

namespace DefinitionsLine

/-- The name of a heading that begins a new section. -/
def opens? : DefinitionsLine -> Option String
  | .heading name => if name == "Option" || name == "Options" then none else some name
  | _ => none

/-- Whether a line is the heading of an option. -/
def isOption : DefinitionsLine -> Bool
  | .heading name => name == "Option"
  | _ => false

/-- The value that a line sets a key to. -/
def valueOf? (key : String) : DefinitionsLine -> Option String
  | .setting set value => if set == key then some value else none
  | _ => none

end DefinitionsLine

/-- The integer of 32 bits that a value stands for. -/
def number? (value : String) : Option Int :=
  Number.readDecimal? Number.int32 value

/-- What is wrong with a line where the values of one key have to be numbers. -/
def DefinitionsLine.cause? (numeric? : Option String) : DefinitionsLine -> Option DefinitionsCause
  | .unreadable text => some (.notASetting text)
  | .setting key value =>
      if (numeric?.any fun numeric => key == numeric) && (number? value).isNone then
        some (.notANumber key value)
      else none
  | _ => none

/-! ## Sections -/

/-- A section of a text: its heading, with the number of that line, and the lines behind it. -/
structure DefinitionsSection where
  number : Nat
  name : String
  body : List DefinitionsLine

/-- The lines in front of all sections, and the sections, the first line having a number. -/
def cutSections : Nat -> List DefinitionsLine -> List DefinitionsLine × List DefinitionsSection
  | _, [] => ([], [])
  | number, line :: rest =>
      let (body, sections) := cutSections (number + 1) rest
      match line.opens? with
      | some name => ([], ⟨number, name, body⟩ :: sections)
      | none => (line :: body, sections)

namespace DefinitionsSection

/-- Whether a section offers a parameter. -/
def isDefinition (piece : DefinitionsSection) : Bool :=
  piece.name == "ParameterDef"

/-- The lines in front of the first option. -/
def definitionPart (piece : DefinitionsSection) : List DefinitionsLine :=
  piece.body.takeWhile fun line => !line.isOption

/-- The lines of all options. -/
def optionPart (piece : DefinitionsSection) : List DefinitionsLine :=
  piece.body.dropWhile fun line => !line.isOption

/-- The values that a key is set to in the definition part, in order. -/
def settings (piece : DefinitionsSection) (key : String) : List String :=
  piece.definitionPart.filterMap (DefinitionsLine.valueOf? key)

/-- The values of the options, in order. -/
def optionValues (piece : DefinitionsSection) : List String :=
  piece.optionPart.filterMap (DefinitionsLine.valueOf? "Value")

/-- The parameter that a section offers: the last setting of a key counts, and the range is that
of the values of all options. -/
def parameter (piece : DefinitionsSection) : Parameter where
  id := (piece.settings "ID").getLast?.getD ""
  name := (piece.settings "Name").getLast?.getD ""
  default := ((piece.settings "Default").filterMap number?).getLast?.getD 0
  least := (piece.optionValues.filterMap number?).min?
  most := (piece.optionValues.filterMap number?).max?

end DefinitionsSection

/-! ## Faults -/

/-- A fault, and the number of the line at which it is found. -/
structure FoundFault where
  found : Nat
  fault : DefinitionsFault

/-- What is wrong with lines, where the values of one key have to be numbers. -/
def lineFaults (numeric? : Option String) (number : Nat) (lines : List DefinitionsLine) :
    List FoundFault :=
  (lines.zipIdx number).filterMap fun numbered =>
    (numbered.1.cause? numeric?).map fun cause => ⟨numbered.2, ⟨numbered.2, cause⟩⟩

/-- What is wrong with a section.  That it has no id is found at the line behind it. -/
def DefinitionsSection.faults (piece : DefinitionsSection) : List FoundFault :=
  if piece.isDefinition then
    lineFaults (some "Default") (piece.number + 1) piece.definitionPart ++
      lineFaults (some "Value") (piece.number + 1 + piece.definitionPart.length) piece.optionPart ++
      if piece.parameter.id.isEmpty then
        [⟨piece.number + 1 + piece.body.length, ⟨piece.number, .noId⟩⟩]
      else []
  else lineFaults none (piece.number + 1) piece.body

/-- What is wrong with a text, in the order in which it is found. -/
def faultsOf (lines : List DefinitionsLine) : List FoundFault :=
  lineFaults none 1 (cutSections 1 lines).1 ++
    (cutSections 1 lines).2.flatMap DefinitionsSection.faults

/-- The parameters that the sections of a text offer, in order. -/
def definitionsOf (lines : List DefinitionsLine) : List Parameter :=
  ((cutSections 1 lines).2.filter DefinitionsSection.isDefinition).map
    DefinitionsSection.parameter

/-! ## Where sections stand -/

section

variable {line : DefinitionsLine} {rest : List DefinitionsLine}

/-- Sections begin at the lines that open them. -/
theorem cutSections_cons_of_opens {name : String} (opens : line.opens? = some name)
    (number : Nat) :
    cutSections number (line :: rest) =
      ([], ⟨number, name, (cutSections (number + 1) rest).1⟩ ::
        (cutSections (number + 1) rest).2) := by
  simp only [cutSections, opens]

theorem cutSections_cons_of_closed (closed : line.opens? = none) (number : Nat) :
    cutSections number (line :: rest) =
      (line :: (cutSections (number + 1) rest).1, (cutSections (number + 1) rest).2) := by
  simp only [cutSections, closed]

end

/-- A section stands in a text that begins with a numbered line: its heading has its number, no
line of its body begins a section, and it goes on to the next section or to the end. -/
structure DefinitionsSection.StandsIn (piece : DefinitionsSection) (number : Nat)
    (lines : List DefinitionsLine) : Prop where
  place : Exists fun before => Exists fun after =>
    lines = before ++ .heading piece.name :: (piece.body ++ after) ∧
      piece.number = number + before.length ∧
      ∀ next, after.head? = some next -> next.opens?.isSome = true
  body : ∀ line ∈ piece.body, line.opens? = none

theorem cutSections_front (number : Nat) (lines : List DefinitionsLine) :
    (∀ line ∈ (cutSections number lines).1, line.opens? = none) ∧
      Exists fun after => lines = (cutSections number lines).1 ++ after ∧
        ∀ next, after.head? = some next -> next.opens?.isSome = true := by
  induction lines generalizing number with
  | nil => exact ⟨fun _ impossible => (nomatch impossible), [], rfl, fun _ none => nomatch none⟩
  | cons line rest inductionHypothesis =>
      cases opens : line.opens? with
      | none =>
          rw [cutSections_cons_of_closed opens]
          obtain ⟨closed, after, split, next⟩ := inductionHypothesis (number + 1)
          exact ⟨List.forall_mem_cons.mpr ⟨opens, closed⟩, after, congrArg (line :: ·) split, next⟩
      | some name =>
          rw [cutSections_cons_of_opens opens]
          refine ⟨fun _ impossible => (nomatch impossible), line :: rest, rfl, ?_⟩
          rintro _ ⟨⟩
          rw [opens]
          rfl

/-- The line that begins a section is its heading. -/
theorem heading_of_opens {line : DefinitionsLine} {name : String}
    (opens : line.opens? = some name) : line = .heading name := by
  cases line with
  | heading other =>
      rw [DefinitionsLine.opens?] at opens
      split at opens <;> cases opens
      rfl
  | nothing | setting | unreadable => cases opens

theorem cutSections_standIn (number : Nat) (lines : List DefinitionsLine) :
    ∀ piece ∈ (cutSections number lines).2, piece.StandsIn number lines := by
  induction lines generalizing number with
  | nil => exact fun _ impossible => nomatch impossible
  | cons line rest inductionHypothesis =>
      -- A section of the rest has one line more in front of it.
      have later : ∀ piece ∈ (cutSections (number + 1) rest).2,
          piece.StandsIn number (line :: rest) := by
        intro piece member
        obtain ⟨⟨before, after, split, numbered, next⟩, body⟩ :=
          inductionHypothesis (number + 1) piece member
        refine ⟨⟨line :: before, after, congrArg (line :: ·) split, ?_, next⟩, body⟩
        rw [numbered, List.length_cons, Nat.add_assoc, Nat.add_comm 1]
      cases opens : line.opens? with
      | none =>
          rw [cutSections_cons_of_closed opens]
          exact later
      | some name =>
          rw [cutSections_cons_of_opens opens]
          refine List.forall_mem_cons.mpr ⟨?_, later⟩
          obtain ⟨closed, after, split, next⟩ := cutSections_front (number + 1) rest
          refine ⟨⟨[], after, ?_, rfl, next⟩, closed⟩
          rw [heading_of_opens opens]
          exact congrArg (DefinitionsLine.heading name :: ·) split

/-- Every line stands in front of all sections, or is the heading of one, or stands in its body. -/
theorem mem_cutSections {line : DefinitionsLine} {lines : List DefinitionsLine} (number : Nat) :
    line ∈ lines ↔ line ∈ (cutSections number lines).1 ∨
      Exists fun piece => piece ∈ (cutSections number lines).2 ∧
        (line = .heading piece.name ∨ line ∈ piece.body) := by
  induction lines generalizing number with
  | nil =>
      refine iff_of_false (fun impossible => nomatch impossible) ?_
      rintro (impossible | ⟨_, impossible, _⟩) <;> cases impossible
  | cons first rest inductionHypothesis =>
      rw [List.mem_cons, inductionHypothesis (number + 1)]
      cases opens : first.opens? with
      | none => rw [cutSections_cons_of_closed opens, List.mem_cons, or_assoc]
      | some name =>
          rw [cutSections_cons_of_opens opens, heading_of_opens opens]
          simp only [List.not_mem_nil, false_or, List.mem_cons, or_and_right, exists_or,
            exists_eq_left, or_assoc]

/-! ## What lines say -/

/-- A line without blanks at its ends says nothing: it is empty or a comment. -/
def IsSilent (line : List Char) : Prop :=
  line = [] ∨ (Exists fun rest => line = ';' :: rest) ∨
    Exists fun rest => line = '/' :: '/' :: rest

/-- A line is a name between brackets. -/
def IsHeading (line : List Char) : Prop :=
  Exists fun name => line = '[' :: (name ++ [']'])

/-- What a line without blanks at its ends says.  A setting is cut at its first equality sign, so
that its value may hold others; names, keys and values have no blanks at their ends either. -/
inductive Means : List Char -> DefinitionsLine -> Prop
  | nothing {line : List Char} : IsSilent line -> Means line .nothing
  | heading {name inner : List Char} :
      Text.IsTrimmed name inner -> Means ('[' :: (inner ++ [']'])) (.heading (String.ofList name))
  | setting {key value left right : List Char} :
      ¬IsSilent (left ++ '=' :: right) -> ¬IsHeading (left ++ '=' :: right) -> '=' ∉ left ->
        Text.IsTrimmed key left -> Text.IsTrimmed value right ->
          Means (left ++ '=' :: right) (.setting (String.ofList key) (String.ofList value))
  | unreadable {line : List Char} :
      ¬IsSilent line -> ¬IsHeading line -> '=' ∉ line ->
        Means line (.unreadable (String.ofList line))

theorem bracketed?_eq_some_iff {line name : List Char} :
    bracketed? line = some name ↔ line = '[' :: (name ++ [']']) := by
  unfold bracketed?
  split
  · rename_i rest
    split
    · rename_i inner ended
      have split : rest = inner.reverse ++ [']'] := by
        rw [List.reverse_eq_cons_iff] at ended
        exact ended
      rw [Option.some.injEq, split, List.cons.injEq, List.append_left_inj]
      exact ⟨fun same => ⟨rfl, same⟩, fun same => same.2⟩
    · rename_i open_
      refine iff_of_false (fun impossible => nomatch impossible) fun same => ?_
      rw [(List.cons.inj same).2, List.reverse_append] at open_
      exact open_ _ rfl
  · rename_i unopened
    exact iff_of_false (fun impossible => nomatch impossible) fun same => unopened _ same

theorem bracketed?_eq_none {line : List Char} (noHeading : ¬IsHeading line) :
    bracketed? line = none :=
  Option.eq_none_iff_forall_ne_some.mpr fun name bracketed =>
    noHeading ⟨name, bracketed?_eq_some_iff.mp bracketed⟩

/-- What a line that is not silent is read as. -/
theorem read_of_spoken {raw : String} {line : List Char} (trimmed : Text.IsTrimmed line raw.toList)
    (spoken : ¬IsSilent line) :
    DefinitionsLine.read raw =
      match bracketed? line with
      | some inner => .heading (String.ofList (Text.trimChars inner))
      | none =>
          match cutAt '=' line with
          | some (key, value) =>
              .setting (String.ofList (Text.trimChars key)) (String.ofList (Text.trimChars value))
          | none => .unreadable (String.ofList line) := by
  unfold DefinitionsLine.read
  rw [trimmed.trimChars_eq]
  dsimp only
  split
  · exact (spoken (.inl rfl)).elim
  · exact (spoken (.inr (.inl ⟨_, rfl⟩))).elim
  · exact (spoken (.inr (.inr ⟨_, rfl⟩))).elim
  · rfl

theorem not_isSilent_heading (inner : List Char) : ¬IsSilent ('[' :: inner) := by
  rintro (empty | ⟨_, comment⟩ | ⟨_, comment⟩)
  · cases empty
  · exact absurd (List.cons.inj comment).1 (by decide)
  · exact absurd (List.cons.inj comment).1 (by decide)

/-- A line is read as what it says. -/
theorem Means.read_eq {raw : String} {bare : List Char} {line : DefinitionsLine}
    (means : Means bare line) (trimmed : Text.IsTrimmed bare raw.toList) :
    DefinitionsLine.read raw = line := by
  cases means with
  | nothing silent =>
      unfold DefinitionsLine.read
      rw [trimmed.trimChars_eq]
      rcases silent with rfl | ⟨rest, rfl⟩ | ⟨rest, rfl⟩ <;> rfl
  | @heading name inner named =>
      rw [read_of_spoken trimmed (not_isSilent_heading _), bracketed?_eq_some_iff.mpr rfl]
      dsimp only
      rw [named.trimChars_eq]
  | @setting key value left right spoken noHeading free keyTrimmed valueTrimmed =>
      rw [read_of_spoken trimmed spoken, bracketed?_eq_none noHeading, cutAt_append free]
      dsimp only
      rw [keyTrimmed.trimChars_eq, valueTrimmed.trimChars_eq]
  | unreadable spoken noHeading free =>
      rw [read_of_spoken trimmed spoken, bracketed?_eq_none noHeading, cutAt_of_not_mem free]

/-- Every line says something. -/
theorem exists_means (bare : List Char) : Exists (Means bare) := by
  by_cases silent : IsSilent bare
  · exact ⟨_, .nothing silent⟩
  by_cases heading : IsHeading bare
  · obtain ⟨inner, rfl⟩ := heading
    exact ⟨_, .heading (Text.isTrimmed_trimChars inner)⟩
  by_cases set : '=' ∈ bare
  · obtain ⟨left, right, rfl, free⟩ := List.eq_append_cons_of_mem set
    exact ⟨_, .setting silent heading free (Text.isTrimmed_trimChars left)
      (Text.isTrimmed_trimChars right)⟩
  · exact ⟨_, .unreadable silent heading set⟩

/-- **Reading a line**: its blanks are cut off, and what is left says what it is read as, and
nothing else. -/
theorem read_eq_iff {raw : String} {line : DefinitionsLine} :
    DefinitionsLine.read raw = line ↔
      Exists fun bare => Text.IsTrimmed bare raw.toList ∧ Means bare line := by
  constructor
  · rintro rfl
    have trimmed := Text.isTrimmed_trimChars raw.toList
    obtain ⟨line, means⟩ := exists_means (Text.trimChars raw.toList)
    exact ⟨_, trimmed, means.read_eq trimmed ▸ means⟩
  · rintro ⟨bare, trimmed, means⟩
    exact means.read_eq trimmed

/-- A heading with blanks wherever they may stand, and a setting whose value holds an equality
sign and looks like a comment. -/
example :
    DefinitionsLine.read "\t[ Option ]  " = .heading "Option" ∧
      DefinitionsLine.read " Name = a=b; " = .setting "Name" "a=b;" ∧
      DefinitionsLine.read " [Name = a]b " = .setting "[Name" "a]b" := by
  exact ⟨rfl, rfl, rfl⟩

/-- What a line has to be, its blanks cut off: empty, a comment, a heading, or a setting. -/
def IsReadable (line : List Char) : Prop :=
  line = [] ∨ (Exists fun rest => line = ';' :: rest) ∨
    (Exists fun rest => line = '/' :: '/' :: rest) ∨
    (Exists fun name => line = '[' :: (name ++ [']'])) ∨ '=' ∈ line

/-- Whether anything could be made of a line. -/
def DefinitionsLine.isRead : DefinitionsLine -> Bool
  | .unreadable _ => false
  | _ => true

/-- The lines that can be read are those of the five kinds. -/
theorem read_isRead_iff (raw : String) :
    (DefinitionsLine.read raw).isRead = true ↔ IsReadable (Text.trimChars raw.toList) := by
  obtain ⟨bare, trimmed, means⟩ := read_eq_iff.mp (rfl : DefinitionsLine.read raw = _)
  have kinds : IsReadable bare ↔ IsSilent bare ∨ IsHeading bare ∨ '=' ∈ bare := by
    simp only [IsReadable, IsSilent, IsHeading, or_assoc]
  rw [trimmed.trimChars_eq, kinds]
  generalize DefinitionsLine.read raw = line at means
  cases means with
  | nothing silent => exact iff_of_true rfl (.inl silent)
  | heading named => exact iff_of_true rfl (.inr (.inl ⟨_, rfl⟩))
  | setting spoken noHeading free keyTrimmed valueTrimmed =>
      exact iff_of_true rfl (.inr (.inr (List.mem_append_right _ List.mem_cons_self)))
  | unreadable spoken noHeading free =>
      refine iff_of_false Bool.false_ne_true ?_
      rintro (silent | heading | set)
      · exact spoken silent
      · exact noHeading heading
      · exact free set

/-! ## Texts without faults -/

theorem filterMap_cons_toList {α β : Type} (f : α -> Option β) (first : α) (rest : List α) :
    (first :: rest).filterMap f = (f first).toList ++ rest.filterMap f := by
  cases given : f first with
  | none => rw [List.filterMap_cons_none given]; rfl
  | some value => rw [List.filterMap_cons_some given]; rfl

theorem lineFaults_cons (numeric? : Option String) (number : Nat) (line : DefinitionsLine)
    (rest : List DefinitionsLine) :
    lineFaults numeric? number (line :: rest) =
      ((line.cause? numeric?).map fun cause => ⟨number, ⟨number, cause⟩⟩).toList ++
        lineFaults numeric? (number + 1) rest :=
  filterMap_cons_toList _ (line, number) (rest.zipIdx (number + 1))

theorem cause?_none_iff {line : DefinitionsLine} :
    line.cause? none = none ↔ line.isRead = true := by
  cases line with
  | nothing | heading | setting => exact iff_of_true rfl rfl
  | unreadable text => exact iff_of_false (fun impossible => nomatch impossible) Bool.false_ne_true

theorem cause?_some_iff {line : DefinitionsLine} {numeric : String} :
    line.cause? (some numeric) = none ↔ line.isRead = true ∧
      ∀ value, line.valueOf? numeric = some value -> (number? value).isSome = true := by
  cases line with
  | nothing | heading => exact iff_of_true rfl ⟨rfl, fun _ impossible => nomatch impossible⟩
  | unreadable text =>
      exact iff_of_false (fun impossible => nomatch impossible) fun read => nomatch read.1
  | setting key value =>
      have isRead : (DefinitionsLine.setting key value).isRead = true := rfl
      rw [DefinitionsLine.cause?, Option.any_some, DefinitionsLine.valueOf?, and_iff_right isRead]
      cases key == numeric with
      | false => exact iff_of_true rfl fun _ impossible => nomatch impossible
      | true =>
          cases known : number? value with
          | none =>
              refine iff_of_false (fun impossible => nomatch impossible) fun holds => ?_
              have read := holds value rfl
              rw [known] at read
              cases read
          | some n =>
              refine iff_of_true rfl ?_
              rintro _ ⟨⟩
              rw [known]
              rfl

theorem lineFaults_eq_nil_iff {numeric? : Option String} {number : Nat}
    {lines : List DefinitionsLine} :
    lineFaults numeric? number lines = [] ↔ ∀ line ∈ lines, line.cause? numeric? = none := by
  induction lines generalizing number with
  | nil => exact iff_of_true rfl fun _ impossible => nomatch impossible
  | cons line rest inductionHypothesis =>
      rw [lineFaults_cons, List.append_eq_nil_iff, inductionHypothesis, Option.toList_eq_nil_iff,
        Option.map_eq_none_iff, List.forall_mem_cons]

/-- Nothing is wrong with lines if they can be read and the values of the key are numbers. -/
theorem lineFaults_some_eq_nil_iff {numeric : String} {number : Nat}
    {lines : List DefinitionsLine} :
    lineFaults (some numeric) number lines = [] ↔ (∀ line ∈ lines, line.isRead = true) ∧
      ∀ value ∈ lines.filterMap (DefinitionsLine.valueOf? numeric),
        (number? value).isSome = true := by
  rw [lineFaults_eq_nil_iff]
  constructor
  · intro sound
    refine ⟨fun line member => (cause?_some_iff.mp (sound line member)).1, ?_⟩
    intro value member
    obtain ⟨line, there, sets⟩ := List.mem_filterMap.mp member
    exact (cause?_some_iff.mp (sound line there)).2 value sets
  · rintro ⟨read, numbers⟩ line member
    exact cause?_some_iff.mpr ⟨read line member, fun value sets =>
      numbers value (List.mem_filterMap.mpr ⟨line, member, sets⟩)⟩

namespace DefinitionsSection

/-- A section that offers a parameter has an id and numbers where there have to be numbers. -/
structure IsSound (piece : DefinitionsSection) : Prop where
  defaults : ∀ value ∈ piece.settings "Default", (number? value).isSome = true
  values : ∀ value ∈ piece.optionValues, (number? value).isSome = true
  named : Exists fun id => (piece.settings "ID").getLast? = some id ∧ id ≠ ""

theorem named_iff (piece : DefinitionsSection) :
    piece.parameter.id.isEmpty = false ↔
      Exists fun id => (piece.settings "ID").getLast? = some id ∧ id ≠ "" := by
  rw [parameter]
  cases (piece.settings "ID").getLast? with
  | none =>
      refine iff_of_false (fun impossible => nomatch impossible) ?_
      rintro ⟨_, impossible, _⟩
      cases impossible
  | some id =>
      rw [Option.getD_some, Bool.eq_false_iff, ne_eq, String.isEmpty_iff]
      constructor
      · exact fun filled => ⟨id, rfl, filled⟩
      · rintro ⟨_, ⟨⟩, filled⟩
        exact filled

theorem faults_eq_nil_iff (piece : DefinitionsSection) :
    piece.faults = [] ↔ (∀ line ∈ piece.body, line.isRead = true) ∧
      (piece.isDefinition = true -> piece.IsSound) := by
  have body : (∀ line ∈ piece.body, line.isRead = true) ↔
      (∀ line ∈ piece.definitionPart, line.isRead = true) ∧
        ∀ line ∈ piece.optionPart, line.isRead = true := by
    rw [← List.forall_mem_append, definitionPart, optionPart, List.takeWhile_append_dropWhile]
  unfold faults
  cases isDefinition : piece.isDefinition with
  | false =>
      rw [if_neg Bool.false_ne_true, lineFaults_eq_nil_iff]
      simp only [cause?_none_iff, Bool.false_eq_true, false_implies, and_true]
  | true =>
      have named : (if piece.parameter.id.isEmpty then
          [(⟨piece.number + 1 + piece.body.length, ⟨piece.number, .noId⟩⟩ : FoundFault)]
          else []) = [] ↔ piece.parameter.id.isEmpty = false := by
        cases piece.parameter.id.isEmpty with
        | true => exact iff_of_false (List.cons_ne_nil _ _) Bool.true_eq_false.mp
        | false => exact iff_of_true rfl rfl
      rw [if_pos rfl, List.append_eq_nil_iff, List.append_eq_nil_iff, lineFaults_some_eq_nil_iff,
        lineFaults_some_eq_nil_iff, body, named, named_iff]
      constructor
      · rintro ⟨⟨⟨inFront, defaults⟩, behind, values⟩, named⟩
        exact ⟨⟨inFront, behind⟩, fun _ => ⟨defaults, values, named⟩⟩
      · rintro ⟨⟨inFront, behind⟩, sound⟩
        obtain ⟨defaults, values, named⟩ := sound rfl
        exact ⟨⟨⟨inFront, defaults⟩, behind, values⟩, named⟩

end DefinitionsSection

/-- Nothing is wrong with a text if all its lines can be read and its sections are sound. -/
theorem faultsOf_eq_nil_iff (lines : List DefinitionsLine) :
    faultsOf lines = [] ↔ (∀ line ∈ lines, line.isRead = true) ∧
      ∀ piece ∈ (cutSections 1 lines).2, piece.isDefinition = true -> piece.IsSound := by
  unfold faultsOf
  rw [List.append_eq_nil_iff, lineFaults_eq_nil_iff, List.flatMap_eq_nil_iff]
  simp only [cause?_none_iff, DefinitionsSection.faults_eq_nil_iff]
  constructor
  · rintro ⟨front, pieces⟩
    refine ⟨fun line member => ?_, fun piece there => (pieces piece there).2⟩
    rcases (mem_cutSections 1).mp member with early | ⟨piece, there, rfl | inside⟩
    · exact front line early
    · rfl
    · exact (pieces piece there).1 line inside
  · rintro ⟨read, sound⟩
    refine ⟨fun line early => read line ((mem_cutSections 1).mpr (.inl early)), ?_⟩
    intro piece there
    refine ⟨fun line inside => read line ?_, sound piece there⟩
    exact (mem_cutSections 1).mpr (.inr ⟨piece, there, .inr inside⟩)

end Scenario
end Landform
