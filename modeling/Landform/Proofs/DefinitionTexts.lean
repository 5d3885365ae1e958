import Landform.Proofs.DefinitionSections
import Landform.Proofs.ScenarioChoices

namespace Landform
namespace Scenario

/-!
# Reading texts that offer parameters

The reader goes through a text line by line.  It keeps the parameter that is open, if one is, and
the part of it that the lines belong to.  What it will come to is told from the open parameter and
the lines to come (`OpenParameter.finished`, `OpenParameter.faults`), and that does not depend on
how far it has gone: with every line it takes in, the open parameter changes and the lines to come
are fewer, and the outcome stays the same.  Before the first line no parameter is open, so the
outcome is told from the text alone, section by section.  `ofDefinitions_eq` says that the first
fault is reported, and that a text without any faults offers what its sections offer.
-/

/-! ## The lines to come -/

/-- Of lines that begin in a part of a parameter, those of the definition part. -/
def definitionLines (part : DefinitionsPart) (lines : List DefinitionsLine) :
    List DefinitionsLine :=
  match part with
  | .definition => lines.takeWhile fun line => !line.isOption
  | .option => []

/-- Of lines that begin in a part of a parameter, those of the option part. -/
def optionLines (part : DefinitionsPart) (lines : List DefinitionsLine) :
    List DefinitionsLine :=
  match part with
  | .definition => lines.dropWhile fun line => !line.isOption
  | .option => lines

namespace OpenParameter

/-- The key whose values have to be numbers. -/
def numeric (current : OpenParameter) : String :=
  match current.part with
  | .definition => "Default"
  | .option => "Value"

/-- The open parameter after a line that leaves it open; what is wrong in it is skipped. -/
def reading (current : OpenParameter) (line : DefinitionsLine) : OpenParameter where
  parameter :=
    match current.part with
    | .definition =>
        { current.parameter with
          id := (line.valueOf? "ID").getD current.parameter.id
          name := (line.valueOf? "Name").getD current.parameter.name
          default := ((line.valueOf? "Default").bind number?).getD current.parameter.default }
    | .option =>
        let value? := (line.valueOf? "Value").bind number?
        { current.parameter with
          least := (current.parameter.least.toList ++ value?.toList).min?
          most := (current.parameter.most.toList ++ value?.toList).max? }
  headerLine := current.headerLine
  part := if line.isOption then .option else current.part

/-- What the open parameter will be after the lines to come. -/
def finished (current : OpenParameter) (lines : List DefinitionsLine) : Parameter :=
  let settings (key : String) : List String :=
    (definitionLines current.part lines).filterMap (DefinitionsLine.valueOf? key)
  let values : List Int :=
    ((optionLines current.part lines).filterMap (DefinitionsLine.valueOf? "Value")).filterMap
      number?
  { id := (settings "ID").getLast?.getD current.parameter.id
    name := (settings "Name").getLast?.getD current.parameter.name
    default := ((settings "Default").filterMap number?).getLast?.getD current.parameter.default
    least := (current.parameter.least.toList ++ values).min?
    most := (current.parameter.most.toList ++ values).max? }

/-- What will be found wrong in the lines to come, and at their end. -/
def faults (current : OpenParameter) (number : Nat) (lines : List DefinitionsLine) :
    List FoundFault :=
  lineFaults (some "Default") number (definitionLines current.part lines) ++
    lineFaults (some "Value") (number + (definitionLines current.part lines).length)
      (optionLines current.part lines) ++
    if (current.finished lines).id.isEmpty then
      [⟨number + lines.length, ⟨current.headerLine, .noId⟩⟩]
    else []

end OpenParameter

/-! ### One line more -/

theorem filterMap_toList {α β : Type} (f : α -> Option β) (given : Option α) :
    given.toList.filterMap f = (given.bind f).toList := by
  cases given with
  | none => rfl
  | some value => exact (filterMap_cons_toList f value []).trans (List.append_nil _)

theorem getLast?_toList_append {α : Type} (first? : Option α) (rest : List α) (default : α) :
    (first?.toList ++ rest).getLast?.getD default = rest.getLast?.getD (first?.getD default) := by
  cases first? with
  | none => rfl
  | some first =>
      rw [Option.toList_some, List.singleton_append, List.getLast?_cons, Option.getD_some,
        Option.getD_some]

/-- The smallest of several values is found one by one. -/
theorem min?_append (earlier later : List Int) :
    (earlier.min?.toList ++ later).min? = (earlier ++ later).min? := by
  cases earlier with
  | nil => rfl
  | cons first rest => exact congrArg some List.foldl_append.symm

theorem max?_append (earlier later : List Int) :
    (earlier.max?.toList ++ later).max? = (earlier ++ later).max? := by
  cases earlier with
  | nil => rfl
  | cons first rest => exact congrArg some List.foldl_append.symm

section

variable {current : OpenParameter} {line : DefinitionsLine} {rest : List DefinitionsLine}

/-- The heading of an option sets no key. -/
theorem valueOf?_of_isOption (isOption : line.isOption = true) (key : String) :
    line.valueOf? key = none := by
  cases line with
  | heading name => rfl
  | nothing | setting | unreadable => cases isOption

theorem cause?_of_isOption (isOption : line.isOption = true) (numeric? : Option String) :
    line.cause? numeric? = none := by
  cases line with
  | heading name => rfl
  | nothing | setting | unreadable => cases isOption

theorem definitionLines_cons (inFront : line.isOption = false) :
    definitionLines .definition (line :: rest) = line :: definitionLines .definition rest := by
  rw [definitionLines, List.takeWhile_cons_of_pos (by rw [inFront]; rfl)]
  rfl

theorem optionLines_cons (inFront : line.isOption = false) :
    optionLines .definition (line :: rest) = optionLines .definition rest := by
  rw [optionLines, List.dropWhile_cons_of_pos (by rw [inFront]; rfl)]
  rfl

theorem definitionLines_of_isOption (isOption : line.isOption = true) :
    definitionLines .definition (line :: rest) = [] := by
  rw [definitionLines, List.takeWhile_cons_of_neg (by rw [isOption]; exact Bool.false_ne_true)]

theorem optionLines_of_isOption (isOption : line.isOption = true) :
    optionLines .definition (line :: rest) = line :: rest := by
  rw [optionLines, List.dropWhile_cons_of_neg (by rw [isOption]; exact Bool.false_ne_true)]

namespace OpenParameter

/-- What the open parameter will be does not depend on how far it has been read. -/
theorem finished_cons :
    current.finished (line :: rest) = (current.reading line).finished rest := by
  obtain ⟨parameter, headerLine, part⟩ := current
  cases part with
  | definition =>
      cases isOption : line.isOption with
      | true =>
          simp only [finished, reading, isOption, if_true, definitionLines_of_isOption isOption,
            optionLines_of_isOption isOption, filterMap_cons_toList,
            valueOf?_of_isOption isOption]
          rfl
      | false =>
          simp only [finished, reading, isOption, Bool.false_eq_true, if_false,
            definitionLines_cons isOption, optionLines_cons isOption, filterMap_cons_toList,
            List.filterMap_append, filterMap_toList, getLast?_toList_append]
  | option =>
      simp only [finished, reading, ite_self, optionLines, definitionLines,
        filterMap_cons_toList, List.filterMap_append, filterMap_toList, ← List.append_assoc,
        min?_append, max?_append]

theorem finished_nil : current.finished [] = current.parameter := by
  obtain ⟨⟨id, name, default, least, most⟩, headerLine, part⟩ := current
  cases part <;> cases least <;> cases most <;> rfl

/-- What is wrong in a line is found there, and all else later. -/
theorem faults_cons (number : Nat) :
    current.faults number (line :: rest) =
      ((line.cause? (some current.numeric)).map fun cause => ⟨number, ⟨number, cause⟩⟩).toList ++
        (current.reading line).faults (number + 1) rest := by
  have length : number + (line :: rest).length = number + 1 + rest.length := by
    rw [List.length_cons, Nat.add_assoc, Nat.add_comm 1]
  rw [faults, faults, finished_cons, length]
  obtain ⟨parameter, headerLine, part⟩ := current
  cases part with
  | definition =>
      cases isOption : line.isOption with
      | true =>
          simp only [reading, isOption, if_true, definitionLines_of_isOption isOption,
            optionLines_of_isOption isOption, lineFaults_cons, cause?_of_isOption isOption]
          rfl
      | false =>
          simp only [reading, isOption, Bool.false_eq_true, if_false,
            definitionLines_cons isOption, optionLines_cons isOption, lineFaults_cons,
            List.append_assoc, List.length_cons, Nat.add_assoc, Nat.add_comm 1, numeric]
  | option =>
      simp only [reading, ite_self, definitionLines, optionLines, lineFaults_cons, numeric,
        List.append_assoc, List.length_nil, Nat.add_zero]
      rfl

end OpenParameter

end

/-! ## One line of the text -/

/-- The headings that begin no section. -/
theorem DefinitionsLine.opens?_heading {name : String}
    (closed : (DefinitionsLine.heading name).opens? = none) :
    name = "Option" ∨ name = "Options" := by
  rw [opens?] at closed
  split at closed
  · rename_i either
    rw [Bool.or_eq_true, beq_iff_eq, beq_iff_eq] at either
    exact either
  · cases closed

/-- A line that sets no key changes nothing but the part that the next lines belong to. -/
theorem OpenParameter.reading_unset {line : DefinitionsLine} (current : OpenParameter)
    (unset : ∀ key, line.valueOf? key = none) :
    current.reading line =
      { current with part := if line.isOption then .option else current.part } := by
  obtain ⟨⟨id, name, default, least, most⟩, headerLine, part⟩ := current
  cases part with
  | definition => simp only [reading, unset, Option.bind_none, Option.getD_none]
  | option =>
      simp only [reading, unset, Option.bind_none, Option.toList_none, List.append_nil]
      cases least <;> cases most <;> rfl

/-- In the definition part, three keys mean something, and one of them has to be a number. -/
theorem OpenParameter.reading_definition (parameter : Parameter) (headerLine : Nat)
    (key value : String) :
    reading ⟨parameter, headerLine, .definition⟩ (.setting key value) =
      ⟨if key == "ID" then { parameter with id := value }
        else if key == "Name" then { parameter with name := value }
        else if key == "Default" then
          { parameter with default := (number? value).getD parameter.default }
        else parameter, headerLine, .definition⟩ := by
  simp only [reading, DefinitionsLine.valueOf?, DefinitionsLine.isOption]
  by_cases isId : (key == "ID") = true
  · rw [beq_iff_eq.mp isId]; rfl
  · by_cases isName : (key == "Name") = true
    · rw [beq_iff_eq.mp isName]; rfl
    · by_cases isDefault : (key == "Default") = true
      · rw [beq_iff_eq.mp isDefault]; rfl
      · simp only [isId, isName, isDefault]
        rfl

/-- In the option part, one key means something, and it has to be a number. -/
theorem OpenParameter.reading_option (parameter : Parameter) (headerLine : Nat)
    (key value : String) :
    reading ⟨parameter, headerLine, .option⟩ (.setting key value) =
      ⟨match if key == "Value" then number? value else none with
        | some n => DefinitionsState.widen parameter n
        | none => parameter, headerLine, .option⟩ := by
  obtain ⟨id, name, default, least, most⟩ := parameter
  simp only [reading, DefinitionsLine.valueOf?, DefinitionsLine.isOption]
  by_cases isValue : (key == "Value") = true
  · simp only [isValue, if_true, Option.bind_some]
    cases number? value <;> cases least <;> cases most <;> rfl
  · simp only [isValue]
    cases least <;> cases most <;> rfl

namespace DefinitionsState

/-- The state after a line that was read. -/
def takeIn (state : DefinitionsState) (number : Nat) :
    DefinitionsLine -> Except DefinitionsFault DefinitionsState
  | .nothing => .ok state
  | .heading name => state.enter number name
  | .setting key value => state.apply number key value
  | .unreadable text => .error ⟨number, .notASetting text⟩

theorem step_eq (state : DefinitionsState) (number : Nat) (raw : String) :
    state.step number raw = state.takeIn number (DefinitionsLine.read raw) := by
  unfold step takeIn
  cases DefinitionsLine.read raw <;> rfl

section

variable {scenario : Scenario} {line : DefinitionsLine}

/-- Without an open parameter, a line that begins no section is only looked at. -/
theorem takeIn_closed (closed : line.opens? = none) (number : Nat) :
    takeIn ⟨scenario, none⟩ number line =
      match line.cause? none with
      | some cause => .error ⟨number, cause⟩
      | none => .ok ⟨scenario, none⟩ := by
  cases line with
  | nothing => rfl
  | unreadable text => rfl
  | setting key value => rfl
  | heading name =>
      rcases DefinitionsLine.opens?_heading closed with rfl | rfl <;> rfl

theorem apply_definition (parameter : Parameter) (headerLine number : Nat) (key value : String) :
    apply ⟨scenario, some ⟨parameter, headerLine, .definition⟩⟩ number key value =
      match (DefinitionsLine.setting key value).cause? (some "Default") with
      | some cause => .error ⟨number, cause⟩
      | none => .ok ⟨scenario,
          some (OpenParameter.reading ⟨parameter, headerLine, .definition⟩
            (.setting key value))⟩ := by
  rw [OpenParameter.reading_definition, DefinitionsLine.cause?, Option.any_some, number?]
  unfold apply
  by_cases isId : (key == "ID") = true
  · rw [beq_iff_eq.mp isId]; rfl
  · by_cases isName : (key == "Name") = true
    · rw [beq_iff_eq.mp isName]; rfl
    · by_cases isDefault : (key == "Default") = true
      · simp only [isId, isName, isDefault, if_true, if_false, Bool.false_eq_true, Bool.true_and]
        cases Number.readDecimal? Number.int32 value <;> rfl
      · simp only [isId, isName, isDefault, if_false, Bool.false_eq_true, Bool.false_and]

theorem apply_option (parameter : Parameter) (headerLine number : Nat) (key value : String) :
    apply ⟨scenario, some ⟨parameter, headerLine, .option⟩⟩ number key value =
      match (DefinitionsLine.setting key value).cause? (some "Value") with
      | some cause => .error ⟨number, cause⟩
      | none => .ok ⟨scenario,
          some (OpenParameter.reading ⟨parameter, headerLine, .option⟩ (.setting key value))⟩ := by
  rw [OpenParameter.reading_option, DefinitionsLine.cause?, Option.any_some, number?]
  unfold apply
  by_cases isValue : (key == "Value") = true
  · simp only [isValue, if_true, Bool.true_and]
    cases Number.readDecimal? Number.int32 value <;> rfl
  · simp only [isValue, if_false, Bool.false_eq_true, Bool.false_and]

/-- A line that begins no section is read for the open parameter, if nothing is wrong with it. -/
theorem takeIn_open (closed : line.opens? = none) (current : OpenParameter) (number : Nat) :
    takeIn ⟨scenario, some current⟩ number line =
      match line.cause? (some current.numeric) with
      | some cause => .error ⟨number, cause⟩
      | none => .ok ⟨scenario, some (current.reading line)⟩ := by
  cases line with
  | nothing => rw [current.reading_unset fun _ => rfl]; rfl
  | unreadable text => rfl
  | setting key value =>
      obtain ⟨parameter, headerLine, part⟩ := current
      cases part with
      | definition => exact apply_definition parameter headerLine number key value
      | option => exact apply_option parameter headerLine number key value
  | heading name =>
      rw [current.reading_unset fun _ => rfl]
      rcases DefinitionsLine.opens?_heading closed with rfl | rfl <;> rfl

/-- Where a section begins, the open parameter is completed, and perhaps the next one opened. -/
theorem enter_opening {name : String} {opened : String}
    (opens : (DefinitionsLine.heading name).opens? = some opened) (state : DefinitionsState)
    (number : Nat) :
    opened = name ∧ state.enter number name =
      state.close.map fun closed =>
        { closed with
          current := if name == "ParameterDef" then some ⟨{ id := "" }, number, .definition⟩
            else none } := by
  obtain ⟨scenario, current⟩ := state
  rw [DefinitionsLine.opens?] at opens
  split at opens
  · cases opens
  · rename_i other
    cases opens
    rw [Bool.or_eq_true, not_or] at other
    refine ⟨rfl, ?_⟩
    unfold enter
    by_cases isDefinition : (name == "ParameterDef") = true
    · simp only [isDefinition, if_true]
    · cases current with
      | none => simp only [isDefinition, if_false, Bool.false_eq_true, close]; rfl
      | some current =>
          simp only [isDefinition, other, if_false, Bool.false_eq_true, close]
          split <;> rfl

end

end DefinitionsState

/-! ## The whole text -/

/-- What is found wrong in the lines to come, with an open parameter or without one. -/
def faultsFrom (current : Option OpenParameter) (number : Nat) (lines : List DefinitionsLine) :
    List FoundFault :=
  match current with
  | none => lineFaults none number lines
  | some current => current.faults number lines

/-- What the open parameter, if there is one, offers after the lines to come. -/
def offeredFrom (current : Option OpenParameter) (lines : List DefinitionsLine) :
    List Parameter :=
  (current.map fun current => current.finished lines).toList

/-- What is wrong with completing the open parameter at a line. -/
def unnamed? (current : Option OpenParameter) (number : Nat) : Option FoundFault :=
  current.bind fun current =>
    if current.parameter.id.isEmpty then some ⟨number, ⟨current.headerLine, .noId⟩⟩ else none

/-- The parameter that is open after the heading of a section. -/
def DefinitionsSection.opened (piece : DefinitionsSection) : Option OpenParameter :=
  if piece.isDefinition then some ⟨{ id := "" }, piece.number, .definition⟩ else none

/-- What comes of reading: the first fault, or else a scenario. -/
def verdict (faults : List FoundFault) (scenario : Scenario) :
    Except DefinitionsFault Scenario :=
  match faults with
  | first :: _ => .error first.fault
  | [] => .ok scenario

section

variable {current : Option OpenParameter} {line : DefinitionsLine}
variable {rest : List DefinitionsLine}

theorem DefinitionsSection.faults_eq (piece : DefinitionsSection) :
    piece.faults = faultsFrom piece.opened (piece.number + 1) piece.body := by
  unfold faults opened
  split <;> rfl

theorem DefinitionsSection.offeredFrom_opened (piece : DefinitionsSection) :
    offeredFrom piece.opened piece.body =
      ([piece].filter DefinitionsSection.isDefinition).map DefinitionsSection.parameter := by
  unfold opened
  cases isDefinition : piece.isDefinition with
  | true => rw [if_pos rfl, List.filter_cons_of_pos isDefinition]; rfl
  | false =>
      rw [if_neg Bool.false_ne_true,
        List.filter_cons_of_neg (isDefinition ▸ Bool.false_ne_true)]
      rfl

theorem faultsFrom_nil (current : Option OpenParameter) (number : Nat) :
    faultsFrom current number [] = (unnamed? current number).toList := by
  cases current with
  | none => rfl
  | some current =>
      rw [faultsFrom, OpenParameter.faults, OpenParameter.finished_nil, unnamed?, Option.bind_some]
      cases current.part <;> cases current.parameter.id.isEmpty <;> rfl

theorem faultsFrom_cons (number : Nat) :
    faultsFrom current number (line :: rest) =
      ((line.cause? (current.map OpenParameter.numeric)).map fun cause =>
        ⟨number, ⟨number, cause⟩⟩).toList ++
        faultsFrom (current.map fun current => current.reading line) (number + 1) rest := by
  cases current with
  | none => exact lineFaults_cons none number line rest
  | some current => exact OpenParameter.faults_cons number

theorem offeredFrom_cons :
    offeredFrom current (line :: rest) =
      offeredFrom (current.map fun current => current.reading line) rest := by
  cases current with
  | none => rfl
  | some current => exact congrArg (fun parameter => [parameter]) OpenParameter.finished_cons

namespace DefinitionsState

variable {scenario : Scenario}

theorem takeIn_of_closed (closed : line.opens? = none) (number : Nat) :
    takeIn ⟨scenario, current⟩ number line =
      match line.cause? (current.map OpenParameter.numeric) with
      | some cause => .error ⟨number, cause⟩
      | none => .ok ⟨scenario, current.map fun current => current.reading line⟩ := by
  cases current with
  | none => exact takeIn_closed closed number
  | some current => exact takeIn_open closed current number

theorem close_eq (current : Option OpenParameter) (number : Nat) :
    close ⟨scenario, current⟩ =
      match unnamed? current number with
      | some first => .error first.fault
      | none => .ok ⟨(offeredFrom current []).foldl define scenario, none⟩ := by
  cases current with
  | none => rfl
  | some current =>
      simp only [close, unnamed?, Option.bind_some]
      cases current.parameter.id.isEmpty with
      | true => rfl
      | false =>
          rw [offeredFrom, Option.map_some, OpenParameter.finished_nil]
          rfl

/-- What reading on comes to is told from the lines to come and the open parameter. -/
theorem run_close (raws : List String) (scenario : Scenario) (current : Option OpenParameter)
    (number : Nat) :
    let cut := cutSections number (raws.map DefinitionsLine.read)
    ((run ⟨scenario, current⟩ number raws).bind fun left =>
        left.close.map DefinitionsState.scenario) =
      verdict (faultsFrom current number cut.1 ++ cut.2.flatMap DefinitionsSection.faults)
        ((offeredFrom current cut.1 ++
          (cut.2.filter DefinitionsSection.isDefinition).map DefinitionsSection.parameter).foldl
            define scenario) := by
  induction raws generalizing scenario current number with
  | nil =>
      intro cut
      have ended : cut = ([], []) := rfl
      rw [ended, run, Except.bind, close_eq current number, List.flatMap_nil, List.filter_nil,
        List.map_nil, List.append_nil, List.append_nil, faultsFrom_nil]
      cases unnamed? current number <;> rfl
  | cons raw rest inductionHypothesis =>
      intro cut
      rw [run, step_eq]
      cases opens : (DefinitionsLine.read raw).opens? with
      | none =>
          have here : cut = _ := cutSections_cons_of_closed opens number
          rw [here, takeIn_of_closed opens, faultsFrom_cons, offeredFrom_cons]
          cases (DefinitionsLine.read raw).cause? (current.map OpenParameter.numeric) with
          | some cause => rfl
          | none => exact inductionHypothesis scenario _ (number + 1)
      | some opened =>
          cases heading : DefinitionsLine.read raw with
          | nothing | setting | unreadable =>
              rw [heading] at opens
              cases opens
          | heading name =>
              rw [heading] at opens
              obtain ⟨rfl, entered⟩ := enter_opening opens ⟨scenario, current⟩ number
              have here : cut = _ :=
                (congrArg (fun line => cutSections number (line :: rest.map DefinitionsLine.read))
                  heading).trans (cutSections_cons_of_opens opens number)
              rw [here, takeIn, entered, close_eq current number, faultsFrom_nil,
                List.flatMap_cons, DefinitionsSection.faults_eq, ← List.singleton_append,
                List.filter_append, List.map_append, ← DefinitionsSection.offeredFrom_opened]
              cases unnamed? current number with
              | some first => rfl
              | none =>
                  refine (inductionHypothesis _ _ (number + 1)).trans ?_
                  simp only [List.foldl_append]
                  rfl

end DefinitionsState

/-- **Reading comes to the first fault**, and without any to what the sections offer. -/
theorem ofDefinitions_eq (text : String) :
    let lines := (Text.lines text).map DefinitionsLine.read
    ofDefinitions text =
      verdict (faultsOf lines) { parameters := offered (definitionsOf lines) } := by
  intro lines
  rw [← foldl_define]
  refine Eq.trans ?_ (DefinitionsState.run_close (Text.lines text) {} none 1)
  unfold ofDefinitions DefinitionsState.start
  cases DefinitionsState.run ⟨{}, none⟩ 1 (Text.lines text) <;> rfl

end

/-! ## Where faults are found -/

/-- Faults that are found one behind the other, the first not in front of a line. -/
structure InOrder (number : Nat) (faults : List FoundFault) : Prop where
  ascending : faults.Pairwise fun earlier later => earlier.found < later.found
  behind : ∀ fault ∈ faults, number ≤ fault.found

/-- A fault that is found at a line comes in front of those that are found behind it. -/
theorem InOrder.cons {number : Nat} {here? : Option FoundFault} {later : List FoundFault}
    (here : ∀ fault, here? = some fault -> fault.found = number)
    (ordered : InOrder (number + 1) later) : InOrder number (here?.toList ++ later) := by
  cases here? with
  | none => exact ⟨ordered.ascending, fun fault member =>
      Nat.le_of_succ_le (ordered.behind fault member)⟩
  | some first =>
      have found : first.found = number := here first rfl
      refine ⟨List.pairwise_cons.mpr ⟨fun fault member => ?_, ordered.ascending⟩,
        List.forall_mem_cons.mpr ⟨Nat.le_of_eq found.symm, fun fault member =>
          Nat.le_of_succ_le (ordered.behind fault member)⟩⟩
      rw [found]
      exact ordered.behind fault member

theorem unnamed?_found {current : Option OpenParameter} {number : Nat} (fault : FoundFault)
    (unnamed : unnamed? current number = some fault) : fault.found = number := by
  obtain ⟨parameter, _, named⟩ := Option.bind_eq_some_iff.mp unnamed
  split at named <;> cases named
  rfl

/-- Whatever is wrong with the lines to come, it is found in the order of the lines. -/
theorem faults_inOrder (lines : List DefinitionsLine) (current : Option OpenParameter)
    (number : Nat) :
    let cut := cutSections number lines
    InOrder number
      (faultsFrom current number cut.1 ++ cut.2.flatMap DefinitionsSection.faults) := by
  induction lines generalizing current number with
  | nil =>
      intro cut
      have ended : cut = ([], []) := rfl
      rw [ended, faultsFrom_nil]
      exact .cons unnamed?_found ⟨.nil, fun _ impossible => nomatch impossible⟩
  | cons line rest inductionHypothesis =>
      intro cut
      cases opens : line.opens? with
      | none =>
          have here : cut = _ := cutSections_cons_of_closed opens number
          rw [here, faultsFrom_cons, List.append_assoc]
          refine .cons (fun fault given => ?_) (inductionHypothesis _ (number + 1))
          obtain ⟨cause, _, rfl⟩ := Option.map_eq_some_iff.mp given
          rfl
      | some name =>
          have here : cut = _ := cutSections_cons_of_opens opens number
          rw [here, faultsFrom_nil, List.flatMap_cons, DefinitionsSection.faults_eq]
          exact .cons unnamed?_found (inductionHypothesis _ (number + 1))

/-! ## What comes of a text -/

theorem verdict_eq_ok_iff {faults : List FoundFault} {scenario other : Scenario} :
    verdict faults scenario = .ok other ↔ faults = [] ∧ other = scenario := by
  cases faults with
  | nil =>
      rw [verdict, Except.ok.injEq, and_iff_right rfl]
      exact eq_comm
  | cons first rest =>
      exact iff_of_false (fun impossible => nomatch impossible) fun none => nomatch none.1

/-- The fault that is reported is the one that is found first. -/
theorem verdict_eq_error_iff {faults : List FoundFault} {scenario : Scenario} {number : Nat}
    (ordered : InOrder number faults) (fault : DefinitionsFault) :
    verdict faults scenario = .error fault ↔
      Exists fun first => first ∈ faults ∧ first.fault = fault ∧
        ∀ other ∈ faults, first.found ≤ other.found := by
  cases faults with
  | nil =>
      refine iff_of_false (fun impossible => nomatch impossible) ?_
      rintro ⟨_, impossible, _⟩
      cases impossible
  | cons first rest =>
      have later := (List.pairwise_cons.mp ordered.ascending).1
      rw [verdict, Except.error.injEq]
      constructor
      · intro same
        exact ⟨first, List.mem_cons_self, same, List.forall_mem_cons.mpr
          ⟨Nat.le_refl _, fun other member => Nat.le_of_lt (later other member)⟩⟩
      · rintro ⟨least, member, same, before⟩
        rcases List.mem_cons.mp member with rfl | behind
        · exact same
        · exact absurd (before first List.mem_cons_self) (Nat.not_le.mpr (later least behind))

/-- **What a text offers.**  The sections of a text are cut at the headings that do not belong to
options.  A text can be read just if each of its lines is blank, a comment, a heading or a
setting, and in each section that offers a parameter the last `ID` of the definition part is
there and is not empty, and each `Default` of the definition part and each `Value` of the option
part is a whole number of 32 bits.

Then the parameters are offered one after another, and no values are chosen.  The range of a
parameter is that of all values of its options, in whatever order they stand, and it has none if
there are no values.

Otherwise the fault is reported that is found first.  A line that is wrong is found where it
stands.  A missing id is reported at the heading of its section, but found only at the line that
ends it, or at the end of the text. -/
theorem ofDefinitions_reads (text : String) :
    let lines := (Text.lines text).map DefinitionsLine.read
    let pieces := (cutSections 1 lines).2
    (∀ piece ∈ pieces, piece.StandsIn 1 lines) ∧
      (∀ scenario, ofDefinitions text = .ok scenario ↔
        ((∀ raw ∈ Text.lines text, IsReadable (Text.trimChars raw.toList)) ∧
          ∀ piece ∈ pieces, piece.isDefinition = true -> piece.IsSound) ∧
        scenario = { parameters := offered (definitionsOf lines), values := SortedMap.empty }) ∧
      (∀ piece : DefinitionsSection, ∀ n,
        let values := piece.optionValues.filterMap number?
        (piece.parameter.least = some n ↔ n ∈ values ∧ ∀ other ∈ values, n ≤ other) ∧
          (piece.parameter.most = some n ↔ n ∈ values ∧ ∀ other ∈ values, other ≤ n)) ∧
      ∀ fault, ofDefinitions text = .error fault ↔
        Exists fun first => first ∈ faultsOf lines ∧ first.fault = fault ∧
          ∀ other ∈ faultsOf lines, first.found ≤ other.found := by
  intro lines pieces
  have read : (∀ line ∈ lines, line.isRead = true) ↔
      ∀ raw ∈ Text.lines text, IsReadable (Text.trimChars raw.toList) := by
    rw [List.forall_mem_map]
    simp only [read_isRead_iff]
  refine ⟨cutSections_standIn 1 lines, fun scenario => ?_, fun piece n => ?_, fun fault => ?_⟩
  · rw [ofDefinitions_eq, verdict_eq_ok_iff, faultsOf_eq_nil_iff, read]
  · exact ⟨List.min?_eq_some_iff, List.max?_eq_some_iff⟩
  · rw [ofDefinitions_eq]
    exact verdict_eq_error_iff (faults_inOrder lines none 1) fault

/-- A text with two options, whose larger value comes first: every line can be read, its one
section is sound, and it offers a parameter with the range of both values. -/
theorem ofDefinitions_reads_mapSize :
    let text := "; sizes\n[ParameterDef]\n ID = MapSize\n[Option]\nValue=3\n[Option]\nValue = 1"
    Exists fun scenario =>
      ofDefinitions text = .ok scenario ∧
        scenario.parameters = [⟨"MapSize", "", 0, some 1, some 3⟩] ∧
        scenario.values = SortedMap.empty ∧
        (∀ raw ∈ Text.lines text, IsReadable (Text.trimChars raw.toList)) ∧
        ∀ piece ∈ (cutSections 1 ((Text.lines text).map DefinitionsLine.read)).2,
          piece.isDefinition = true -> piece.IsSound := by
  intro text
  have offers : (ofDefinitions text).toOption.map Scenario.parameters =
      some [⟨"MapSize", "", 0, some 1, some 3⟩] := by decide +kernel
  cases read : ofDefinitions text with
  | error fault =>
      rw [read] at offers
      cases offers
  | ok scenario =>
      rw [read] at offers
      obtain ⟨⟨readable, sound⟩, same⟩ := ((ofDefinitions_reads text).2.1 scenario).mp read
      exact ⟨scenario, rfl, Option.some.inj offers, congrArg Scenario.values same, readable, sound⟩

/-- In the first text the id is missing from a section that another one ends; in the second one a
value is wrong before the section ends. -/
example :
    (ofDefinitions "[ParameterDef]\nName=Size\n[Head]\n= wrong\nwrong").toOption.isNone = true ∧
      (faultsOf ((Text.lines "[ParameterDef]\nName=Size\n[Head]\n= wrong\nwrong").map
        DefinitionsLine.read)).map (fun first => (first.found, first.fault.line)) =
          [(3, 1), (5, 5)] ∧
      (faultsOf ((Text.lines "[ParameterDef]\nDefault=big").map DefinitionsLine.read)).map
        (fun first => (first.found, first.fault.line)) = [(2, 2), (3, 1)] := by
  decide +kernel

end Scenario
end Landform
