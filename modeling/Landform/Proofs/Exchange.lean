import Landform.Script.Dialogue

namespace Landform
namespace Script

/-!
# What a dialogue comes to

A workbench only ever adds to its lines and to its journal, and no answer depends on what is
there already.  So a dialogue on given sheets comes to something of its own: a result, the
sheets it leaves, the lines it writes and the notes it causes, each in the order of its
requests.  `conduct_eq` says that conducting the dialogue at any workbench adds exactly that.

Nothing here looks into the language of a script.  A dialogue without sheets causes no
notes, because nothing but a sheet notes anything, and the two rasters of a sheet keep one
size whatever is asked of it.
-/

variable {α β : Type}

/-- What a dialogue comes to on some sheets. -/
structure Exchange (α : Type) where
  result : α
  sheets : List MountedSheet
  lines : List String := []
  notes : List String := []

/-- What a dialogue comes to on some sheets, request by request. -/
def Dialogue.exchange : Dialogue α -> List MountedSheet -> Exchange α
  | .done result, sheets => { result := result, sheets := sheets }
  | .ask (.write line) next, sheets =>
      let rest := (next ()).exchange sheets
      { rest with lines := line :: rest.lines }
  | .ask (.onSheet number request) next, sheets =>
      let (answer, changed, noted) := Workbench.serveSheet request number sheets
      let rest := (next answer).exchange changed
      { rest with notes := noted ++ rest.notes }

namespace Exchange

/-- A workbench after an exchange on its sheets. -/
def bench (exchange : Exchange α) (lines : Array String) (journal : Journal) : Workbench where
  sheets := exchange.sheets
  lines := lines ++ exchange.lines.toArray
  journal := journal.append exchange.notes.toArray

end Exchange

/-- Conducting a dialogue adds what it comes to behind what is on the workbench. -/
theorem Dialogue.conduct_eq (dialogue : Dialogue α) (sheets : List MountedSheet)
    (lines : Array String) (journal : Journal) :
    dialogue.conduct ⟨sheets, lines, journal⟩ =
      ((dialogue.exchange sheets).result, (dialogue.exchange sheets).bench lines journal) := by
  induction dialogue generalizing sheets lines journal with
  | done result =>
      simp only [conduct, exchange, Exchange.bench, Journal.append_empty, Array.append_empty]
  | ask request next inductionHypothesis =>
      cases request with
      | write line =>
          have rest := inductionHypothesis () sheets (lines.push line) journal
          have moved : lines.push line ++ ((next ()).exchange sheets).lines.toArray =
              lines ++ (line :: ((next ()).exchange sheets).lines).toArray := by
            rw [List.toArray_cons, ← Array.append_assoc, Array.push_eq_append]
          simp only [Exchange.bench, moved] at rest
          exact rest
      | onSheet number request =>
          rcases served : Workbench.serveSheet request number sheets with ⟨answer, changed, noted⟩
          have rest := inductionHypothesis answer changed lines (journal.append noted.toArray)
          simp only [Exchange.bench, Journal.append_append, List.append_toArray] at rest
          simp only [conduct, Workbench.serve, exchange, served]
          exact rest

/-- An exchange behind what an earlier one has written and noted. -/
def Exchange.behind (earlier : Exchange β) (exchange : Exchange α) : Exchange α :=
  { exchange with
    lines := earlier.lines ++ exchange.lines
    notes := earlier.notes ++ exchange.notes }

/-- One dialogue after another comes to what the second does on the sheets of the first. -/
theorem Dialogue.exchange_bind (first : Dialogue α) (next : α -> Dialogue β)
    (sheets : List MountedSheet) :
    (first.bind next).exchange sheets =
      Exchange.behind (first.exchange sheets)
        ((next (first.exchange sheets).result).exchange (first.exchange sheets).sheets) := by
  induction first generalizing sheets with
  | done result => rfl
  | ask request answer inductionHypothesis =>
      cases request with
      | write line =>
          have rest := inductionHypothesis () sheets
          exact congrArg
            (fun later : Exchange β => { later with lines := line :: later.lines }) rest
      | onSheet number request =>
          rcases served : Workbench.serveSheet request number sheets with ⟨given, changed, noted⟩
          have rest := inductionHypothesis given changed
          have added := congrArg
            (fun later : Exchange β => { later with notes := noted ++ later.notes }) rest
          simp only [Exchange.behind, ← List.append_assoc] at added
          simp only [bind, exchange, served, Exchange.behind]
          exact added

/-- What is made of the end of a dialogue is made of the result of its exchange. -/
theorem Dialogue.exchange_bind_done (dialogue : Dialogue α) (f : α -> β)
    (sheets : List MountedSheet) :
    (dialogue.bind fun result => .done (f result)).exchange sheets =
      let exchange := dialogue.exchange sheets
      { result := f exchange.result
        sheets := exchange.sheets
        lines := exchange.lines
        notes := exchange.notes } := by
  simp only [exchange_bind, Exchange.behind, exchange, List.append_nil]

/-! ## The sheets of an exchange -/

/-- What every request keeps of the sheets, an exchange keeps. -/
theorem exchange_sheets_keep (kept : List MountedSheet -> Prop)
    (step : forall number request sheets, kept sheets ->
      kept (Workbench.serveSheet request number sheets).2.1)
    (dialogue : Dialogue α) (sheets : List MountedSheet) (before : kept sheets) :
    kept (dialogue.exchange sheets).sheets := by
  induction dialogue generalizing sheets with
  | done result => exact before
  | ask request next inductionHypothesis =>
      cases request with
      | write line => exact inductionHypothesis () sheets before
      | onSheet number request =>
          exact inductionHypothesis _ _ (step number request sheets before)

@[simp] theorem serveSheet_nil (request : Sheet.Request) (number : Nat) :
    Workbench.serveSheet request number [] = (request.absent, [], []) := by
  cases number <;> rfl

theorem serveSheet_length (request : Sheet.Request) (number : Nat)
    (sheets : List MountedSheet) :
    (Workbench.serveSheet request number sheets).2.1.length = sheets.length := by
  induction sheets generalizing number with
  | nil => simp only [serveSheet_nil]
  | cons first rest inductionHypothesis =>
      cases number with
      | zero => rfl
      | succ number => exact congrArg Nat.succ (inductionHypothesis number)

/-- No sheet is added and none is taken away. -/
theorem exchange_length (dialogue : Dialogue α) (sheets : List MountedSheet) :
    (dialogue.exchange sheets).sheets.length = sheets.length := by
  refine exchange_sheets_keep (fun now => now.length = sheets.length) ?_ dialogue sheets rfl
  intro number request now same
  rw [serveSheet_length, same]

theorem exchange_sheets_nil (dialogue : Dialogue α) : (dialogue.exchange []).sheets = [] :=
  List.eq_nil_of_length_eq_zero (exchange_length dialogue [])

/-- Whatever is asked of a sheet, its two rasters keep one size. -/
theorem serve_fits (resolver : Resolver) (sheet : Sheet) (fits : sheet.Fits)
    (request : Sheet.Request) : (sheet.serve resolver request).sheet.Fits := by
  cases request with
  | width => exact fits
  | height => exact fits
  | pixel x y => exact fits
  | backPixel x y => exact fits
  | resize width height =>
      simp only [Sheet.serve]
      cases asked : sheet.resize width height with
      | error refusal => exact fits
      | ok resized => exact Sheet.resize_fits asked
  | draw spec => exact Sheet.draw_fits resolver spec fits
  | drawShape spec properties =>
      simp only [Sheet.serve]
      cases asked : Sheet.Shape.ofProperties sheet (fun name => properties.lookup name) with
      | error refusal => exact fits
      | ok shape => exact Sheet.drawShape_fits resolver spec shape fits
  | setPixel x y spec => exact Sheet.setPixel_fits resolver x y spec fits

/-- What a request keeps of a sheet, it keeps of every sheet there is. -/
theorem serveSheet_keeps (kept : MountedSheet -> Prop) {request : Sheet.Request}
    (step : ∀ resolver sheet, kept ⟨resolver, sheet⟩ ->
      kept ⟨resolver, (sheet.serve resolver request).sheet⟩)
    (number : Nat) (sheets : List MountedSheet) (before : ∀ mounted ∈ sheets, kept mounted) :
    ∀ mounted ∈ (Workbench.serveSheet request number sheets).2.1, kept mounted := by
  induction sheets generalizing number with
  | nil => simpa only [serveSheet_nil] using before
  | cons first rest inductionHypothesis =>
      have firstKept := before first List.mem_cons_self
      have restKept := fun mounted member => before mounted (List.mem_cons_of_mem first member)
      intro mounted member
      cases number with
      | zero =>
          rcases List.mem_cons.mp member with same | later
          · subst same
            exact step first.resolver first.sheet firstKept
          · exact restKept mounted later
      | succ number =>
          rcases List.mem_cons.mp member with same | later
          · subst same
            exact firstKept
          · exact inductionHypothesis number restKept mounted later

/-- What every request keeps of a sheet, an exchange keeps of every sheet there is. -/
theorem exchange_keeps (kept : MountedSheet -> Prop)
    (step : ∀ request resolver sheet, kept ⟨resolver, sheet⟩ ->
      kept ⟨resolver, (sheet.serve resolver request).sheet⟩)
    (dialogue : Dialogue α) (sheets : List MountedSheet)
    (before : ∀ mounted ∈ sheets, kept mounted) :
    ∀ mounted ∈ (dialogue.exchange sheets).sheets, kept mounted :=
  exchange_sheets_keep (fun now => ∀ mounted ∈ now, kept mounted)
    (fun number request now => serveSheet_keeps kept (step request) number now) dialogue sheets
    before

/-! ## The notes of an exchange -/

theorem serve_notes (resolver : Resolver) (sheet : Sheet) (request : Sheet.Request) :
    ∀ note ∈ (sheet.serve resolver request).notes,
      Exists fun spec => note = Sheet.unknownMaterial spec := by
  intro note member
  cases request with
  | width => cases member
  | height => cases member
  | pixel x y => cases member
  | backPixel x y => cases member
  | resize width height =>
      simp only [Sheet.serve] at member
      cases asked : sheet.resize width height with
      | error refusal =>
          rw [asked] at member
          cases member
      | ok resized =>
          rw [asked] at member
          cases member
  | draw spec => exact ⟨spec, Sheet.draw_notes resolver spec sheet note member⟩
  | drawShape spec properties =>
      simp only [Sheet.serve] at member
      cases asked : Sheet.Shape.ofProperties sheet (fun name => properties.lookup name) with
      | error refusal =>
          rw [asked] at member
          cases member
      | ok shape =>
          rw [asked] at member
          exact ⟨spec, Sheet.drawShape_notes resolver spec shape sheet note member⟩
  | setPixel x y spec => exact ⟨spec, Sheet.setPixel_notes resolver x y spec sheet note member⟩

theorem serveSheet_notes (request : Sheet.Request) (number : Nat) (sheets : List MountedSheet) :
    ∀ note ∈ (Workbench.serveSheet request number sheets).2.2,
      Exists fun spec => note = Sheet.unknownMaterial spec := by
  induction sheets generalizing number with
  | nil =>
      intro note impossible
      simp only [serveSheet_nil, List.not_mem_nil] at impossible
  | cons first rest inductionHypothesis =>
      cases number with
      | zero => exact serve_notes first.resolver first.sheet request
      | succ number => exact inductionHypothesis number

/-- All that is ever noted is that a material is unknown. -/
theorem exchange_notes (dialogue : Dialogue α) (sheets : List MountedSheet) :
    ∀ note ∈ (dialogue.exchange sheets).notes,
      Exists fun spec => note = Sheet.unknownMaterial spec := by
  induction dialogue generalizing sheets with
  | done result =>
      intro note impossible
      cases impossible
  | ask request next inductionHypothesis =>
      cases request with
      | write line => exact inductionHypothesis () sheets
      | onSheet number request =>
          intro note member
          rcases List.mem_append.mp member with now | later
          · exact serveSheet_notes request number sheets note now
          · exact inductionHypothesis _ _ note later

/-- A dialogue without sheets causes no notes. -/
theorem exchange_notes_nil (dialogue : Dialogue α) : (dialogue.exchange []).notes = [] := by
  induction dialogue with
  | done result => rfl
  | ask request next inductionHypothesis =>
      cases request with
      | write line => exact inductionHypothesis ()
      | onSheet number request =>
          simp only [Dialogue.exchange, serveSheet_nil, List.nil_append]
          exact inductionHypothesis request.absent

/-! ## The ends of a dialogue -/

/-- However its requests are answered, a dialogue ends in results with a property. -/
def Dialogue.EndsIn (kept : α -> Prop) : Dialogue α -> Prop
  | .done result => kept result
  | .ask _ next => ∀ answer, (next answer).EndsIn kept

theorem Dialogue.EndsIn.bind {kept : α -> Prop} {left : β -> Prop} {dialogue : Dialogue α}
    {next : α -> Dialogue β} (first : dialogue.EndsIn kept)
    (later : ∀ result, kept result -> (next result).EndsIn left) :
    (dialogue.bind next).EndsIn left := by
  induction dialogue with
  | done result => exact later result first
  | ask request answer inductionHypothesis =>
      intro given
      exact inductionHypothesis given (first given)

theorem Dialogue.EndsIn.mono {kept left : α -> Prop} {dialogue : Dialogue α}
    (first : dialogue.EndsIn kept) (weaker : ∀ result, kept result -> left result) :
    dialogue.EndsIn left := by
  induction dialogue with
  | done result => exact weaker result first
  | ask request answer inductionHypothesis =>
      intro given
      exact inductionHypothesis given (first given)

/-- What holds of every end of a dialogue holds of the one it comes to on some sheets. -/
theorem Dialogue.EndsIn.exchange {kept : α -> Prop} {dialogue : Dialogue α}
    (ends : dialogue.EndsIn kept) (sheets : List MountedSheet) :
    kept (dialogue.exchange sheets).result := by
  induction dialogue generalizing sheets with
  | done result => exact ends
  | ask request next inductionHypothesis =>
      cases request with
      | write line => exact inductionHypothesis () (ends ()) sheets
      | onSheet number request => exact inductionHypothesis _ (ends _) _

end Script
end Landform
