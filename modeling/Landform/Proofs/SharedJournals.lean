import Landform.Journal

namespace Landform

/-!
# Journals and the handles on them

A journal is written through whichever of its handles is at hand, and all of them are to show
the same.  What a journal holds is therefore decided by the steps that came through any of its
handles: it holds what was reported through them since one of them last cleared it.  A handle
that is given out later shows what the journal already holds, and nothing else that happens on
the shelf is seen through it.

The handles of a shelf are only ever added to, and each stays on the journal it was given out
on.  This is what lets the steps of a long run be attributed to journals by the shelf at its
end.
-/

/-- Something done to a shelf. -/
inductive ShelfStep where
  | push (handle : Nat) (message : String)
  | clear (handle : Nat)
  | share (handle : Nat)
  | add

namespace ShelfStep

/-- The handle a step goes through. -/
def handle? : ShelfStep -> Option Nat
  | push handle _ => some handle
  | clear handle => some handle
  | share handle => some handle
  | add => none

/-- What a step does to the journal it goes to. -/
def change : ShelfStep -> Journal -> Journal
  | push _ message, journal => journal.push message
  | clear _, journal => journal.clear
  | share _, journal => journal
  | add, journal => journal

end ShelfStep

namespace JournalShelf

/-- The shelf that a step leaves. -/
def after (shelf : JournalShelf) : ShelfStep -> JournalShelf
  | .push handle message => shelf.push handle message
  | .clear handle => shelf.clear handle
  | .share handle => shelf.share handle
  | .add => shelf.add

/-- Every handle is on a journal of the shelf. -/
def IsSound (shelf : JournalShelf) : Prop :=
  ∀ (handle journal : Nat), shelf.handles[handle]? = some journal ->
    journal < shelf.journals.size

/-- The later shelf still has every handle, on the journal it was given out on. -/
def Keeps (shelf later : JournalShelf) : Prop :=
  ∀ (handle journal : Nat), shelf.handles[handle]? = some journal ->
    later.handles[handle]? = some journal

/-- The handle a step goes through, if any, has been given out. -/
def Takes (shelf : JournalShelf) (step : ShelfStep) : Prop :=
  ∀ handle, step.handle? = some handle -> handle < shelf.handles.size

/-- The shelves that steps through given handles lead to from the start. -/
inductive Reached : List ShelfStep -> JournalShelf -> Prop
  | start : Reached [] start
  | after {steps : List ShelfStep} {shelf : JournalShelf} {step : ShelfStep} :
      Reached steps shelf -> shelf.Takes step -> Reached (steps ++ [step]) (shelf.after step)

/-- A step goes through a handle on the journal. -/
def concerns (shelf : JournalShelf) (journal : Nat) (step : ShelfStep) : Bool :=
  step.handle?.any fun handle => shelf.handles[handle]? == some journal

/-- What the steps through the handles on a journal put into it. -/
def told (shelf : JournalShelf) (journal : Nat) (steps : List ShelfStep) : Journal :=
  (steps.filter (shelf.concerns journal)).foldl (fun held step => step.change held) {}

/-! ## One step -/

section

variable {shelf : JournalShelf} {step : ShelfStep}

theorem getElem?_handles_push {handle journal : Nat}
    (given : shelf.handles[handle]? = some journal) (other : Nat) :
    (shelf.handles.push other)[handle]? = some journal := by
  have bound := (Array.getElem?_eq_some_iff.mp given).1
  rw [Array.getElem?_push_lt bound, ← Array.getElem?_eq_getElem bound, given]

theorem onHandle_handles (shelf : JournalShelf) (handle : Nat) (f : Journal -> Journal) :
    (shelf.onHandle handle f).handles = shelf.handles := by
  unfold onHandle
  split <;> rfl

theorem onHandle_size (shelf : JournalShelf) (handle : Nat) (f : Journal -> Journal) :
    (shelf.onHandle handle f).journals.size = shelf.journals.size := by
  unfold onHandle
  split <;> simp only [Array.size_modify]

/-- Only the journal behind the handle is changed. -/
theorem onHandle_journals (shelf : JournalShelf) (handle journal : Nat)
    (f : Journal -> Journal) :
    (shelf.onHandle handle f).journals[journal]? =
      (shelf.journals[journal]?).map fun held =>
        if shelf.handles[handle]? == some journal then f held else held := by
  unfold onHandle
  cases found : shelf.handles[handle]? with
  | none => simp
  | some behind =>
      by_cases same : behind = journal <;> simp [Array.getElem?_modify, same]

theorem after_keeps (shelf : JournalShelf) (step : ShelfStep) : shelf.Keeps (shelf.after step) := by
  intro handle journal given
  cases step with
  | push through _ | clear through =>
      simp only [after, push, clear, onHandle_handles, given]
  | share through =>
      simp only [after, share]
      split
      · exact getElem?_handles_push given _
      · exact given
  | add => exact getElem?_handles_push given _

theorem after_isSound (sound : shelf.IsSound) (step : ShelfStep) :
    (shelf.after step).IsSound := by
  intro handle journal given
  cases step with
  | push through _ | clear through =>
      simp only [after, push, clear, onHandle_handles, onHandle_size] at given ⊢
      exact sound handle journal given
  | share through =>
      simp only [after, share] at given ⊢
      split at given
      · rename_i behind found
        rw [Array.getElem?_push] at given
        split at given
        · cases given
          exact sound through _ found
        · exact sound handle journal given
      · exact sound handle journal given
  | add =>
      simp only [after, add, Array.getElem?_push, Array.size_push] at given ⊢
      split at given
      · cases given
        exact Nat.lt_succ_self _
      · exact Nat.lt_succ_of_lt (sound handle journal given)

/-- A journal of the shelf is changed exactly by a step that goes through a handle on it. -/
theorem after_journals {journal : Nat} (there : journal < shelf.journals.size)
    (step : ShelfStep) :
    (shelf.after step).journals[journal]? =
      (shelf.journals[journal]?).map fun held =>
        if shelf.concerns journal step then step.change held else held := by
  cases step with
  | push through _ | clear through => exact onHandle_journals shelf through journal _
  | share through =>
      simp only [after, share, ShelfStep.change, ite_self, Option.map_id']
      split <;> rfl
  | add =>
      simp only [after, add, ShelfStep.change, ite_self, Option.map_id']
      rw [Array.getElem?_push_lt there, Array.getElem?_eq_getElem there]

/-- The journals of the shelf after a step are those before it and, where one is added, an
empty one behind them. -/
theorem after_size (shelf : JournalShelf) (step : ShelfStep) {journal : Nat}
    (there : journal < (shelf.after step).journals.size) :
    journal < shelf.journals.size ∨
      step = .add ∧ journal = shelf.journals.size ∧
        (shelf.after step).journals[journal]? = some {} := by
  cases step with
  | push through _ | clear through =>
      simp only [after, push, clear, onHandle_size] at there
      exact .inl there
  | share through =>
      simp only [after, share] at there
      split at there <;> exact .inl there
  | add =>
      simp only [after, add, Array.size_push] at there
      rcases Nat.lt_succ_iff_lt_or_eq.mp there with earlier | rfl
      · exact .inl earlier
      · exact .inr ⟨rfl, rfl, Array.getElem?_push_size⟩

/-! ## Handles stay where they are -/

/-- A step goes to the same journal on every later shelf. -/
theorem Keeps.concerns {later : JournalShelf} (keeps : shelf.Keeps later)
    (given : shelf.Takes step) (journal : Nat) :
    later.concerns journal step = shelf.concerns journal step := by
  unfold JournalShelf.concerns
  cases through : step.handle? with
  | none => rfl
  | some handle =>
      have there := Array.getElem?_eq_getElem (given handle through)
      rw [Option.any_some, Option.any_some, there, keeps _ _ there]

theorem Keeps.told {later : JournalShelf} (keeps : shelf.Keeps later)
    {steps : List ShelfStep} (given : ∀ step ∈ steps, shelf.Takes step) (journal : Nat) :
    later.told journal steps = shelf.told journal steps := by
  unfold JournalShelf.told
  rw [List.filter_congr fun step member => keeps.concerns (given step member) journal]

theorem Takes.after (given : shelf.Takes step) (next : ShelfStep) :
    (shelf.after next).Takes step := by
  intro handle through
  have there := Array.getElem?_eq_getElem (given handle through)
  exact (Array.getElem?_eq_some_iff.mp (after_keeps shelf next _ _ there)).1

/-- No handle has been given out on a journal that is not on the shelf. -/
theorem IsSound.told_size (sound : shelf.IsSound) (steps : List ShelfStep) {journal : Nat}
    (beyond : shelf.journals.size ≤ journal) : shelf.told journal steps = {} := by
  have untouched : steps.filter (shelf.concerns journal) = [] := by
    rw [List.filter_eq_nil_iff]
    intro step _ concerned
    obtain ⟨handle, _, there⟩ := (Option.any_eq_true _ _).mp concerned
    exact Nat.not_lt.mpr beyond (sound handle journal (eq_of_beq there))
  rw [told, untouched, List.foldl_nil]

theorem told_append (shelf : JournalShelf) (journal : Nat) (steps : List ShelfStep)
    (step : ShelfStep) :
    shelf.told journal (steps ++ [step]) =
      if shelf.concerns journal step then step.change (shelf.told journal steps)
      else shelf.told journal steps := by
  rw [told, List.filter_append, List.foldl_append, ← told]
  by_cases concerned : shelf.concerns journal step
  · rw [List.filter_cons_of_pos concerned, if_pos concerned]
    rfl
  · rw [List.filter_cons_of_neg concerned, if_neg concerned]
    rfl

end

/-! ## Whole runs -/

theorem start_isSound : start.IsSound := by
  intro handle journal given
  obtain ⟨bound, rfl⟩ := Array.getElem?_eq_some_iff.mp given
  have first : handle = 0 := Nat.lt_one_iff.mp bound
  subst first
  exact Nat.zero_lt_one

namespace Reached

variable {steps : List ShelfStep} {shelf : JournalShelf}

theorem isSound (reached : Reached steps shelf) : shelf.IsSound := by
  induction reached with
  | start => exact start_isSound
  | after _ _ sound => exact after_isSound sound _

theorem takes (reached : Reached steps shelf) : ∀ step ∈ steps, shelf.Takes step := by
  induction reached with
  | start =>
      intro step member
      cases member
  | after _ given earlier =>
      intro step member
      rcases List.mem_append.mp member with before | last
      · exact (earlier step before).after _
      · cases List.mem_singleton.mp last
        exact given.after _

/-- Every journal holds what the steps through its handles put into it. -/
theorem journals (reached : Reached steps shelf) {journal : Nat}
    (there : journal < shelf.journals.size) :
    shelf.journals[journal]? = some (shelf.told journal steps) := by
  induction reached generalizing journal with
  | start =>
      have first : journal = 0 := Nat.lt_one_iff.mp there
      subst first
      rfl
  | @after steps shelf step before given ih =>
      have keeps := after_keeps shelf step
      have earlier := keeps.told before.takes journal
      rw [told_append, keeps.concerns given, earlier]
      rcases after_size shelf step there with known | ⟨rfl, rfl, added⟩
      · rw [after_journals known, ih known]
        rfl
      · rw [added, before.isSound.told_size steps (Nat.le_refl _)]
        rfl

/-- What is seen through the handles: each shows what was put into its journal, through itself
or through any other handle on that journal. -/
theorem views_eq (reached : Reached steps shelf) :
    shelf.views = shelf.handles.toList.map fun journal => shelf.told journal steps := by
  refine List.map_congr_left fun journal member => ?_
  obtain ⟨handle, given⟩ := List.mem_iff_getElem?.mp member
  have there := reached.isSound handle journal (by rw [← given, Array.getElem?_toList])
  rw [reached.journals there, Option.getD_some]

end Reached

/-- A report through one of two handles on a journal is seen through both, until either clears
the journal. -/
example :
    let first := ((start.push 0 "one").share 0).push 1 "two"
    first.views.map Journal.messages = [#["one", "two"], #["one", "two"]] ∧
      ((first.add.push 2 "three").clear 0).views.map Journal.messages =
        [#[], #[], #["three"]] := by
  decide +kernel

end JournalShelf

end Landform
