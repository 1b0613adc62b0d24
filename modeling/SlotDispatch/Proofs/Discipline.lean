import SlotDispatch.Proofs.Activation
import SlotDispatch.Proofs.Steps

/-!
What is asked of devices and of the code that callers hand in. A dispatcher relies on
completions that come only from running slots, and on units of work that start their slot
at most once and fail only without having started it. Whether a unit has started its slot
is not part of any state; `starts` counts it along the run, for every unit that is being
run.
-/

namespace SlotDispatch

/-- The counts after the next step. A unit that is bound begins with none, a start that is
granted counts for the innermost unit, and a unit that has ended is forgotten. -/
def Moment.tally (counts : List Nat) (m : Moment) : List Nat :=
  match m.thread with
  | ⟨.call (.bind _ _), _⟩ => 0 :: counts
  | ⟨.call (.start slot), _⟩ =>
      if m.state.grants slot then counts.modifyHead (· + 1) else counts
  | ⟨.signal _, .bound _ :: _⟩ => counts.tail
  | _ => counts

theorem Moment.tally_of_refused {s : State} {slot : SlotId} (refused : s.grants slot = false)
    (counts : List Nat) (frames : List Frame) :
    tally counts ⟨s, ⟨.call (.start slot), frames⟩⟩ = counts := by simp [tally, refused]

theorem Moment.tally_of_granted {s : State} {slot : SlotId} (granted : s.grants slot = true)
    (counts : List Nat) (frames : List Frame) :
    tally counts ⟨s, ⟨.call (.start slot), frames⟩⟩ = counts.modifyHead (· + 1) := by
  simp [tally, granted]

/-- How often each unit that is being run, the innermost first, has started its slot. -/
def starts (past : List Moment) : List Nat := past.foldl Moment.tally []

/-- A condition on every moment of a run, given the counts at that moment. -/
def Throughout (condition : List Nat → Moment → Prop) (past : List Moment) : Prop :=
  ∀ before m after, past = before ++ m :: after → condition (starts before) m

/-- At this moment, devices and the code of callers do what the dispatcher relies on. -/
structure Moment.Orderly (counts : List Nat) (m : Moment) : Prop where
  /-- A completion is delivered only while the slot is running. -/
  delivered : ∀ slot status, m.thread.control = .call (.complete slot status) →
    (m.state.slot slot).running = true
  /-- Only a unit of work starts a slot, and only if it has not started it before. -/
  started : ∀ slot, m.thread.control = .call (.start slot) →
    (∃ own, activation m.thread.frames = some (.unit, own)) ∧ counts.head? = some 0
  /-- A unit of work fails only if it has not started its slot. -/
  failed : ∀ signal slot frames, m.thread = ⟨.signal signal, .bound slot :: frames⟩ →
    (∀ answer, signal ≠ .returned answer) → counts.head? = some 0
  /-- Nothing panics. -/
  calm : ∀ message, m.thread.control ≠ .signal (.panicked message)

/-- What of this is left to slots: where they complete, and who starts them. -/
structure Moment.Careful (counts : List Nat) (m : Moment) : Prop where
  delivered : ∀ slot status, m.thread.control = .call (.complete slot status) →
    (m.state.slot slot).running = true
  started : ∀ slot, m.thread.control = .call (.start slot) →
    (∃ own, activation m.thread.frames = some (.unit, own)) ∧ counts.head? = some 0

/-- Besides, a unit of work fails or panics only if it has not started its slot. -/
structure Moment.Tidy (counts : List Nat) (m : Moment) : Prop extends m.Careful counts where
  failed : ∀ signal slot frames, m.thread = ⟨.signal signal, .bound slot :: frames⟩ →
    (∀ answer, signal ≠ .returned answer) → counts.head? = some 0

theorem Moment.Orderly.tidy {counts : List Nat} {m : Moment} (orderly : m.Orderly counts) :
    m.Tidy counts := ⟨⟨orderly.delivered, orderly.started⟩, orderly.failed⟩

/-- At this moment, no unit of work succeeds without having started its slot. -/
def Moment.Thorough (counts : List Nat) (m : Moment) : Prop :=
  ∀ answer slot frames, m.thread = ⟨.signal (.returned answer), .bound slot :: frames⟩ →
    counts.head? ≠ some 0

/-- Every unit of work starts its slot once and succeeds, or fails without a start. -/
structure Moment.Exact (counts : List Nat) (m : Moment) : Prop extends m.Orderly counts where
  thorough : m.Thorough counts

/-! ### Checking a run -/

/-- `Moment.Orderly`, computed. -/
def Moment.isOrderly (counts : List Nat) (m : Moment) : Bool :=
  match m.thread with
  | ⟨.call (.complete slot _), _⟩ => (m.state.slot slot).running
  | ⟨.call (.start _), frames⟩ =>
      (activation frames).any (fun code => code.1 == .unit) && counts.head? == some 0
  | ⟨.signal (.returned _), _⟩ => true
  | ⟨.signal (.panicked _), _⟩ => false
  | ⟨.signal _, .bound _ :: _⟩ => counts.head? == some 0
  | _ => true

/-- `Moment.Thorough`, computed. -/
def Moment.isThorough (counts : List Nat) (m : Moment) : Bool :=
  match m.thread with
  | ⟨.signal (.returned _), .bound _ :: _⟩ => counts.head? != some 0
  | _ => true

theorem Moment.orderly_of_isOrderly {counts : List Nat} {m : Moment}
    (checked : m.isOrderly counts = true) : m.Orderly counts := by
  obtain ⟨s, control, frames⟩ := m
  refine ⟨?_, ?_, ?_, ?_⟩
  · rintro slot status same
    obtain rfl : control = _ := same
    exact checked
  · rintro slot same
    obtain rfl : control = _ := same
    simp only [isOrderly, Bool.and_eq_true, Option.any_eq_true, beq_iff_eq] at checked
    obtain ⟨⟨⟨role, own⟩, runs, rfl⟩, fresh⟩ := checked
    exact ⟨⟨own, runs⟩, fresh⟩
  · rintro signal slot below same fails
    obtain ⟨rfl, rfl⟩ : control = .signal signal ∧ frames = .bound slot :: below := by
      simpa using same
    cases signal with
    | returned answer => exact absurd rfl (fails answer)
    | panicked message => simp [isOrderly] at checked
    | _ => simpa [isOrderly] using checked
  · rintro message same
    obtain rfl : control = _ := same
    simp [isOrderly] at checked

theorem Moment.exact_of_check {counts : List Nat} {m : Moment}
    (checked : (m.isOrderly counts && m.isThorough counts) = true) : m.Exact counts := by
  obtain ⟨orderly, thorough⟩ := (Bool.and_eq_true _ _).mp checked
  refine ⟨orderly_of_isOrderly orderly, ?_⟩
  intro answer slot frames same
  simpa [isThorough, same] using thorough

/-- Whether every moment of a run passes a check, given the counts before the first. -/
def passes (check : List Nat → Moment → Bool) : List Nat → List Moment → Bool
  | _, [] => true
  | counts, m :: rest => check counts m && passes check (m.tally counts) rest

theorem check_of_passes {check : List Nat → Moment → Bool} {before after : List Moment}
    {m : Moment} {counts : List Nat} (passed : passes check counts (before ++ m :: after) = true) :
    check (before.foldl Moment.tally counts) m = true := by
  induction before generalizing counts with
  | nil => exact ((Bool.and_eq_true _ _).mp passed).1
  | cons first before ih => exact ih ((Bool.and_eq_true _ _).mp passed).2

/-- A run that passes a check meets the condition that the check implies. -/
theorem throughout_of_passes {condition : List Nat → Moment → Prop} {past : List Moment}
    {check : List Nat → Moment → Bool}
    (sound : ∀ counts m, check counts m = true → condition counts m)
    (passed : passes check [] past = true) : Throughout condition past := by
  rintro before m after rfl
  exact sound _ _ (check_of_passes passed)

/-! ### Counts and conditions along a run -/

@[simp] theorem starts_append_singleton (past : List Moment) (m : Moment) :
    starts (past ++ [m]) = m.tally (starts past) := by
  simp [starts]

/-- What holds throughout a run holds throughout its beginning. -/
theorem Throughout.of_append {condition : List Nat → Moment → Prop} {past later : List Moment}
    (holds : Throughout condition (past ++ later)) : Throughout condition past := by
  intro before m after split
  refine holds before m (after ++ later) ?_
  rw [split, List.append_assoc]
  rfl

/-- A condition holds throughout a longer run if it does so up to its last moment and there. -/
theorem throughout_append_singleton {condition : List Nat → Moment → Prop} {past : List Moment}
    {m : Moment} : Throughout condition (past ++ [m]) ↔
      Throughout condition past ∧ condition (starts past) m := by
  constructor
  · exact fun holds => ⟨holds.of_append, holds past m [] rfl⟩
  · rintro ⟨holds, here⟩ before last after split
    rcases List.eq_nil_or_concat after with rfl | ⟨front, final, rfl⟩
    · obtain ⟨rfl, tail⟩ := List.append_inj' split rfl
      obtain rfl : m = last := by simpa using tail
      exact here
    · rw [List.concat_eq_append, ← List.cons_append, ← List.append_assoc] at split
      exact holds before last front (List.append_inj' split rfl).1

/-- Nothing has panicked. -/
def Calm (past : List Moment) : Prop :=
  ∀ m ∈ past, ∀ message, m.thread.control ≠ .signal (.panicked message)

/-- In an orderly run nothing panics. -/
theorem Throughout.calm {past : List Moment} (orderly : Throughout Moment.Orderly past) :
    Calm past := by
  intro m mem
  obtain ⟨before, after, split⟩ := List.append_of_mem mem
  exact (orderly before m after split).calm

theorem Throughout.mono {condition weaker : List Nat → Moment → Prop} {past : List Moment}
    (holds : Throughout condition past)
    (implied : ∀ counts m, condition counts m → weaker counts m) :
    Throughout weaker past :=
  fun before m after split => implied _ _ (holds before m after split)

end SlotDispatch
