import SlotDispatch.Proofs.Run
import SlotDispatch.Proofs.Flow

/-!
Which code runs on which slot. Units of work and continuations nest in one another on the
stack of a thread; each runs on the slot of its own frame. `Thread.Scoped` says that the
code at hand, whether it waits in a frame or is about to go on, works on the slot of the
innermost of these frames, and `Moment.Step.keeps_scope` that every step keeps it so.
-/

namespace SlotDispatch

/-- Whose code it is that runs on a slot. -/
inductive Role where
  | unit
  | continuation
  deriving DecidableEq, Repr

/-- The code that a frame stands for, and the slot that it runs on. -/
def Frame.activation? : Frame → Option (Role × SlotId)
  | .bound slot => some (.unit, slot)
  | .completing slot | .parting slot _ => some (.continuation, slot)
  | _ => none

/-- The code that runs innermost. -/
def activation (frames : List Frame) : Option (Role × SlotId) :=
  frames.findSome? Frame.activation?

/-- The slot that the innermost code runs on. -/
def slotAtHand (frames : List Frame) : Option SlotId := (activation frames).map Prod.snd

/-- The slot that a frame takes to be at hand below it. -/
def Frame.slot? : Frame → Option SlotId
  | .script scope _ _ => some scope.slot
  | .preparing slot _ _ _ | .starting slot _ | .collecting slot _ => some slot
  | _ => none

/-- The slot that a control takes to be at hand. -/
def Control.slot? : Control → Option SlotId
  | .call (.act scope _) => scope.map Scope.slot
  | .call (.script scope _) => some scope.slot
  | .call (.start slot) | .call (.perform slot _) | .call (.followUp slot _) => some slot
  | _ => none

/-- What is taken to be at hand is at hand. -/
def Fits (slot : Option SlotId) (below : List Frame) : Prop :=
  ∀ id, slot = some id → slotAtHand below = some id

/-- Every frame finds the slot at hand that it takes to be so. -/
def Nested : List Frame → Prop
  | [] => True
  | frame :: below => Fits frame.slot? below ∧ Nested below

/-- The innermost code works on the slot that it runs on, and so does all code that waits. -/
structure Thread.Scoped (thread : Thread) : Prop where
  control : Fits thread.control.slot? thread.frames
  frames : Nested thread.frames

/-! ### The slot at hand -/

theorem Fits.none (below : List Frame) : Fits none below := fun _ none => by simp at none

theorem Fits.some {slot : SlotId} {below : List Frame} (atHand : slotAtHand below = some slot) :
    Fits (some slot) below := by
  rintro _ ⟨⟩
  exact atHand

theorem slotAtHand_cons_of_none {frame : Frame} (waits : frame.activation? = none)
    (below : List Frame) : slotAtHand (frame :: below) = slotAtHand below := by
  simp [slotAtHand, activation, waits]

theorem slotAtHand_cons_of_some {frame : Frame} {role : Role} {slot : SlotId}
    (runs : frame.activation? = some (role, slot)) (below : List Frame) :
    slotAtHand (frame :: below) = some slot := by
  simp [slotAtHand, activation, runs]

/-- What is read off frames and does not heed those that are put on top is what was read before. -/
theorem append_of_heedless {α : Type} (reads : List Frame → α) {added : List Frame}
    (heedless : ∀ frame ∈ added, ∀ below, reads (frame :: below) = reads below)
    (below : List Frame) : reads (added ++ below) = reads below := by
  induction added with
  | nil => rfl
  | cons frame rest ih =>
      rw [List.cons_append, heedless frame List.mem_cons_self]
      exact ih fun other mem => heedless other (List.mem_cons_of_mem _ mem)

/-- Above the unit of work that runs innermost wait only frames that no code stands for. -/
theorem eq_append_bound_of_activation {frames : List Frame} {own : SlotId}
    (runs : activation frames = some (.unit, own)) :
    ∃ upper below, frames = upper ++ .bound own :: below
      ∧ ∀ frame ∈ upper, frame.activation? = none := by
  obtain ⟨upper, frame, below, rfl, stands, waits⟩ := List.findSome?_eq_some_iff.mp runs
  refine ⟨upper, below, ?_, waits⟩
  cases frame with
  | bound slot =>
      obtain rfl : slot = own := by simpa [Frame.activation?] using stands
      rfl
  | _ => simp [Frame.activation?] at stands

/-! ### Steps -/

/-- What a move puts on top fits what is below. -/
def Move.Fits (move : Move) (frames : List Frame) : Prop := (move.onto frames).thread.Scoped

variable {frames : List Frame}

theorem Move.fits_signal (s : State) (signal : Signal) (nested : Nested frames) :
    (Move.signal s signal).Fits frames := ⟨.none _, nested⟩

theorem Move.fits_call {s : State} {call : Call}
    (fits : SlotDispatch.Fits (Control.call call).slot? frames)
    (nested : Nested frames) : (Move.call s call).Fits frames := ⟨fits, nested⟩

/-- A frame that waits for a call lets it see the slot at hand, or is that of a new one. -/
theorem Move.fits_await {s : State} {call : Call} {frame : Frame}
    (control : SlotDispatch.Fits (Control.call call).slot? (frame :: frames))
    (waits : SlotDispatch.Fits frame.slot? frames) (nested : Nested frames) :
    (Move.await s call frame).Fits frames := ⟨control, waits, nested⟩

theorem Call.Flows.fits {call : Call} {move : Move} (flows : call.Flows move)
    (atHand : SlotDispatch.Fits (Control.call call).slot? frames) (nested : Nested frames) :
    move.Fits frames := by
  cases flows with
  | ends t signal => exact Move.fits_signal _ _ nested
  -- The code at hand goes on, with no frame of another's between.
  | starts scope action t => exact Move.fits_call atHand nested
  | runs slot id script t => exact Move.fits_call atHand nested
  | continues slot status id script t => exact Move.fits_call atHand nested
  | tries scope action t =>
      refine Move.fits_await (.some ?_) (.none _) nested
      rw [slotAtHand_cons_of_none rfl]
      exact atHand _ rfl
  | script scope action rest t =>
      refine Move.fits_await (.some ?_) atHand nested
      rw [slotAtHand_cons_of_none rfl]
      exact atHand _ rfl
  | prepares slot id number job t =>
      refine Move.fits_await (.some ?_) atHand nested
      rw [slotAtHand_cons_of_none rfl]
      exact atHand _ rfl
  | collects slot status id number complete t =>
      refine Move.fits_await (.some ?_) atHand nested
      rw [slotAtHand_cons_of_none rfl]
      exact atHand _ rfl
  -- Other code begins, on the slot of the frame that waits for it.
  | bind slot work t =>
      exact Move.fits_await (.some (slotAtHand_cons_of_some rfl _)) (.none _) nested
  | completing slot status t =>
      exact Move.fits_await (.some (slotAtHand_cons_of_some rfl _)) (.none _) nested
  | parting slot status held t =>
      exact Move.fits_await (.some (slotAtHand_cons_of_some rfl _)) (.none _) nested
  -- What remains is the work of the dispatcher, which takes no slot to be at hand.
  | answers | keeps | looks | finishes | unused | completesAndFails =>
      exact Move.fits_await (.none _) (.none _) nested
  | completes | schedule | again | onward | found | used | completesAtOnce | notify | discard
  | markIdle => exact Move.fits_call (.none _) nested

theorem Frame.Flows.fits {frame : Frame} {move : Move} (flows : frame.Flows move)
    (atHand : SlotDispatch.Fits frame.slot? frames) (nested : Nested frames) :
    move.Fits frames := by
  cases flows with
  | ends t signal => exact Move.fits_signal _ _ nested
  | script scope action rest t => exact Move.fits_call atHand nested
  | start slot id number complete t =>
      refine Move.fits_await (.some ?_) atHand nested
      rw [slotAtHand_cons_of_none rfl]
      exact atHand _ rfl
  | walk | schedule => exact Move.fits_call (.none _) nested
  | unbound | unboundInPanic | completed | completedInPanic =>
      exact Move.fits_await (.none _) (.none _) nested

/-- Every step leaves the innermost code on its slot. -/
theorem Moment.Step.keeps_scope {m after : Moment} (step : m.Step after)
    (atHand : m.thread.Scoped) :
    after.thread.Scoped := by
  cases step with
  | call s call frames => exact (call.flows s).fits atHand.control atHand.frames
  | resume s signal frame frames =>
      exact (frame.flows s signal).fits atHand.frames.1 atHand.frames.2
  | begin s signal action => exact ⟨.none _, trivial⟩
  | deliver signal earlier later due => exact ⟨.none _, trivial⟩
  | drop s signal => exact ⟨.none _, trivial⟩

end SlotDispatch
