import SlotDispatch.Proofs.Discipline

/-!
Who owns which slot. A slot that is in no pool and does not execute is on its way: the
control has it in its hands, or a frame will hand it on. A unit of work owns its slot until
the start of the slot is granted. A continuation that runs after a completion owns the slot
it runs on.
-/

namespace SlotDispatch

namespace Control

/-- The slot that a control has in its hands. -/
def holds : Control → List SlotId
  | .call (.offer slot _) | .call (.bind slot _) | .call (.notify slot _)
  | .call (.discard slot) | .call (.markIdle slot) | .call (.pushIdle slot) => [slot]
  | _ => []

/-- The slot on its way between its pool and its mark. -/
def carries : Control → List SlotId
  | .call (.offer slot _) | .call (.bind slot _) | .call (.discard slot)
  | .call (.markIdle slot) | .call (.pushIdle slot) => [slot]
  | _ => []

/-- The slot that certainly bears no mark: it has just left its pool or is about to return. -/
def clears : Control → List SlotId
  | .call (.offer slot _) | .call (.bind slot _) | .call (.pushIdle slot) => [slot]
  | _ => []

end Control

/-- The slots that frames will hand on, given how often each unit of work has started its
own. -/
def held : List Frame → List Nat → List SlotId
  | [], _ => []
  | .bound slot :: below, counts =>
      if counts.head? = some 0 then slot :: held below counts.tail else held below counts.tail
  | .completing slot :: below, counts | .parting slot _ :: below, counts =>
      slot :: held below counts
  | _ :: below, counts => held below counts

/-- The slots on their way. -/
def Moment.owners (counts : List Nat) (m : Moment) : List SlotId :=
  m.thread.control.holds ++ held m.thread.frames counts

/-! ### Frames that own nothing -/

/-- A frame that no code stands for owns no slot. -/
theorem held_cons {frame : Frame} (waits : frame.activation? = none) (below : List Frame)
    (counts : List Nat) : held (frame :: below) counts = held below counts := by
  cases frame with
  | bound slot => simp [Frame.activation?] at waits
  | completing slot => simp [Frame.activation?] at waits
  | parting slot kept => simp [Frame.activation?] at waits
  | _ => rfl

theorem held_append {frames : List Frame} (wait : ∀ frame ∈ frames, frame.activation? = none)
    (below : List Frame) (counts : List Nat) :
    held (frames ++ below) counts = held below counts :=
  append_of_heedless (held · counts)
    (fun frame mem rest => held_cons (wait frame mem) rest counts) below

/-- The start of a slot that is granted takes the slot from the unit of work that owned it. -/
theorem held_of_started {frames : List Frame} {own : SlotId} {counts : List Nat}
    (runs : activation frames = some (.unit, own)) (none : counts.head? = some 0) :
    held frames counts = own :: held frames (counts.modifyHead (· + 1)) := by
  obtain ⟨upper, below, rfl, waits⟩ := eq_append_bound_of_activation runs
  obtain ⟨rest, rfl⟩ := List.head?_eq_some_iff.mp none
  rw [held_append waits, held_append waits]
  simp [held]

/-- A unit of work that starts its slot, as it may, owns the slot until then. -/
theorem Moment.Careful.owns {m : Moment} {slot : SlotId} {counts : List Nat}
    (careful : m.Careful counts) (atHand : m.thread.Scoped)
    (starts' : m.thread.control = .call (.start slot)) :
    activation m.thread.frames = some (.unit, slot) ∧ counts.head? = some 0
      ∧ slot ∈ held m.thread.frames counts := by
  obtain ⟨⟨own, runs⟩, fresh⟩ := careful.started slot starts'
  have same := atHand.control slot (by rw [starts']; rfl)
  obtain rfl : own = slot := by simpa [slotAtHand, runs] using same
  refine ⟨runs, fresh, ?_⟩
  rw [held_of_started runs fresh]
  exact List.mem_cons_self

theorem Moment.Orderly.owns {m : Moment} {slot : SlotId} {counts : List Nat}
    (orderly : m.Orderly counts) (atHand : m.thread.Scoped)
    (starts' : m.thread.control = .call (.start slot)) :
    activation m.thread.frames = some (.unit, slot) ∧ counts.head? = some 0
      ∧ slot ∈ held m.thread.frames counts :=
  orderly.tidy.owns atHand starts'

/-! ### Moves that own nothing -/

/-- A move after which the control holds no slot, and no frame that was added owns one. -/
structure Move.Plain (move : Move) : Prop where
  holds : move.control.holds = []
  carries : move.control.carries = []
  clears : move.control.clears = []
  waits : ∀ frame ∈ move.frames, frame.activation? = none

theorem Move.Plain.signal (s : State) (signal : Signal) : (Move.signal s signal).Plain :=
  ⟨rfl, rfl, rfl, by simp [Move.signal]⟩

theorem Move.Plain.call {s : State} {call : Call} (plain : (Control.call call).holds = [])
    (unmarked : (Control.call call).carries = [] ∧ (Control.call call).clears = []) :
    (Move.call s call).Plain := ⟨plain, unmarked.1, unmarked.2, by simp [Move.call]⟩

theorem Move.Plain.await {s : State} {call : Call} {frame : Frame}
    (plain : (Control.call call).holds = [])
    (unmarked : (Control.call call).carries = [] ∧ (Control.call call).clears = [])
    (waits : frame.activation? = none) : (Move.await s call frame).Plain :=
  ⟨plain, unmarked.1, unmarked.2, by simp [Move.await, waits]⟩

/-- A plain move owns what was owned below. -/
theorem Move.Plain.owners {move : Move} (plain : move.Plain) (frames : List Frame)
    (counts : List Nat) : (move.onto frames).owners counts = held frames counts := by
  simp only [Moment.owners, Move.onto, plain.holds, List.nil_append]
  exact held_append plain.waits frames counts

/-- Whether a call takes a slot into its hands or out of them. -/
def Call.movesOwner : Call → Bool
  | .walk (_ :: _) _ | .offer _ _ | .bind _ _ | .complete _ _ | .notify _ _ | .discard _
  | .markIdle _ | .pushIdle _ => true
  | _ => false

/-- The other calls make plain moves. -/
theorem Call.Flows.plain {call : Call} {move : Move} (flows : call.Flows move)
    (apart : call.movesOwner = false) : move.Plain := by
  cases flows with
  | ends => exact .signal _ _
  | starts | completes | schedule | again | runs | completesAtOnce | continues =>
      exact .call rfl ⟨rfl, rfl⟩
  | answers | keeps | looks | tries | finishes | script | prepares | completesAndFails
  | collects => exact .await rfl ⟨rfl, rfl⟩ rfl
  | _ => simp [movesOwner] at apart

theorem Call.plain_step (s : State) {call : Call} (apart : call.movesOwner = false) :
    (call.step s).Plain :=
  (call.flows s).plain apart

/-- A frame that no code stands for hands no slot on. -/
theorem Frame.Flows.plain {frame : Frame} {move : Move} (flows : frame.Flows move)
    (waits : frame.activation? = none) : move.Plain := by
  cases flows with
  | ends => exact .signal _ _
  | script | walk | schedule => exact .call rfl ⟨rfl, rfl⟩
  | start => exact .await rfl ⟨rfl, rfl⟩ rfl
  | unbound | unboundInPanic | completed | completedInPanic => simp [activation?] at waits

theorem Frame.plain_resume (s : State) {frame : Frame} (waits : frame.activation? = none)
    (signal : Signal) : (frame.resume s signal).Plain :=
  (frame.flows s signal).plain waits

end SlotDispatch
