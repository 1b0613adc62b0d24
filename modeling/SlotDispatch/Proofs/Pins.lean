import SlotDispatch.Proofs.Attachment
import SlotDispatch.Proofs.Buffers
import SlotDispatch.Proofs.Leftovers
import SlotDispatch.Proofs.Mounting

/-!
Which slots are pinned, and which hold a continuation. A slot is pinned when a unit of work is
bound to it, and stays so until its completion is told to the dispatcher, or the slot is handed
back because the unit failed. Between the two it is in the hands of the unit, executes, or has
just come to its end (`Moment.Moored`). Where requests are all that is run a continuation is
found on such a slot only (`Moment.Laden`). Hence between operations the pinned slots are those
that execute, and no other slot holds a continuation.
-/

namespace SlotDispatch

/-! ### What moors a slot -/

namespace State

/-- Of every slot, whether it executes and whether it is pinned. -/
def moorings (s : State) : List (SlotId × Bool × Bool) :=
  s.slots.map fun slot => (slot.id, slot.running, slot.pinned)

variable {s t : State}

theorem running_of_moorings (same : t.moorings = s.moorings) (id : SlotId) :
    (t.slot id).running = (s.slot id).running := by
  have both := view_slot_of_same same id
  exact congrArg Prod.fst both

theorem pinned_of_moorings (same : t.moorings = s.moorings) (id : SlotId) :
    (t.slot id).pinned = (s.slot id).pinned := by
  have both := view_slot_of_same same id
  exact congrArg Prod.snd both

/-- A change of one slot is seen in that slot, if it is there, and nowhere else. -/
theorem slot_modifySlot_cases (s : State) (id other : SlotId) (change : Slot → Slot)
    (keeps : ∀ slot, (change slot).id = slot.id) :
    (s.modifySlot id change).slot other = s.slot other
      ∨ other = id ∧ (s.modifySlot id change).slot other = change (s.slot other) := by
  cases present : s.hasSlot id with
  | false => exact .inl (by rw [modifySlot_of_absent present])
  | true =>
      rw [slot_modifySlot present keeps]
      by_cases same : other = id
      · exact .inr ⟨same, by rw [if_pos same, same]⟩
      · exact .inl (if_neg same)

/-- A change of one slot that does not start it. -/
theorem running_of_modifySlot (s : State) (own : SlotId) {slot : SlotId} (change : Slot → Slot)
    (keeps : ∀ slot, (change slot).id = slot.id)
    (stops : ∀ slot, (change slot).running = true → slot.running = true)
    (running : ((s.modifySlot own change).slot slot).running = true) :
    (s.slot slot).running = true := by
  rcases s.slot_modifySlot_cases own slot change keeps with same | ⟨-, same⟩
  · rwa [same] at running
  · rw [same] at running
    exact stops _ running

/-- A change of one slot that neither starts nor stops it, nor pins it or lets it go. -/
theorem moorings_modifySlot (s : State) (id : SlotId) {change : Slot → Slot}
    (keeps : ∀ slot : Slot, ((change slot).id, (change slot).running, (change slot).pinned)
      = (slot.id, slot.running, slot.pinned)) : (s.modifySlot id change).moorings = s.moorings :=
  s.map_slots_modifySlot id keeps

theorem moorings_dropContinuation (s : State) (continuation : Option Continuation) :
    (s.dropContinuation continuation).moorings = s.moorings := by
  obtain ⟨requests, eq⟩ := s.dropContinuation_eq continuation
  rw [eq]
  rfl

theorem moorings_clearContinuation (s : State) (slot : SlotId) :
    (s.clearContinuation slot).moorings = s.moorings :=
  (moorings_dropContinuation _ _).trans (s.moorings_modifySlot slot fun _ => rfl)

theorem moorings_setContinuation (s : State) (slot : SlotId) (continuation : Continuation) :
    (s.setContinuation slot continuation).moorings = s.moorings :=
  (moorings_dropContinuation _ _).trans (s.moorings_modifySlot slot fun _ => rfl)

theorem moorings_detach (s : State) (slot : SlotId) : (s.detach slot).moorings = s.moorings :=
  (@moorings_modifySlot (s.clearContinuation slot) slot
    (fun slot => { slot with attached := false }) fun _ => rfl).trans
    (s.moorings_clearContinuation slot)

theorem Acts.moorings {scope : Option Scope} {action : Action} {move : Move}
    (acts : s.Acts scope action move) : move.state.moorings = s.moorings := by
  cases acts with
  | continued scope' id script => exact s.moorings_setContinuation _ _
  | shutDown => simp only [Move.done, Move.answer, Move.signal, State.moorings, s.slots_shutdown]
  | _ => rfl

theorem moorings_drop (s : State) : s.drop.1.moorings = s.moorings := by
  simp only [drop]
  split
  · rfl
  · refine @detachUnpinned_induction (fun t => t.moorings = s.moorings) _ ?_ fun t slot same =>
      (t.moorings_detach slot).trans same
    simp only [moorings, slots_shutdown]

end State

/-- Whether a call may start or stop its slot, or pin it or let it go. -/
def Call.moors : Call → Bool
  | .bind _ _ | .start _ | .complete _ _ | .notify _ _ | .markIdle _ => true
  | _ => false

section Steps

open State

/-- The other calls leave the moorings as they are. -/
theorem Call.moorings_step (s : State) {call : Call} (still : call.moors = false) :
    (call.step s).state.moorings = s.moorings := by
  have changes := call.changes s
  generalize (call.step s).state = t at changes ⊢
  cases changes with
  | acted scope action => exact (s.acts scope action).moorings
  | loaded slot | relieved slot => exact s.moorings_modifySlot slot fun _ => rfl
  | discarded slot => exact s.moorings_clearContinuation slot
  | bound | refused | granted | completed | notified | freed => cases still
  | _ => rfl

/-- So do all frames. -/
theorem Frame.moorings_resume (s : State) (frame : Frame) (signal : Signal) :
    (frame.resume s signal).state.moorings = s.moorings := by
  have changes := frame.changes s signal
  generalize (frame.resume s signal).state = t at changes ⊢
  cases changes with
  | registered slot id number complete =>
      exact moorings_setContinuation (s.modifyRequest number (Request.hold .continuation)) _ _
  | detached slot => exact s.moorings_detach slot
  | _ => rfl

/-- A slot that executes after a call has just been started, or executed before and has not
completed. -/
theorem Call.runs {s : State} {call : Call} {slot : SlotId}
    (running : ((call.step s).state.slot slot).running = true) :
    call = .start slot
      ∨ (s.slot slot).running = true ∧ ∀ status, call ≠ .complete slot status := by
  cases still : call.moors with
  | false =>
      rw [running_of_moorings (call.moorings_step s still)] at running
      refine .inr ⟨running, ?_⟩
      rintro status rfl
      cases still
  | true =>
      have changes := call.changes s
      generalize (call.step s).state = t at changes running
      cases changes with
      | bound own | notified own | freed own =>
          refine .inr ⟨s.running_of_modifySlot own _ ?_ ?_ running, fun _ same => by cases same⟩
          · exact fun _ => rfl
          · exact fun _ running => running
      | refused own => exact .inr ⟨running, fun _ same => by cases same⟩
      | granted own =>
          rcases (s.note (.started own)).slot_modifySlot_cases own slot
              (fun slot => { slot with running := true, output := none }) (by intro; rfl)
            with same | ⟨rfl, -⟩
          · exact .inr ⟨(congrArg Slot.running same).symm.trans running, nofun⟩
          · exact .inl rfl
      | completed own status =>
          rcases s.slot_modifySlot_cases own slot
              (fun slot => { slot with output := slot.input, running := false }) (by intro; rfl)
            with same | ⟨-, same⟩
          · refine .inr ⟨same ▸ running, ?_⟩
            rintro status' ⟨⟩
            have stopped := @slot_modifySlot_self s slot
              (fun slot => { slot with output := slot.input, running := false })
              (hasSlot_of_running (same ▸ running)) (by intro; rfl)
            rw [stopped] at running
            cases running
          · rw [same] at running
            cases running
      | _ => cases still

/-- So has one after a step. -/
theorem Moment.Step.runs {m after : Moment} {slot : SlotId} (step : m.Step after)
    (running : (after.state.slot slot).running = true) :
    m.thread.control = .call (.start slot)
      ∨ (m.state.slot slot).running = true
        ∧ ∀ status, m.thread.control ≠ .call (.complete slot status) := by
  cases step with
  | call s call frames =>
      rcases Call.runs running with rfl | ⟨before, stays⟩
      · exact .inl rfl
      · exact .inr ⟨before, fun status same => stays status (Control.call.inj same)⟩
  | resume s signal frame frames =>
      rw [Move.onto, running_of_moorings (frame.moorings_resume s signal)] at running
      exact .inr ⟨running, fun _ same => by cases same⟩
  | begin s signal action => exact .inr ⟨running, fun _ same => by cases same⟩
  | deliver signal earlier later due => exact .inr ⟨running, fun _ same => by cases same⟩
  | drop s signal =>
      rw [running_of_moorings s.moorings_drop] at running
      exact .inr ⟨running, fun _ same => by cases same⟩

/-- A call leaves a slot pinned or not as it was, unless it binds a unit of work to the slot,
tells its completion or hands it back. -/
theorem Call.pinned_cases (s : State) (call : Call) (slot : SlotId) :
    ((call.step s).state.slot slot).pinned = (s.slot slot).pinned
      ∨ (∃ work, call = .bind slot work) ∧ ((call.step s).state.slot slot).pinned = true
      ∨ ((∃ status, call = .notify slot status) ∨ call = .markIdle slot)
        ∧ ((call.step s).state.slot slot).pinned = false := by
  cases still : call.moors with
  | false => exact .inl (pinned_of_moorings (call.moorings_step s still) slot)
  | true =>
      have changes := call.changes s
      generalize (call.step s).state = t at changes ⊢
      cases changes with
      | bound own work =>
          rcases s.slot_modifySlot_cases own slot
              (fun slot => { slot with bound := true, pinned := true }) (by intro; rfl)
            with same | ⟨rfl, same⟩
          · exact .inl (congrArg Slot.pinned same)
          · exact .inr (.inl ⟨⟨work, rfl⟩, congrArg Slot.pinned same⟩)
      | refused own => exact .inl rfl
      | granted own =>
          rcases (s.note (.started own)).slot_modifySlot_cases own slot
              (fun slot => { slot with running := true, output := none }) (by intro; rfl)
            with same | ⟨-, same⟩
          · exact .inl (congrArg Slot.pinned same)
          · have same := congrArg Slot.pinned same
            exact .inl same
      | completed own =>
          rcases s.slot_modifySlot_cases own slot
              (fun slot => { slot with output := slot.input, running := false }) (by intro; rfl)
            with same | ⟨-, same⟩
          · exact .inl (congrArg Slot.pinned same)
          · have same := congrArg Slot.pinned same
            exact .inl same
      | notified own status =>
          rcases s.slot_modifySlot_cases own slot
              (fun slot => { slot with pinned := false, last := status }) (by intro; rfl)
            with same | ⟨rfl, same⟩
          · exact .inl (congrArg Slot.pinned same)
          · exact .inr (.inr ⟨.inl ⟨status, rfl⟩, congrArg Slot.pinned same⟩)
      | freed own =>
          rcases s.slot_modifySlot_cases own slot
              (fun slot => { slot with bound := false, pinned := false }) (by intro; rfl)
            with same | ⟨rfl, same⟩
          · exact .inl (congrArg Slot.pinned same)
          · exact .inr (.inr ⟨.inr rfl, congrArg Slot.pinned same⟩)
      | _ => cases still

/-- So does a step. -/
theorem Moment.Step.pinned_cases {m after : Moment} (step : m.Step after) (slot : SlotId) :
    (after.state.slot slot).pinned = (m.state.slot slot).pinned
      ∨ (∃ work, m.thread.control = .call (.bind slot work))
        ∧ (after.state.slot slot).pinned = true
      ∨ ((∃ status, m.thread.control = .call (.notify slot status))
          ∨ m.thread.control = .call (.markIdle slot))
        ∧ (after.state.slot slot).pinned = false := by
  cases step with
  | call s call frames => simpa only [Move.onto, Control.call.injEq] using call.pinned_cases s slot
  | resume s signal frame frames =>
      exact .inl (pinned_of_moorings (frame.moorings_resume s signal) slot)
  | begin s signal action => exact .inl rfl
  | deliver signal earlier later due => exact .inl rfl
  | drop s signal => exact .inl (pinned_of_moorings s.moorings_drop slot)

/-- A slot is pinned only as a unit of work is bound to it. -/
theorem Moment.Step.pins {m after : Moment} {slot : SlotId} (step : m.Step after)
    (pinned : (after.state.slot slot).pinned = true) :
    (m.state.slot slot).pinned = true ∨ ∃ work, m.thread.control = .call (.bind slot work) := by
  rcases step.pinned_cases slot with same | ⟨binds, -⟩ | ⟨-, free⟩
  · exact .inl (same.symm.trans pinned)
  · exact .inr binds
  · cases pinned.symm.trans free

/-- It is let go only as its completion is told, or as it is handed back. -/
theorem Moment.Step.lets_go {m after : Moment} {slot : SlotId} (step : m.Step after)
    (pinned : (m.state.slot slot).pinned = true)
    (free : (after.state.slot slot).pinned = false) :
    (∃ status, m.thread.control = .call (.notify slot status))
      ∨ m.thread.control = .call (.markIdle slot) := by
  rcases step.pinned_cases slot with same | ⟨-, pinned'⟩ | ⟨told, -⟩
  · cases pinned.symm.trans (same.symm.trans free)
  · cases pinned'.symm.trans free
  · exact told

end Steps

/-! ### Who may hold a slot pinned -/

/-- The slots of units of work that have not started them, given how often each unit has. -/
def unstarted : List Frame → List Nat → List SlotId
  | [], _ => []
  | .bound slot :: below, counts =>
      if counts.head? = some 0 then slot :: unstarted below counts.tail
      else unstarted below counts.tail
  | _ :: below, counts => unstarted below counts

namespace Control

/-- The slot that is about to be let go. -/
def unpins : Control → List SlotId
  | .call (.notify slot _) | .call (.discard slot) | .call (.markIdle slot) => [slot]
  | _ => []

/-- The slot whose completion the dispatcher is about to be told. -/
def notifies : Control → List SlotId
  | .call (.notify slot _) => [slot]
  | _ => []

/-- The slot whose continuation is about to be taken or destroyed. -/
def unloads : Control → List SlotId
  | .call (.notify slot _) | .call (.followUp slot _) | .call (.discard slot) => [slot]
  | _ => []

end Control

/-- A pinned slot executes, is in the hands of a unit of work, or is about to be let go; and as
long as it executes, or is in such hands, or its completion is still to be told, it is pinned. -/
structure Moment.Moored (counts : List Nat) (m : Moment) : Prop where
  held : ∀ slot, (m.state.slot slot).pinned = true → (m.state.slot slot).running = true
    ∨ slot ∈ unstarted m.thread.frames counts ∨ slot ∈ m.thread.control.unpins
  pinned : ∀ slot, (m.state.slot slot).running = true ∨ slot ∈ unstarted m.thread.frames counts
    ∨ slot ∈ m.thread.control.notifies → (m.state.slot slot).pinned = true

/-- A slot that holds a continuation executes, is in the hands of a unit of work, or is about to
be unloaded. -/
def Moment.Laden (counts : List Nat) (m : Moment) : Prop :=
  ∀ slot, (m.state.slot slot).continuation ≠ none → (m.state.slot slot).running = true
    ∨ slot ∈ unstarted m.thread.frames counts ∨ slot ∈ m.thread.control.unloads

section Frames

variable {frames : List Frame} {counts : List Nat}

theorem unstarted_cons {frame : Frame} (other : frame.isBound = false) (below : List Frame)
    (counts : List Nat) : unstarted (frame :: below) counts = unstarted below counts := by
  cases frame with
  | bound slot => cases other
  | _ => rfl

theorem unstarted_append {added : List Frame} (others : ∀ frame ∈ added, frame.isBound = false)
    (below : List Frame) (counts : List Nat) :
    unstarted (added ++ below) counts = unstarted below counts :=
  append_of_heedless (unstarted · counts)
    (fun frame mem rest => unstarted_cons (others frame mem) rest counts) below

/-- A unit of work that has not started its slot owns it. -/
theorem unstarted_sublist (frames : List Frame) (counts : List Nat) :
    (unstarted frames counts).Sublist (SlotDispatch.held frames counts) := by
  induction frames generalizing counts with
  | nil => exact .refl _
  | cons frame below ih =>
      cases frame with
      | bound slot =>
          simp only [unstarted, SlotDispatch.held]
          split
          · exact (ih _).cons_cons slot
          · exact ih _
      | completing slot => exact (ih counts).cons slot
      | parting slot kept => exact (ih counts).cons slot
      | _ => exact ih counts

/-- A start that is granted takes the slot out of the hands of the unit. -/
theorem unstarted_of_started {own : SlotId} (runs : activation frames = some (.unit, own))
    (fresh : counts.head? = some 0) :
    unstarted frames counts = own :: unstarted frames (counts.modifyHead (· + 1)) := by
  obtain ⟨upper, below, rfl, waits⟩ := eq_append_bound_of_activation runs
  obtain ⟨rest, rfl⟩ := List.head?_eq_some_iff.mp fresh
  have others (frame) (mem : frame ∈ upper) : frame.isBound = false :=
    (Frame.not_bound_of_waits (waits frame mem)).1
  rw [unstarted_append others, unstarted_append others]
  simp [unstarted]

end Frames

/-! ### Steps -/

/-- A call that moors nothing adds no unit of work, and no completion is told after it. -/
theorem Call.Flows.moors {call : Call} {move : Move} (flows : call.Flows move)
    (still : call.moors = false) :
    (∀ frame ∈ move.frames, frame.isBound = false) ∧ move.control.notifies = [] := by
  cases flows with
  | bind | completesAtOnce | completesAndFails | notify | completing | parting | markIdle =>
      cases still
  | _ => simp [Move.signal, Move.call, Move.await, Frame.isBound, Control.notifies]

theorem Frame.Flows.moors {frame : Frame} {move : Move} (flows : frame.Flows move) :
    (∀ frame ∈ move.frames, frame.isBound = false) ∧ move.control.notifies = [] := by
  cases flows <;> simp [Move.signal, Move.call, Move.await, Frame.isBound, Control.notifies]

section Steps

variable {s : State} {frames : List Frame} {counts : List Nat}

/-- Where the moorings stay as they are, slots stay moored if the slots that were about to be
let go still are, and those in the hands of units still are or are about to be let go. -/
theorem Moment.Moored.still {m after : Moment} {counts' : List Nat} (moored : m.Moored counts)
    (same : after.state.moorings = m.state.moorings)
    (unpins : ∀ slot ∈ m.thread.control.unpins, slot ∈ after.thread.control.unpins)
    (fewer : unstarted after.thread.frames counts' ⊆ unstarted m.thread.frames counts)
    (passed : ∀ slot ∈ unstarted m.thread.frames counts,
      slot ∈ unstarted after.thread.frames counts' ∨ slot ∈ after.thread.control.unpins)
    (told : after.thread.control.notifies = []) : after.Moored counts' := by
  refine ⟨fun slot pinned => ?_, fun slot holds => ?_⟩
  · rw [State.pinned_of_moorings same] at pinned
    rw [State.running_of_moorings same]
    rcases moored.held slot pinned with running | unit | leaves
    · exact .inl running
    · exact .inr (passed slot unit)
    · exact .inr (.inr (unpins slot leaves))
  · rw [State.running_of_moorings same, told] at holds
    rw [State.pinned_of_moorings same]
    refine moored.pinned slot ?_
    rcases holds with running | unit | none
    · exact .inl running
    · exact .inr (.inl (fewer unit))
    · cases none

/-- Where one slot changes, it is enough to look at that one, if the others stay in the hands
that they are in. -/
theorem Moment.Moored.change {m after : Moment} {counts' : List Nat} (moored : m.Moored counts)
    (slot : SlotId)
    (others : ∀ other, other ≠ slot →
      (after.state.slot other).running = (m.state.slot other).running
        ∧ (after.state.slot other).pinned = (m.state.slot other).pinned)
    (units : ∀ other, other ≠ slot →
      (other ∈ unstarted after.thread.frames counts' ↔ other ∈ unstarted m.thread.frames counts))
    (leaves : ∀ other ∈ m.thread.control.unpins, other = slot)
    (told : ∀ other ∈ after.thread.control.notifies, other = slot)
    (held : (after.state.slot slot).pinned = true → (after.state.slot slot).running = true
      ∨ slot ∈ unstarted after.thread.frames counts' ∨ slot ∈ after.thread.control.unpins)
    (pinned : (after.state.slot slot).running = true
      ∨ slot ∈ unstarted after.thread.frames counts' ∨ slot ∈ after.thread.control.notifies →
        (after.state.slot slot).pinned = true) : after.Moored counts' := by
  constructor
  · intro other isPinned
    by_cases same : other = slot
    · subst same
      exact held isPinned
    · rw [(others other same).2] at isPinned
      rw [(others other same).1, units other same]
      rcases moored.held other isPinned with running | unit | leaving
      · exact .inl running
      · exact .inr (.inl unit)
      · exact absurd (leaves other leaving) same
  · intro other holds
    by_cases same : other = slot
    · subst same
      exact pinned holds
    · rw [(others other same).1, units other same] at holds
      rw [(others other same).2]
      refine moored.pinned other ?_
      rcases holds with running | unit | tells
      · exact .inl running
      · exact .inr (.inl unit)
      · exact absurd (told other tells) same

/-- A call that moors nothing leaves the slots moored. -/
theorem Call.moored_still {call : Call} (still : call.moors = false)
    (moored : Moment.Moored counts ⟨s, ⟨.call call, frames⟩⟩) :
    ((call.step s).onto frames).Moored (Moment.tally counts ⟨s, ⟨.call call, frames⟩⟩) := by
  obtain ⟨others, told⟩ := (call.flows s).moors still
  have units : unstarted ((call.step s).onto frames).thread.frames counts
      = unstarted frames counts :=
    unstarted_append others frames counts
  have counted : Moment.tally counts ⟨s, ⟨.call call, frames⟩⟩ = counts := by
    cases call with
    | bind | start => cases still
    | _ => rfl
  have unpins : (Control.call call).unpins ⊆ (call.step s).control.unpins := by
    cases call with
    | discard slot => exact List.Subset.refl _
    | notify | markIdle => cases still
    | _ => exact List.nil_subset _
  rw [counted]
  refine moored.still (call.moorings_step s still) (fun _ mem => unpins mem) ?_ ?_ told
  · rw [units]
    exact List.Subset.refl _
  · intro slot unit
    rw [units]
    exact .inl unit

/-- A start that is granted passes the slot from its unit to its device. -/
theorem Call.moored_start {slot : SlotId} (present : s.hasSlot slot = true)
    (runs : activation frames = some (.unit, slot)) (fresh : counts.head? = some 0)
    (moored : Moment.Moored counts ⟨s, ⟨.call (.start slot), frames⟩⟩) :
    ((s.start slot).onto frames).Moored
      (Moment.tally counts ⟨s, ⟨.call (.start slot), frames⟩⟩) := by
  rcases s.start_cases slot with ⟨error, refused, eq⟩ | ⟨granted, eq⟩
  · rw [eq, Moment.tally_of_refused refused]
    exact moored.still rfl nofun (List.Subset.refl _) (fun _ mem => .inl mem) rfl
  · rw [eq, Moment.tally_of_granted granted]
    have mine := unstarted_of_started runs fresh
    have plain := ((s.started slot).flows_launch slot (s.conduct slot.device)).plain rfl
    have view (other : SlotId) :
        ((s.started slot).launch slot (s.conduct slot.device)).state.slot other
          = if other = slot then { s.slot slot with running := true, output := none }
            else s.slot other := by
      rw [State.slot, (s.started slot).slots_launch]
      exact State.slot_modifySlot (s := s.note (.started slot)) present (by intro; rfl) other
    have told : ((s.started slot).launch slot (s.conduct slot.device)).control.notifies = [] := by
      simp only [State.launch]
      split <;> rfl
    have units : unstarted (((s.started slot).launch slot (s.conduct slot.device)).frames ++ frames)
        (counts.modifyHead (· + 1)) = unstarted frames (counts.modifyHead (· + 1)) :=
      unstarted_append (fun frame mem => (Frame.not_bound_of_waits (plain.waits frame mem)).1) _ _
    refine moored.change slot (fun other differs => ?_) (fun other differs => ?_) nofun
      (fun other mem => ?_) (fun _ => .inl ?_) fun _ => ?_
    · simp only [Move.onto, view, if_neg differs, and_self]
    · simp only [Move.onto, units, mine, List.mem_cons, differs, false_or]
    · simp only [Move.onto, told] at mem
      cases mem
    · simp only [Move.onto, view, if_true]
    · simp only [Move.onto, view, if_true]
      exact moored.pinned slot (.inr (.inl (mine ▸ List.mem_cons_self)))

open State in
/-- Every call leaves the slots moored, as long as completions reach the dispatcher. -/
theorem Call.moored_step {call : Call} (atHand : Thread.Scoped ⟨.call call, frames⟩)
    (careful : Moment.Careful counts ⟨s, ⟨.call call, frames⟩⟩)
    (exclusive : Moment.Exclusive counts ⟨s, ⟨.call call, frames⟩⟩) (attached : s.Attached)
    (moored : Moment.Moored counts ⟨s, ⟨.call call, frames⟩⟩) :
    ((call.step s).onto frames).Moored (Moment.tally counts ⟨s, ⟨.call call, frames⟩⟩) := by
  -- A slot in the hands of the control is in no other, so its change is seen by nobody else.
  have apart (slot : SlotId) (mem : slot ∈ (Control.call call).holds) :
      slot ∉ unstarted frames counts := fun unit =>
    (List.nodup_append.mp exclusive.once).2.2 slot mem slot
      ((unstarted_sublist frames counts).subset unit) rfl
  cases call with
  | bind slot work =>
      have view := @slot_modifySlot s slot (fun slot => { slot with bound := true, pinned := true })
        (exclusive.known slot List.mem_cons_self) (by intro; rfl)
      refine moored.change slot (fun other differs => ?_) (fun other differs => ?_)
        (List.forall_mem_nil _) (List.forall_mem_nil _) (fun _ => .inr (.inl ?_)) fun _ => ?_
      · simp only [step, Move.onto, Move.await, view, if_neg differs, and_self]
      · simp [step, Move.onto, Move.await, Moment.tally, unstarted, differs]
      · simp [step, Move.onto, Move.await, Moment.tally, unstarted]
      · simp only [step, Move.onto, Move.await, view, if_true]
  | start slot =>
      obtain ⟨runs, fresh, owned⟩ := careful.owns atHand rfl
      exact Call.moored_start (exclusive.known slot owned) runs fresh moored
  | complete slot status =>
      have running := careful.delivered slot status rfl
      have present : s.hasSlot slot = true := hasSlot_of_running running
      have view := @slot_modifySlot s slot
        (fun slot => { slot with output := slot.input, running := false })
        present (by intro; rfl)
      have reaches : ((s.modifySlot slot fun slot =>
          { slot with output := slot.input, running := false }).slot slot).attached = true := by
        rw [view, if_pos rfl]
        exact attached.slot slot
      simp only [step, State.complete, reaches, if_true]
      refine moored.change slot (fun other differs => ?_) (fun other differs => Iff.rfl)
        (List.forall_mem_nil _)
        (fun other mem => List.mem_singleton.mp mem)
        (fun _ => .inr (.inr List.mem_cons_self)) fun _ => ?_
      · simp only [Move.onto, Move.call, view, if_neg differs, and_self]
      · simp only [Move.onto, Move.call, view, if_true]
        exact moored.pinned slot (.inl running)
  | notify slot status =>
      have owned : slot ∈ Moment.owners counts ⟨s, ⟨.call (.notify slot status), frames⟩⟩ :=
        List.mem_cons_self
      have still := exclusive.still slot owned
      have view := @slot_modifySlot s slot
        (fun slot => { slot with pinned := false, last := status })
        (exclusive.known slot owned) (by intro; rfl)
      have units : unstarted
          ((if s.phase = .dropped then .parting slot (s.slot slot).pinned else .completing slot)
            :: frames) counts = unstarted frames counts := by
        split <;> rfl
      refine moored.change slot (fun other differs => ?_) (fun other differs => ?_)
        (fun other mem => List.mem_singleton.mp mem) (List.forall_mem_nil _)
        (fun pinned => ?_) fun holds => ?_
      · simp only [step, State.notify, Move.onto, Move.await, view, if_neg differs, and_self]
      · simp only [step, State.notify, Move.onto, Move.await, Moment.tally, List.cons_append,
          List.nil_append, units]
      · simp only [step, State.notify, Move.onto, Move.await, view, if_true] at pinned
        cases pinned
      · simp only [step, State.notify, Move.onto, Move.await, Moment.tally, List.cons_append,
          List.nil_append, view, if_true, units] at holds
        rcases holds with running | unit | told
        · rw [still] at running
          cases running
        · exact absurd unit (apart slot List.mem_cons_self)
        · cases told
  | markIdle slot =>
      have owned : slot ∈ Moment.owners counts ⟨s, ⟨.call (.markIdle slot), frames⟩⟩ :=
        List.mem_cons_self
      have still := exclusive.still slot owned
      have view := @slot_modifySlot s slot
        (fun slot => { slot with bound := false, pinned := false })
        (exclusive.known slot owned) (by intro; rfl)
      refine moored.change slot (fun other differs => ?_) (fun other differs => Iff.rfl)
        (fun other mem => List.mem_singleton.mp mem) (List.forall_mem_nil _)
        (fun pinned => ?_) fun holds => ?_
      · simp only [step, Move.onto, Move.call, view, if_neg differs, and_self]
      · simp only [step, Move.onto, Move.call, view, if_true] at pinned
        cases pinned
      · simp only [step, Move.onto, Move.call, view, if_true, Moment.tally] at holds
        rcases holds with running | unit | told
        · rw [still] at running
          cases running
        · exact absurd unit (apart slot List.mem_cons_self)
        · cases told
  | _ => exact Call.moored_still rfl moored

/-- Every frame leaves the slots moored, as long as units of work fail only if they have not
started their slots, and succeed only if they have. -/
theorem Frame.moored_resume {signal : Signal} {frame : Frame}
    (tidy : Moment.Tidy counts ⟨s, ⟨.signal signal, frame :: frames⟩⟩)
    (thorough : Moment.Thorough counts ⟨s, ⟨.signal signal, frame :: frames⟩⟩)
    (moored : Moment.Moored counts ⟨s, ⟨.signal signal, frame :: frames⟩⟩) :
    ((frame.resume s signal).onto frames).Moored
      (Moment.tally counts ⟨s, ⟨.signal signal, frame :: frames⟩⟩) := by
  obtain ⟨others, told⟩ := (frame.flows s signal).moors
  have units (counts : List Nat) :
      unstarted ((frame.resume s signal).onto frames).thread.frames counts
        = unstarted frames counts :=
    unstarted_append others frames counts
  have same := frame.moorings_resume s signal
  cases bound : frame.isBound with
  | false =>
      have counted : Moment.tally counts ⟨s, ⟨.signal signal, frame :: frames⟩⟩ = counts := by
        cases frame with
        | bound slot => cases bound
        | _ => rfl
      rw [counted]
      refine moored.still same nofun ?_ ?_ told
      · rw [units, unstarted_cons bound]
        exact List.Subset.refl _
      · intro slot unit
        rw [unstarted_cons bound] at unit
        rw [units]
        exact .inl unit
  | true =>
      cases frame with
      | bound slot =>
          have fewer : unstarted frames counts.tail ⊆ unstarted (.bound slot :: frames) counts := by
            simp only [unstarted]
            split
            · exact List.subset_cons_self _ _
            · exact List.Subset.refl _
          refine moored.still same nofun ?_ ?_ told
          · rw [units]
            exact fewer
          · -- A unit that has not started its slot fails, so that the slot is handed back.
            intro other unit
            rw [units]
            simp only [unstarted] at unit
            split at unit
            · next fresh =>
                rcases List.mem_cons.mp unit with rfl | unit
                · cases signal with
                  | returned answer => exact absurd fresh (thorough answer other frames rfl)
                  | _ => exact .inr List.mem_cons_self
                · exact .inl unit
            · exact .inl unit
      | _ => cases bound

/-- Every step leaves the slots moored, until the dispatcher is dropped. -/
theorem Moment.Step.moored {m after : Moment} (step : m.Step after) (atHand : m.thread.Scoped)
    (tidy : m.Tidy counts) (thorough : m.Thorough counts) (exclusive : m.Exclusive counts)
    (linked : m.Linked) (moored : m.Moored counts) (there : after.state.phase ≠ .dropped) :
    after.Moored (m.tally counts) := by
  have here : m.state.phase ≠ .dropped := fun gone => there (step.keeps_dropped gone)
  cases step with
  | call s call frames =>
      exact Call.moored_step atHand tidy.toCareful exclusive (linked.attached here) moored
  | resume s signal frame frames => exact Frame.moored_resume tidy thorough moored
  | begin s signal action => exact ⟨moored.held, moored.pinned⟩
  | deliver signal earlier later due => exact ⟨moored.held, moored.pinned⟩
  | drop s signal => exact absurd s.phase_drop there

/-! ### Continuations -/

/-- A slot that the control has in its hands neither executes nor is in those of a unit. -/
theorem Moment.Exclusive.apart {m : Moment} {slot : SlotId} (exclusive : m.Exclusive counts)
    (holds : slot ∈ m.thread.control.holds) :
    (m.state.slot slot).running = false ∧ slot ∉ unstarted m.thread.frames counts := by
  refine ⟨exclusive.still slot (List.mem_append_left _ holds), fun unit => ?_⟩
  have owned := (unstarted_sublist m.thread.frames counts).subset unit
  exact (List.nodup_append.mp exclusive.once).2.2 slot holds slot owned rfl

/-- No more is a slot whose completion is being handled. -/
theorem Moment.Exclusive.apart_of_completing {m : Moment} {slot : SlotId} {signal : Signal}
    {below : List Frame} (exclusive : m.Exclusive counts)
    (handles : m.thread = ⟨.signal signal, .completing slot :: below⟩) :
    (m.state.slot slot).running = false ∧ slot ∉ unstarted m.thread.frames counts := by
  have owners : m.owners counts = slot :: SlotDispatch.held below counts := by
    rw [Moment.owners, handles]
    rfl
  have once := exclusive.once
  rw [owners] at once
  refine ⟨exclusive.still slot (owners ▸ List.mem_cons_self), fun unit => ?_⟩
  rw [handles, unstarted_cons rfl] at unit
  exact (List.nodup_cons.mp once).1 ((unstarted_sublist below counts).subset unit)

/-- A slot whose completion is being handled is marked only after it was unloaded. -/
theorem Moment.Step.marks_unloaded {m after : Moment} {slot : SlotId} (step : m.Step after)
    (marks : after.thread.control = .call (.markIdle slot)) :
    m.thread.control = .call (.discard slot)
      ∨ ∃ signal below, m.thread = ⟨.signal signal, .completing slot :: below⟩ := by
  cases step with
  | call s call frames =>
      have flows := call.flows s
      simp only [Move.onto] at marks
      cases call with
      | discard own =>
          cases marks
          exact .inl rfl
      | _ =>
          generalize Call.step s _ = move at flows marks
          cases flows <;> cases marks
  | resume s signal frame frames =>
      have flows := frame.flows s signal
      simp only [Move.onto] at marks
      generalize frame.resume s signal = move at flows marks
      cases flows with
      | completed own t =>
          cases marks
          exact .inr ⟨signal, frames, rfl⟩
      | _ => cases marks
  | begin s signal action => cases marks
  | deliver signal earlier later due => cases marks
  | drop s signal => cases marks

/-- A slot whose continuation was about to be taken or destroyed holds none after the step. -/
theorem Moment.Step.unloads {m after : Moment} {slot : SlotId} (step : m.Step after)
    (mem : slot ∈ m.thread.control.unloads)
    (untold : ∀ status, m.thread.control ≠ .call (.notify slot status)) :
    (after.state.slot slot).continuation = none := by
  cases step with
  | call s call frames =>
      cases call with
      | notify own status =>
          obtain rfl := List.mem_singleton.mp mem
          exact absurd rfl (untold status)
      | followUp own status =>
          obtain rfl := List.mem_singleton.mp mem
          simp only [Move.onto, Call.step, State.continuation_followUp, if_true]
      | discard own =>
          obtain rfl := List.mem_singleton.mp mem
          simp only [Move.onto, Call.step, Move.call, State.continuation_clearContinuation, if_true]
      | _ => cases mem
  | _ => cases mem

/-- Every step leaves continuations on moored slots only, if only a unit of work leaves any, on
its slot before it starts it. -/
theorem Moment.Step.laden {m after : Moment} (step : m.Step after) (exclusive : m.Exclusive counts)
    (registers : ∀ slot, m.registers? = some slot → slot ∈ unstarted m.thread.frames counts)
    (moored : m.Moored counts) (later : after.Moored (m.tally counts)) (laden : m.Laden counts)
    (there : after.state.phase ≠ .dropped) : after.Laden (m.tally counts) := by
  intro slot left
  -- Before the step the slot executed, or was in the hands of a unit, or about to be told of.
  have before : ((m.state.slot slot).running = true ∨ slot ∈ unstarted m.thread.frames counts)
      ∨ ∃ status, m.thread.control = .call (.notify slot status) := by
    rcases step.left_cases slot with same | none | registered
    · rcases laden slot (same ▸ left) with running | unit | unloads
      · exact .inl (.inl running)
      · exact .inl (.inr unit)
      · by_cases told : ∃ status, m.thread.control = .call (.notify slot status)
        · exact .inr told
        · exact absurd (step.unloads unloads fun status same => told ⟨status, same⟩) left
    · exact absurd none left
    · exact .inl (.inr (registers slot registered))
  have pinned : (m.state.slot slot).pinned = true := by
    refine moored.pinned slot ?_
    rcases before with (running | unit) | ⟨status, told⟩
    · exact .inl running
    · exact .inr (.inl unit)
    · rw [told]
      exact .inr (.inr List.mem_cons_self)
  have away {control : Control} (same : m.thread.control = control) (holds : slot ∈ control.holds)
      (untold : ∀ status, control ≠ .call (.notify slot status)) : False := by
    obtain ⟨still, apart⟩ := exclusive.apart (same ▸ holds)
    rcases before with (running | unit) | ⟨status, told⟩
    · simp [still] at running
    · exact apart unit
    · exact untold status (same ▸ told)
  cases stays : (after.state.slot slot).pinned with
  | false =>
      rcases step.lets_go pinned stays with ⟨status, told⟩ | marks
      · refine .inr (.inr ?_)
        cases step with
        | call s call frames =>
            obtain rfl : call = .notify slot status := by simpa using told
            exact List.mem_cons_self
        | _ => cases told
      · exact (away marks List.mem_cons_self nofun).elim
  | true =>
      rcases later.held slot stays with running | unit | leaves
      · exact .inl running
      · exact .inr (.inl unit)
      · refine .inr (.inr ?_)
        cases control : after.thread.control with
        | signal signal => simp [control, Control.unpins] at leaves
        | call next =>
            rw [control] at leaves
            cases next with
            | notify | discard => exact leaves
            | markIdle own =>
                obtain rfl := List.mem_singleton.mp leaves
                rcases step.marks_unloaded control with discards | ⟨signal, below, completing⟩
                · exact (away discards List.mem_cons_self nofun).elim
                · obtain ⟨still, apart⟩ := exclusive.apart_of_completing completing
                  rcases before with (running | unit) | ⟨status, told⟩
                  · simp [still] at running
                  · exact (apart unit).elim
                  · simp [completing] at told
            | _ => cases leaves

/-- What is gentle is modest: it does not even panic. -/
theorem Moment.Gentle.modest {m : Moment} (gentle : m.Gentle) : m.Modest := by
  refine ⟨gentle.delivered, fun scope action same => ?_⟩
  have gentle := gentle.acts scope action same
  cases action with
  | panic message => rfl
  | _ => exact gentle

/-- Where requests are all that is run, only a unit leaves a continuation, before it starts its
slot. -/
theorem Moment.Regular.registers {m : Moment} (regular : m.Regular counts) (gentle : m.Gentle)
    {slot : SlotId} (registers : m.registers? = some slot) :
    slot ∈ unstarted m.thread.frames counts := by
  obtain ⟨s, control, frames⟩ := m
  simp only [Moment.registers?] at registers
  split at registers
  · next scope script frames same =>
      obtain ⟨rfl, rfl⟩ := Thread.mk.inj same
      cases gentle.acts _ _ rfl
  · next answer own id number complete below same =>
      obtain ⟨rfl, rfl⟩ := Thread.mk.inj same
      obtain rfl := Option.some.inj registers
      obtain ⟨runs, fresh, -⟩ := regular.stacked
      obtain ⟨rest, rfl⟩ := eq_bound_of_foremost runs
      simp [unstarted, fresh]
  · cases registers

end Steps

/-! ### Runs -/

section Runs

variable {backends : List Backend} {priorities : List Preference} {s : State}
  {past : List Moment} {now : Moment}

/-- A run leaves the slots moored until the dispatcher is dropped, if units of work start their
slots once and succeed, or fail without a start. -/
theorem Run.moored (built : (construct backends priorities).result = .ok s)
    (run : Run (.initial s) past now) (tidy : Throughout Moment.Tidy past)
    (thorough : Throughout Moment.Thorough past) (there : now.state.phase ≠ .dropped) :
    now.Moored (starts past) := by
  induction run with
  | start =>
      obtain ⟨configured, -, rfl⟩ := construct_ok built
      refine ⟨fun slot pinned => ?_, fun slot holds => ?_⟩
      · simp only [Moment.initial, State.slot_ofConfigured] at pinned
        cases pinned
      · simp only [Moment.initial, State.slot_ofConfigured] at holds
        rcases holds with running | none | none
        · cases running
        · cases none
        · cases none
  | @next past now after run step ih =>
      obtain ⟨tidy, here⟩ := throughout_append_singleton.mp tidy
      obtain ⟨thorough, spent⟩ := throughout_append_singleton.mp thorough
      have sound := run.sound_of_tidy built tidy
      have before := ih tidy thorough fun gone => there (step.keeps_dropped gone)
      rw [starts_append_singleton]
      exact step.moored sound.atHand here spent sound.exclusive (run.linked built) before there

/-- A run of requests leaves continuations on moored slots only. -/
theorem Run.laden (built : (construct backends priorities).result = .ok s)
    (run : Run (.initial s) past now) (faithful : ∀ m ∈ past, m.Faithful)
    (there : now.state.phase ≠ .dropped) :
    now.Moored (starts past) ∧ now.Laden (starts past) := by
  have moored {past : List Moment} {now : Moment} (run : Run (.initial s) past now)
      (faithful : ∀ m ∈ past, m.Faithful) (there : now.state.phase ≠ .dropped) :
      now.Moored (starts past) := by
    have tidy := (run.regular built faithful).2.mono fun _ _ => Moment.Orderly.tidy
    have thorough := (run.mounted built fun m mem => (faithful m mem).toGentle.modest).2.2
    exact run.moored built tidy thorough there
  refine ⟨moored run faithful there, ?_⟩
  induction run with
  | start =>
      obtain ⟨configured, -, rfl⟩ := construct_ok built
      intro slot left
      simp only [Moment.initial, State.slot_ofConfigured] at left
      exact absurd rfl left
  | @next past now after run step ih =>
      have here : now.Faithful := faithful now (by simp)
      have before : ∀ m ∈ past, m.Faithful := fun m mem => faithful m (List.mem_append_left _ mem)
      have alive : now.state.phase ≠ .dropped := fun gone => there (step.keeps_dropped gone)
      obtain ⟨regular, orderly⟩ := run.regular built before
      have later := moored (run.next step) faithful there
      rw [starts_append_singleton] at later ⊢
      exact step.laden (run.sound built orderly).exclusive
        (fun slot registers => regular.registers here.toGentle registers)
        (moored run before alive) later (ih before alive) there

/-- Between operations the pinned slots are those that execute, and only they hold
continuations. -/
theorem Run.pinned_iff (built : (construct backends priorities).result = .ok s)
    (run : Run (.initial s) past now) (faithful : ∀ m ∈ past, m.Faithful) (atRest : now.AtRest)
    (there : now.state.phase ≠ .dropped) (slot : SlotId) :
    ((now.state.slot slot).pinned = true ↔ (now.state.slot slot).running = true)
      ∧ ((now.state.slot slot).continuation ≠ none → (now.state.slot slot).running = true) := by
  obtain ⟨moored, laden⟩ := run.laden built faithful there
  obtain ⟨signal, rest⟩ := atRest
  have held := moored.held slot
  have left := laden slot
  rw [rest] at held left
  refine ⟨⟨fun pinned => ?_, fun running => moored.pinned slot (.inl running)⟩, fun holds => ?_⟩
  · exact (held pinned).resolve_right (by simp [unstarted, Control.unpins])
  · exact (left holds).resolve_right (by simp [unstarted, Control.unloads])

end Runs

end SlotDispatch
