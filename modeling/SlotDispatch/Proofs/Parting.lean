import SlotDispatch.Proofs.Courses
import SlotDispatch.Proofs.Pins

/-!
The drop of a dispatcher and its shutdown, side by side. After either of them no unit of work is
bound and no slot starts; what is left to do are the completions of the slots that execute, with
the hooks they run. After a drop a completion takes another way: it reaches its slot only as long
as the slot is pinned, and then parts with it. `Moment.Mirrors` says what a moment after the drop
has in common with the one after the shutdown, and `Moment.Mirrors.step` that the two keep pace.
It rests on the slots that execute being pinned (`Run.pinned_iff`), hence attached after a drop,
and on no other slot holding a continuation, which parting with the slot would destroy.
-/

namespace SlotDispatch

/-! ### Hooks that leave the dispatcher alone -/

/-- Whether an action may stand in a hook of a request that does not use the dispatcher: it
calls a device, or sees to requests that were made before. -/
def Action.isDetached : Action → Bool
  | .slot | .fail _ | .complete _ _ | .finish _ _ | .conduct _ _ | .state | .tryOutcome _ | .poll _
  | .wait _ | .cancel _ | .cancelPending _ | .isCancelled _ | .forget _ => true
  | _ => false

theorem Action.isGentle_of_isDetached {action : Action} (detached : action.isDetached = true) :
    action.isGentle = true := by
  cases action <;> first | rfl | cases detached

/-- Whether a continuation is that of a request whose last hook does not use the dispatcher. -/
def Continuation.isDetached : Continuation → Bool
  | .request _ _ complete => complete.all Action.isDetached
  | .scripted _ _ => false

/-- The continuations that were left on slots do not use the dispatcher. -/
def State.Detached (s : State) : Prop :=
  ∀ slot ∈ s.slots, ∀ continuation ∈ slot.continuation, continuation.isDetached = true

/-- The slots that execute are attached. -/
def State.Reached (s : State) : Prop :=
  ∀ slot, (s.slot slot).running = true → (s.slot slot).attached = true

/-! ### States that differ in what ended them -/

/-- A slot, no matter whether its completion reaches anyone. -/
def Slot.reattached (slot : Slot) : Slot := { slot with attached := true }

/-- A request, no matter whether it was cancelled. -/
def Request.uncancelled (request : Request) : Request := { request with cancelled := false }

theorem Request.uncancelled_settle (outcome : Outcome) (request : Request) :
    (request.settle outcome).uncancelled = request.uncancelled.settle outcome := by
  obtain ⟨cancelled, holders, settled⟩ := request
  cases settled <;> rfl

theorem Request.uncancelled_release (holder : Holder) (request : Request) :
    (request.release holder).uncancelled = request.uncancelled.release holder := by
  obtain ⟨cancelled, holders, settled⟩ := request
  by_cases last : (holders.erase holder).isEmpty = true
  · cases settled <;> simp [release, uncancelled, last, settle]
  · simp [release, uncancelled, last]

namespace State

/-- Two states have the same devices, slots, requests and completions that are due, up to which
slots are attached and which requests are cancelled. -/
structure Alike (d h : State) : Prop where
  devices : d.devices = h.devices
  slots : d.slots.map Slot.reattached = h.slots.map Slot.reattached
  requests : d.requests.map Request.uncancelled = h.requests.map Request.uncancelled
  due : d.due = h.due

variable {s t d h u : State}

namespace Alike

theorem refl (s : State) : s.Alike s := ⟨rfl, rfl, rfl, rfl⟩

theorem symm (alike : d.Alike h) : h.Alike d :=
  ⟨alike.devices.symm, alike.slots.symm, alike.requests.symm, alike.due.symm⟩

theorem trans (one : d.Alike h) (other : h.Alike u) : d.Alike u :=
  ⟨one.devices.trans other.devices, one.slots.trans other.slots,
    one.requests.trans other.requests, one.due.trans other.due⟩

theorem slot (alike : d.Alike h) (id : SlotId) :
    (d.slot id).reattached = (h.slot id).reattached := by
  have found (s : State) : (s.slot id).reattached
      = ((s.slots.map Slot.reattached).find? fun slot => slot.id == id).getD (.fresh id) := by
    rw [find?_map_slot Slot.reattached (fun _ => rfl), State.slot]
    cases s.slots.find? (fun slot => slot.id == id) <;> rfl
  rw [found, alike.slots, ← found]

theorem hasSlot (alike : d.Alike h) (id : SlotId) : d.hasSlot id = h.hasSlot id := by
  have found (s : State) :
      s.hasSlot id = (s.slots.map Slot.reattached).any fun slot => slot.id == id := by
    simp only [State.hasSlot, List.any_map]
    rfl
  rw [found, alike.slots, ← found]

theorem running (alike : d.Alike h) : d.running = h.running := by
  have found (s : State) :
      s.running = ((s.slots.map Slot.reattached).filter Slot.running).map Slot.id := by
    simp only [State.running, List.filter_map, List.map_map]
    rfl
  rw [found, alike.slots, ← found]

theorem device? (alike : d.Alike h) (name : String) : d.device? name = h.device? name := by
  simp only [State.device?, alike.devices]

theorem slotIds (alike : d.Alike h) : d.slots.map Slot.id = h.slots.map Slot.id := by
  have found (s : State) : s.slots.map Slot.id = (s.slots.map Slot.reattached).map Slot.id := by
    rw [List.map_map]
    rfl
  rw [found, alike.slots, ← found]

/-- The outcomes of requests are the same. -/
theorem outcome? (alike : d.Alike h) (n : Nat) : d.outcome? n = h.outcome? n := by
  have found (s : State) :
      s.outcome? n = (s.requests.map Request.uncancelled)[n]?.bind Request.outcome := by
    rw [State.outcome?, List.getElem?_map]
    cases s.requests[n]? <;> rfl
  rw [found, alike.requests, ← found]

theorem modifySlot (alike : d.Alike h) (id : SlotId) {change : Slot → Slot}
    (blind : ∀ slot, (change slot).reattached = change slot.reattached) :
    (d.modifySlot id change).Alike (h.modifySlot id change) := by
  have mapped (s : State) : (s.modifySlot id change).slots.map Slot.reattached
      = (s.slots.map Slot.reattached).map fun slot =>
          if slot.id = id then change slot else slot := by
    simp only [State.modifySlot, List.map_map]
    refine List.map_congr_left fun slot _ => ?_
    simp only [Function.comp, show slot.reattached.id = slot.id from rfl]
    split
    · exact blind slot
    · rfl
  refine ⟨alike.devices, ?_, alike.requests, alike.due⟩
  rw [mapped, alike.slots, ← mapped]

theorem modifyRequest (alike : d.Alike h) (number : Nat) {change : Request → Request}
    (blind : ∀ request, (change request).uncancelled = change request.uncancelled) :
    (d.modifyRequest number change).Alike (h.modifyRequest number change) := by
  have mapped (s : State) : (s.modifyRequest number change).requests.map Request.uncancelled
      = (s.requests.map Request.uncancelled).modify number change := by
    apply List.ext_getElem?
    intro n
    simp only [State.modifyRequest, List.getElem?_map, List.getElem?_modify]
    cases s.requests[n]? with
    | none => rfl
    | some request =>
        by_cases same : number = n
        · simp [same, blind]
        · simp [same]
  refine ⟨alike.devices, alike.slots, ?_, alike.due⟩
  rw [mapped, alike.requests, ← mapped]

theorem settle (alike : d.Alike h) (number : Nat) (outcome : Outcome) :
    (d.settle number outcome).Alike (h.settle number outcome) :=
  alike.modifyRequest number (Request.uncancelled_settle outcome)

theorem release (alike : d.Alike h) (number : Nat) (holder : Holder) :
    (d.release number holder).Alike (h.release number holder) :=
  alike.modifyRequest number (Request.uncancelled_release holder)

theorem dropWork (alike : d.Alike h) (work : Work) : (d.dropWork work).Alike (h.dropWork work) := by
  cases work with
  | scripted id script => exact alike
  | request id number job => exact alike.release number .unit

theorem foldl_dropWork (works : List Work) (alike : d.Alike h) :
    (works.foldl State.dropWork d).Alike (works.foldl State.dropWork h) := by
  induction works generalizing d h with
  | nil => exact alike
  | cons work rest ih => exact ih (alike.dropWork work)

end Alike

/-- A change of whether a request is cancelled does not count. -/
theorem alike_cancelRequest (s : State) (number : Nat) : (s.cancelRequest number).Alike s := by
  refine ⟨rfl, rfl, ?_, rfl⟩
  apply List.ext_getElem?
  intro n
  simp only [cancelRequest, modifyRequest, List.getElem?_map, List.getElem?_modify]
  cases s.requests[n]? with
  | none => rfl
  | some request =>
      by_cases same : number = n
      · simp [same, Request.uncancelled]
      · simp [same]

/-- A slot that holds no continuation is detached without any other change. -/
theorem detach_of_none {slot : SlotId} (none : (s.slot slot).continuation = none) :
    s.detach slot
      = (s.relieved slot).modifySlot slot fun slot => { slot with attached := false } := by
  rw [detach, clearContinuation, none]
  rfl

/-- Hence it does not count either. -/
theorem alike_detach {slot : SlotId} (none : (s.slot slot).continuation = none)
    (distinct : (s.slots.map Slot.id).Nodup) : (s.detach slot).Alike s := by
  rw [detach_of_none none]
  refine ⟨rfl, ?_, rfl, rfl⟩
  simp only [relieved, modifySlot, List.map_map]
  refine List.map_congr_left fun found there => ?_
  simp only [Function.comp]
  by_cases same : found.id = slot
  · subst same
    rw [slot_eq_of_mem distinct there] at none
    simp [Slot.reattached, none]
  · simp [same]

/-! ### The slots of the two -/

theorem Detached.of_mem (detached : s.Detached)
    (slots : ∀ slot ∈ t.slots, ∀ continuation ∈ slot.continuation,
      ∃ old ∈ s.slots, continuation ∈ old.continuation) : t.Detached := by
  intro slot mem continuation left
  obtain ⟨old, there, left⟩ := slots slot mem continuation left
  exact detached old there continuation left

theorem Detached.modifySlot (detached : s.Detached) (id : SlotId) {change : Slot → Slot}
    (fewer : ∀ slot, ∀ continuation ∈ (change slot).continuation,
      continuation ∈ slot.continuation) :
    (s.modifySlot id change).Detached := by
  refine detached.of_mem fun slot mem continuation left => ?_
  obtain ⟨old, there, rfl⟩ := List.mem_map.mp mem
  refine ⟨old, there, ?_⟩
  split at left
  · exact fewer old continuation left
  · exact left

theorem Detached.slot (detached : s.Detached) {id : SlotId} {continuation : Continuation}
    (left : (s.slot id).continuation = some continuation) : continuation.isDetached = true := by
  simp only [State.slot] at left
  cases found : s.slots.find? fun candidate => candidate.id == id with
  | none => simp [found, Slot.fresh] at left
  | some slot =>
      rw [found] at left
      exact detached slot (List.mem_of_find?_eq_some found) continuation left

theorem Reached.of_slots (reached : s.Reached) (slots : t.slots = s.slots) : t.Reached := by
  intro slot
  simp only [State.slot, slots]
  exact reached slot

theorem Reached.modifySlot (reached : s.Reached) (id : SlotId) {change : Slot → Slot}
    (keeps : ∀ slot, (change slot).id = slot.id)
    (apart : ∀ slot, (change slot).running = true →
      slot.running = true ∧ (change slot).attached = slot.attached) :
    (s.modifySlot id change).Reached := by
  intro other running
  rcases s.slot_modifySlot_cases id other change keeps with same | ⟨-, same⟩
  · rw [same] at running ⊢
    exact reached other running
  · rw [same] at running ⊢
    obtain ⟨was, attached⟩ := apart _ running
    rw [attached]
    exact reached other was

/-- No slot is detached with another. -/
theorem attached_detach (s : State) {slot other : SlotId} (ne : other ≠ slot) :
    ((s.detach slot).slot other).attached = (s.slot other).attached := by
  obtain ⟨requests, eq⟩ := (s.relieved slot).dropContinuation_eq (s.slot slot).continuation
  have cleared : (s.clearContinuation slot).slot other = s.slot other := by
    have relieved : (s.relieved slot).slot other = s.slot other :=
      slot_modifySlot_of_ne ne (by intro; rfl)
    have cleared : s.clearContinuation slot = { s.relieved slot with requests } := eq
    rw [cleared]
    exact relieved
  rw [detach, slot_modifySlot_of_ne ne (by intro; rfl), cleared]

/-- A slot that does not execute may be detached. -/
theorem Reached.detach (reached : s.Reached) {slot : SlotId}
    (still : (s.slot slot).running = false) :
    (s.detach slot).Reached := by
  intro other running
  rw [running_of_moorings (s.moorings_detach slot)] at running
  by_cases same : other = slot
  · rw [same, still] at running
    cases running
  · rw [s.attached_detach same]
    exact reached other running

/-! ### A state after the drop and one after the shutdown -/

/-- The dispatcher was dropped in one state and shut down in the other, and they are alike
otherwise. The completions of the slots that execute still reach the dispatcher, or what is left
of it, and none of their hooks uses it. -/
structure Parted (d h : State) : Prop where
  gone : d.phase = .dropped
  ended : h.phase = .shutDown
  alike : d.Alike h
  reached : d.Reached
  detached : h.Detached

/-- A change that has nothing to do with what counts. -/
structure Beside (s t : State) : Prop where
  alike : t.Alike s
  slots : t.slots = s.slots
  phase : t.phase = s.phase

theorem beside_of_pending (changed : ∃ pending, t = { s with pending }) : s.Beside t := by
  obtain ⟨pending, rfl⟩ := changed
  exact ⟨⟨rfl, rfl, rfl, rfl⟩, rfl, rfl⟩

theorem beside_cancelRequest (s : State) (number : Nat) : s.Beside (s.cancelRequest number) :=
  ⟨s.alike_cancelRequest number, rfl, rfl⟩

theorem beside_cancel (s : State) (id : String) : s.Beside (s.cancel id).1 := by
  simp only [cancel]
  split
  · exact ⟨.refl s, rfl, rfl⟩
  · exact s.beside_cancelRequest _

theorem beside_cancelPending (s : State) (id : String) : s.Beside (s.cancelPending id).1 := by
  simp only [cancelPending]
  split
  · exact s.beside_cancelRequest _
  · exact ⟨.refl s, rfl, rfl⟩

theorem beside_note (s : State) (event : Event) : s.Beside (s.note event) :=
  ⟨⟨rfl, rfl, rfl, rfl⟩, rfl, rfl⟩

namespace Parted

theorem beside (parted : d.Parted h) {d' h' : State} (one : d.Beside d') (other : h.Beside h') :
    d'.Parted h' := by
  refine ⟨one.phase.trans parted.gone, other.phase.trans parted.ended,
    one.alike.trans (parted.alike.trans other.alike.symm), parted.reached.of_slots one.slots, ?_⟩
  exact parted.detached.of_mem fun slot mem continuation left =>
    ⟨slot, other.slots ▸ mem, left⟩

theorem modifySlot (parted : d.Parted h) (id : SlotId) {change : Slot → Slot}
    (blind : ∀ slot, (change slot).reattached = change slot.reattached)
    (keeps : ∀ slot, (change slot).id = slot.id)
    (apart : ∀ slot, (change slot).running = true →
      slot.running = true ∧ (change slot).attached = slot.attached)
    (fewer : ∀ slot, ∀ continuation ∈ (change slot).continuation,
      continuation ∈ slot.continuation) :
    (d.modifySlot id change).Parted (h.modifySlot id change) :=
  ⟨parted.gone, parted.ended, parted.alike.modifySlot id blind,
    parted.reached.modifySlot id keeps apart, parted.detached.modifySlot id fewer⟩

theorem modifyDevice (parted : d.Parted h) (name : String) (change : Device → Device) :
    (d.modifyDevice name change).Parted (h.modifyDevice name change) := by
  have alike := parted.alike
  refine ⟨parted.gone, parted.ended, ⟨?_, alike.slots, alike.requests, alike.due⟩,
    parted.reached.of_slots rfl, parted.detached.of_mem
      fun slot mem _ left => ⟨slot, mem, left⟩⟩
  simp only [State.modifyDevice, alike.devices]

theorem settle_release (parted : d.Parted h) (number : Nat) (outcome : Outcome) (holder : Holder) :
    ((d.settle number outcome).release number holder).Parted
      ((h.settle number outcome).release number holder) :=
  ⟨parted.gone, parted.ended, (parted.alike.settle number outcome).release number holder,
    parted.reached.of_slots rfl, parted.detached.of_mem
      fun slot mem _ left => ⟨slot, mem, left⟩⟩

/-- Parting with a slot that is done is no change. -/
theorem detach (parted : d.Parted h) {slot : SlotId} (still : (h.slot slot).running = false)
    (none : (h.slot slot).continuation = none) (distinct : (d.slots.map Slot.id).Nodup) :
    (d.detach slot).Parted h := by
  have same := parted.alike.slot slot
  have still : (d.slot slot).running = false := (congrArg Slot.running same).trans still
  have none : (d.slot slot).continuation = .none := (congrArg Slot.continuation same).trans none
  exact ⟨(undisturbed_detach d slot).samePhase.trans parted.gone, parted.ended,
    (alike_detach none distinct).trans parted.alike, parted.reached.detach still, parted.detached⟩

end Parted

end State

/-! ### Moments that keep pace -/

/-- What a thread does next after the drop, and what it does after the shutdown. Only the answers
of actions can differ. -/
inductive Control.Mirrors : Control → Control → Prop where
  | act (scope : Option Scope) (action : Action) : action.isDetached = true →
      Mirrors (.call (.act scope action)) (.call (.act scope action))
  | script (scope : Scope) (rest : Script) : rest.all Action.isDetached = true →
      Mirrors (.call (.script scope rest)) (.call (.script scope rest))
  | complete (slot : SlotId) (status : Status) :
      Mirrors (.call (.complete slot status)) (.call (.complete slot status))
  | notify (slot : SlotId) (status : Status) :
      Mirrors (.call (.notify slot status)) (.call (.notify slot status))
  | followUp (slot : SlotId) (status : Status) :
      Mirrors (.call (.followUp slot status)) (.call (.followUp slot status))
  | returned (answer other : Answer) :
      Mirrors (.signal (.returned answer)) (.signal (.returned other))
  | failed (error : BackendError) : Mirrors (.signal (.failed error)) (.signal (.failed error))

/-- A frame that waits after the drop, and the one that waits after the shutdown. -/
inductive Frame.Mirrors : Frame → Frame → Prop where
  | script (scope : Scope) (action : String) (rest : Script) : rest.all Action.isDetached = true →
      Mirrors (.script scope action rest) (.script scope action rest)
  | answer (answer : Answer) : Mirrors (.answer answer) (.answer answer)
  | collecting (slot : SlotId) (number : Nat) :
      Mirrors (.collecting slot number) (.collecting slot number)
  | parting (slot : SlotId) (held : Bool) : Mirrors (.parting slot held) (.completing slot)

/-- The moment `d` after the drop is what the moment `h` is after the shutdown. -/
structure Moment.Mirrors (d h : Moment) : Prop extends d.state.Parted h.state where
  control : Control.Mirrors d.thread.control h.thread.control
  frames : List.Forall₂ Frame.Mirrors d.thread.frames h.thread.frames

section Steps

variable {d h : State} {ahead below : List Frame}

theorem Move.mirrors_answer (parted : d.Parted h)
    (frames : List.Forall₂ Frame.Mirrors ahead below) (answer other : Answer) :
    ((Move.answer d answer).onto ahead).Mirrors ((Move.answer h other).onto below) :=
  ⟨parted, .returned answer other, frames⟩

/-- An action of a hook that does not use the dispatcher comes to the same. -/
theorem State.mirrors_act (parted : d.Parted h) (frames : List.Forall₂ Frame.Mirrors ahead below)
    (scope : Option Scope) {action : Action} (detached : action.isDetached = true) :
    ((d.act scope action).onto ahead).Mirrors ((h.act scope action).onto below) := by
  cases action with
  | slot =>
      cases scope with
      | none => exact Move.mirrors_answer parted frames _ _
      | some scope => exact Move.mirrors_answer parted frames _ _
  | fail error =>
      cases scope with
      | none => exact Move.mirrors_answer parted frames _ _
      | some scope => exact ⟨parted, .failed error, frames⟩
  | complete slot status =>
      simp only [act, completeSlot, parted.alike.device?, parted.alike.hasSlot]
      split
      · exact Move.mirrors_answer parted frames _ _
      split
      · exact ⟨parted, .complete slot status, frames⟩
      · exact Move.mirrors_answer parted frames _ _
  | finish position status =>
      simp only [act, finish, parted.alike.running]
      split
      · exact Move.mirrors_answer parted frames _ _
      · exact ⟨parted, .complete _ _, .cons (.answer _) frames⟩
  | conduct name conduct =>
      simp only [act, setConduct, parted.alike.device?]
      split
      · exact Move.mirrors_answer parted frames _ _
      · exact Move.mirrors_answer (parted.modifyDevice name _) frames _ _
  | state => exact Move.mirrors_answer parted frames _ _
  | tryOutcome id =>
      refine Move.mirrors_answer (parted.beside ?_ ?_) frames _ _
      · exact beside_of_pending (d.tryOutcome_eq id)
      · exact beside_of_pending (h.tryOutcome_eq id)
  | poll id =>
      refine Move.mirrors_answer (parted.beside ?_ ?_) frames _ _
      · exact beside_of_pending (d.poll_eq id)
      · exact beside_of_pending (h.poll_eq id)
  | wait id =>
      refine Move.mirrors_answer (parted.beside ?_ ?_) frames _ _
      · exact beside_of_pending (d.wait_eq id)
      · exact beside_of_pending (h.wait_eq id)
  | cancel id =>
      exact Move.mirrors_answer (parted.beside (d.beside_cancel id) (h.beside_cancel id)) frames _ _
  | cancelPending id =>
      exact Move.mirrors_answer
        (parted.beside (d.beside_cancelPending id) (h.beside_cancelPending id)) frames _ _
  | isCancelled id => exact Move.mirrors_answer parted frames _ _
  | forget id =>
      refine Move.mirrors_answer (parted.beside ?_ ?_) frames _ _
      · exact beside_of_pending ⟨_, rfl⟩
      · exact beside_of_pending ⟨_, rfl⟩
  | _ => cases detached

/-- A completion that comes in runs the same hook. -/
theorem State.mirrors_followUp (parted : d.Parted h)
    (frames : List.Forall₂ Frame.Mirrors ahead below) (slot : SlotId) (status : Status) :
    ((d.followUp slot status).onto ahead).Mirrors ((h.followUp slot status).onto below) := by
  have same := congrArg Slot.continuation (parted.alike.slot slot)
  simp only [Slot.reattached] at same
  have relieved : (d.relieved slot).Parted (h.relieved slot) := by
    unfold relieved
    exact parted.modifySlot slot (fun _ => rfl) (fun _ => rfl) (fun _ running => ⟨running, rfl⟩)
      fun _ _ left => by cases left
  cases left : (h.slot slot).continuation with
  | none =>
      rw [followUp, followUp, same, left]
      exact Move.mirrors_answer relieved frames _ _
  | some continuation =>
      have detached := parted.detached.slot left
      cases continuation with
      | scripted id script => cases detached
      | request id number complete =>
          rw [followUp_request left, followUp_request (same.trans left)]
          split
          · exact ⟨relieved.beside (beside_note _ _) (beside_note _ _), .script _ _ detached,
              .cons (.collecting slot number) frames⟩
          · exact Move.mirrors_answer (relieved.settle_release _ _ _) frames _ _

/-- The calls of the two come to the same. -/
theorem Call.mirrors_step {call other : Call} (parted : d.Parted h)
    (control : Control.Mirrors (.call call) (.call other))
    (frames : List.Forall₂ Frame.Mirrors ahead below) (attached : h.Attached)
    (delivered : ∀ slot status, other = .complete slot status → (h.slot slot).running = true) :
    ((call.step d).onto ahead).Mirrors ((other.step h).onto below) := by
  cases control with
  | act scope action detached => exact State.mirrors_act parted frames scope detached
  | script scope rest detached =>
      cases rest with
      | nil => exact Move.mirrors_answer parted frames _ _
      | cons action rest =>
          obtain ⟨first, rest⟩ := Bool.and_eq_true_iff.mp detached
          exact ⟨parted, .act _ action first, .cons (.script scope _ _ rest) frames⟩
  | complete slot status =>
      have running : (d.slot slot).running = true :=
        (congrArg Slot.running (parted.alike.slot slot)).trans (delivered slot status rfl)
      have reaches {s : State} (attached : (s.slot slot).attached = true) :
          ((s.modifySlot slot fun slot =>
            { slot with output := slot.input, running := false }).slot slot).attached = true := by
        rcases s.slot_modifySlot_cases slot slot
          (fun slot => { slot with output := slot.input, running := false }) (by intro; rfl)
          with same | ⟨-, same⟩
        · rw [same, attached]
        · rw [same, attached]
      simp only [step, State.complete, reaches (parted.reached slot running),
        reaches (attached.slot slot), if_true]
      have stopped : State.Parted
          (d.modifySlot slot fun slot => { slot with output := slot.input, running := false })
          (h.modifySlot slot fun slot => { slot with output := slot.input, running := false }) :=
        parted.modifySlot slot (fun _ => rfl) (fun _ => rfl)
          (fun _ running => Bool.noConfusion running) fun _ _ left => left
      exact ⟨stopped, .notify slot status, frames⟩
  | notify slot status =>
      have alive : h.phase ≠ .dropped := by simp [parted.ended]
      simp only [step, State.notify, parted.gone, alive, if_true, if_false]
      have told : State.Parted
          (d.modifySlot slot fun slot => { slot with pinned := false, last := status })
          (h.modifySlot slot fun slot => { slot with pinned := false, last := status }) :=
        parted.modifySlot slot (fun _ => rfl) (fun _ => rfl) (fun _ running => ⟨running, rfl⟩)
          fun _ _ left => left
      exact ⟨told, .followUp slot status, .cons (.parting slot _) frames⟩
  | followUp slot status => exact State.mirrors_followUp parted frames slot status

/-- So do the frames that wait. -/
theorem Frame.mirrors_resume {frame other : Frame} {signal handed : Signal} (parted : d.Parted h)
    (control : Control.Mirrors (.signal signal) (.signal handed)) (waits : frame.Mirrors other)
    (frames : List.Forall₂ Frame.Mirrors ahead below) (distinct : (d.slots.map Slot.id).Nodup)
    (done : ∀ slot, other = .completing slot →
      (h.slot slot).running = false ∧ (h.slot slot).continuation = none) :
    ((frame.resume d signal).onto ahead).Mirrors ((other.resume h handed).onto below) := by
  cases waits with
  | script scope action rest detached =>
      cases control with
      | returned answer other =>
          exact ⟨parted.beside (d.beside_note _) (h.beside_note _),
            .script scope rest detached, frames⟩
      | failed error =>
          exact ⟨parted.beside (d.beside_note _) (h.beside_note _), .failed error, frames⟩
  | answer given =>
      cases control with
      | returned answer other => exact Move.mirrors_answer parted frames _ _
      | failed error => exact ⟨parted, .failed error, frames⟩
  | collecting slot number =>
      have same : d.collected slot number = h.collected slot number := by
        have output := congrArg Slot.output (parted.alike.slot slot)
        simp only [Slot.reattached] at output
        simp only [State.collected, output]
      cases control with
      | returned answer other =>
          simp only [resume, same]
          exact Move.mirrors_answer (parted.settle_release _ _ _) frames _ _
      | failed error => exact Move.mirrors_answer (parted.settle_release _ _ _) frames _ _
  | parting slot held =>
      obtain ⟨still, none⟩ := done slot rfl
      have left : (if held then d.detach slot else d).Parted h := by
        cases held with
        | false => exact parted
        | true => exact parted.detach still none distinct
      have ended : h.serving = false := by simp [State.serving, parted.ended]
      cases control with
      | returned answer other =>
          simp only [resume, ended, Bool.false_eq_true, if_false]
          exact Move.mirrors_answer left frames _ _
      | failed error =>
          simp only [resume, ended, Bool.false_eq_true, if_false]
          exact Move.mirrors_answer left frames _ _

end Steps

/-! ### Runs -/

theorem Control.Mirrors.of_call {control : Control} {other : Call}
    (mirrors : control.Mirrors (.call other)) : ∃ call, control = .call call := by
  cases mirrors <;> exact ⟨_, rfl⟩

theorem Control.Mirrors.of_signal {control : Control} {handed : Signal}
    (mirrors : control.Mirrors (.signal handed)) : ∃ signal, control = .signal signal := by
  cases mirrors <;> exact ⟨_, rfl⟩

section Runs

variable {backends : List Backend} {priorities : List Preference} {s : State}
  {past : List Moment} {d h after : Moment}

/-- Where completions come only from executing slots, a moment after the shutdown that is
mirrored is that of a run of requests. -/
theorem Moment.Mirrors.faithful (mirrors : d.Mirrors h)
    (delivered : ∀ slot status, h.thread.control = .call (.complete slot status) →
      (h.state.slot slot).running = true) : h.Faithful := by
  have control := mirrors.control
  refine ⟨⟨delivered, fun scope action same => ?_⟩, fun slot same => ?_⟩
  · rw [same] at control
    generalize d.thread.control = first at control
    cases control with
    | act _ _ detached => exact Action.isGentle_of_isDetached detached
  · rw [same] at control
    generalize d.thread.control = first at control
    cases control

/-- A run after the drop keeps pace with the one after the shutdown. -/
theorem Moment.Mirrors.step (built : (construct backends priorities).result = .ok s)
    (run : Run (.initial s) past h) (faithful : ∀ m ∈ past, m.Faithful) (mirrors : d.Mirrors h)
    (distinct : (d.state.slots.map Slot.id).Nodup)
    (delivered : ∀ slot status, h.thread.control = .call (.complete slot status) →
      (h.state.slot slot).running = true) (above : h.Above []) (step : h.Step after) :
    ∃ next, d.Above [] ∧ d.Step next ∧ next.Mirrors after := by
  have there : h.state.phase ≠ .dropped := by simp [mirrors.ended]
  obtain ⟨u, control, ahead⟩ := d
  rcases above.cases step with
    ⟨t, other, below, rfl, rfl⟩ | ⟨t, handed, other, below, rfl, rfl⟩
  · obtain ⟨call, rfl⟩ := mirrors.control.of_call
    refine ⟨_, ⟨ahead, by simp, fun _ => ⟨call, rfl⟩⟩, .call u call ahead, ?_⟩
    refine Call.mirrors_step mirrors.toParted mirrors.control mirrors.frames
      ((run.linked built).attached there) ?_
    rintro slot status rfl
    exact delivered slot status rfl
  · obtain ⟨signal, rfl⟩ := mirrors.control.of_signal
    have frames : List.Forall₂ Frame.Mirrors ahead (other :: (below ++ [])) := mirrors.frames
    obtain ⟨frame, ahead, waits, others, rfl⟩ := List.forall₂_cons_right_iff.mp frames
    refine ⟨_, ⟨frame :: ahead, by simp, nofun⟩, .resume u signal frame ahead, ?_⟩
    refine Frame.mirrors_resume mirrors.toParted mirrors.control waits others distinct ?_
    rintro slot rfl
    obtain ⟨regular, orderly⟩ := run.regular built faithful
    obtain ⟨still, apart⟩ := (run.sound built orderly).exclusive.apart_of_completing rfl
    refine ⟨still, ?_⟩
    by_contra left
    rcases (run.laden built faithful there).2 slot left with running | unit | none
    · rw [still] at running
      cases running
    · exact apart unit
    · cases none

/-- All that a thread does after the shutdown, it does after the drop. -/
theorem Moment.Mirrors.extent {passed : List Moment} {signal : Signal} {last : Moment}
    (built : (construct backends priorities).result = .ok s) (run : Run (.initial s) past h)
    (faithful : ∀ m ∈ past, m.Faithful) (mirrors : d.Mirrors h) (sturdy : d.Sturdy)
    (extent : h.Extent [] passed signal last)
    (delivered : ∀ m ∈ passed, ∀ slot status,
      m.thread.control = .call (.complete slot status) → (m.state.slot slot).running = true) :
    (∀ m ∈ passed, m.Faithful) ∧ ∃ passed' signal' last', d.Extent [] passed' signal' last'
      ∧ List.Forall₂ Mirrors passed' passed ∧ last'.Mirrors last := by
  induction passed generalizing past d h with
  | nil =>
      rcases extent.cases with ⟨-, rfl, back⟩ | ⟨after, rest, none, -⟩
      · obtain ⟨u, control, ahead⟩ := d
        have control' := mirrors.control
        have frames := mirrors.frames
        rw [back] at control' frames
        obtain ⟨signal', rfl⟩ := control'.of_signal
        obtain rfl : ahead = [] := List.forall₂_nil_right_iff.mp frames
        exact ⟨List.forall_mem_nil _, [], signal', _, ⟨.start, List.forall_mem_nil _, rfl⟩, .nil,
          mirrors⟩
      · cases none
  | cons m rest ih =>
      rcases extent.cases with ⟨none, -⟩ | ⟨after, rest', same, above, step, onward⟩
      · cases none
      · obtain ⟨rfl, rfl⟩ := List.cons.inj same
        have here := delivered m List.mem_cons_self
        obtain ⟨next, above', step', mirrors'⟩ :=
          mirrors.step built run faithful sturdy.steady.distinct here above step
        have among : ∀ other ∈ past ++ [m], other.Faithful := by
          intro other mem
          rcases List.mem_append.mp mem with mem | mem
          · exact faithful other mem
          · rw [List.mem_singleton.mp mem]
            exact mirrors.faithful here
        obtain ⟨all, passed', signal', last', extent', pairs, final⟩ :=
          ih (run.next step) among mirrors' (sturdy.step step') onward
            fun other mem => delivered other (List.mem_cons_of_mem _ mem)
        refine ⟨?_, d :: passed', signal', last', extent'.cons above' step',
          .cons mirrors pairs, final⟩
        intro other mem
        rcases List.mem_cons.mp mem with rfl | mem
        · exact mirrors.faithful here
        · exact all other mem

/-- What comes in without using the dispatcher. -/
def Arrival.isDetached : Arrival → Bool
  | .operation action => action.isDetached
  | .completion _ _ => true

/-- It begins in the same way after the drop and after the shutdown. -/
theorem State.Parted.begins {d h : State} (parted : d.Parted h) {arrival : Arrival}
    (detached : arrival.isDetached = true) : (d.begins arrival).Mirrors (h.begins arrival) := by
  cases arrival with
  | operation action => exact ⟨parted, .act none action detached, .nil⟩
  | completion slot status =>
      simp only [State.begins, parted.alike.due]
      split
      · refine ⟨⟨parted.gone, parted.ended, ?_, parted.reached.of_slots rfl,
          parted.detached.of_mem fun slot mem _ left => ⟨slot, mem, left⟩⟩,
          .complete slot status, .nil⟩
        have alike := parted.alike
        exact ⟨alike.devices, alike.slots, alike.requests, rfl⟩
      · exact ⟨parted, .act none _ rfl, .nil⟩

/-- A run from a moment between operations on, until all of this has come in. -/
structure State.Side (s : State) (signal : Signal) (arrivals : List Arrival)
    (passed : List Moment) (last : Moment) : Prop where
  run : Run ⟨s, ⟨.signal signal, []⟩⟩ passed last
  courses : passed.filter Moment.isBusy = s.courses arrivals
  final : last.state = (s.arriveAll arrivals).1
  atRest : last.AtRest

/-- Whatever comes in goes on in the same way after both. -/
theorem Moment.Mirrors.courses {d h : State} {signal handed : Signal} {arrivals : List Arrival}
    (built : (construct backends priorities).result = .ok s)
    (run : Run (.initial s) past ⟨h, ⟨.signal handed, []⟩⟩)
    (faithful : ∀ m ∈ past, m.Faithful)
    (mirrors : Mirrors ⟨d, ⟨.signal signal, []⟩⟩ ⟨h, ⟨.signal handed, []⟩⟩)
    (steady : d.Steady)
    (detached : ∀ arrival ∈ arrivals, arrival.isDetached = true)
    (delivered : ∀ m ∈ h.courses arrivals, ∀ slot status,
      m.thread.control = .call (.complete slot status) → (m.state.slot slot).running = true) :
    ∃ ahead passed final last, d.Side signal arrivals ahead final
      ∧ h.Side handed arrivals passed last
      ∧ List.Forall₂ Mirrors ahead passed ∧ final.Mirrors last
      ∧ ∀ m ∈ passed, m.Faithful := by
  induction arrivals generalizing past d h signal handed with
  | nil =>
      exact ⟨[], [], _, _, ⟨.start, rfl, rfl, signal, rfl⟩, ⟨.start, rfl, rfl, handed, rfl⟩,
        .nil, mirrors, List.forall_mem_nil _⟩
  | cons arrival rest ih =>
      have delivered : ∀ m ∈ (h.begins arrival).course ++ (h.arrive arrival).1.courses rest,
          ∀ slot status, m.thread.control = .call (.complete slot status) →
            (m.state.slot slot).running = true := delivered
      have idle : Moment.Faithful ⟨h, ⟨.signal handed, []⟩⟩ :=
        ⟨⟨nofun, nofun⟩, nofun⟩
      obtain ⟨handed', -, extent⟩ := (run.steady built).extent arrival
      have begun := run.next (h.step_begins handed arrival)
      obtain ⟨all, passed', signal', last', extent', pairs, final⟩ :=
        (mirrors.toParted.begins (detached arrival List.mem_cons_self)).extent built begun
          (by
            intro m mem
            rcases List.mem_append.mp mem with mem | mem
            · exact faithful m mem
            · rw [List.mem_singleton.mp mem]
              exact idle)
          (steady.begins arrival) extent fun m mem => delivered m (List.mem_append_left _ mem)
      obtain ⟨same, passes⟩ :=
        (steady.begins arrival).finish_eq (d.above_begins arrival) extent'
      obtain ⟨t, thread⟩ := last'
      obtain rfl : thread = ⟨.signal signal', []⟩ := extent'.back
      obtain rfl : (d.arrive arrival).1 = t := congrArg Prod.fst same
      obtain ⟨ahead, passed, final', last, side, side', pairs', mirrors', all'⟩ :=
        ih (begun.append extent.run) (by
            intro m mem
            rcases List.mem_append.mp mem with mem | mem
            · rcases List.mem_append.mp mem with mem | mem
              · exact faithful m mem
              · rw [List.mem_singleton.mp mem]
                exact idle
            · exact all m mem)
          final (steady.arrive arrival)
            (fun arrival mem => detached arrival (List.mem_cons_of_mem _ mem))
          fun m mem => delivered m (List.mem_append_right _ mem)
      refine ⟨⟨d, ⟨.signal signal, []⟩⟩ :: (passed' ++ ahead),
        ⟨h, ⟨.signal handed, []⟩⟩ :: ((h.begins arrival).course ++ passed), final', last,
        ⟨?_, ?_, side.final, side.atRest⟩, ⟨?_, ?_, side'.final, side'.atRest⟩,
        .cons mirrors (List.rel_append pairs pairs'), mirrors', ?_⟩
      · exact (Run.single (d.step_begins signal arrival)).append (extent'.run.append side.run)
      · rw [List.filter_cons_of_neg (by simp [Moment.isBusy]), List.filter_append,
          extent'.filter_isBusy, side.courses, ← passes]
        rfl
      · exact (Run.single (h.step_begins handed arrival)).append (extent.run.append side'.run)
      · rw [List.filter_cons_of_neg (by simp [Moment.isBusy]), List.filter_append,
          extent.filter_isBusy, side'.courses]
        rfl
      · intro m mem
        rcases List.mem_cons.mp mem with rfl | mem
        · exact idle
        · rcases List.mem_append.mp mem with mem | mem
          · exact all m mem
          · exact all' m mem

/-! ### The drop and the shutdown themselves -/

/-- What is kept for callers makes no difference to a shutdown. -/
theorem State.alike_shutdown {d h : State} (alike : d.Alike h) (queue : d.queue = h.queue)
    (phase : d.phase = h.phase) : d.shutdown.Alike h.shutdown := by
  have same : d.serving = h.serving := by rw [State.serving, phase, ← State.serving]
  cases serving : h.serving with
  | true =>
      simp only [State.shutdown, same, serving, if_true, queue]
      exact Alike.foldl_dropWork h.queue ⟨alike.devices, alike.slots, alike.requests, alike.due⟩
  | false => simpa only [State.shutdown, same, serving, Bool.false_eq_true, if_false] using alike

theorem State.drop_eq (t : State) (there : t.phase ≠ .dropped) :
    t.drop.1 = ({ { t with pending := t.pending.filter fun entry => !entry.2.awaited }.shutdown with
      phase := .dropped } : State).detachUnpinned := by
  simp only [State.drop]

/-- Slots that are not pinned are detached without any other change, if none of them holds a
continuation. -/
theorem State.alike_detachUnpinned {u : State} (distinct : (u.slots.map Slot.id).Nodup)
    (free : ∀ slot ∈ u.slots, slot.pinned = false → slot.continuation = none) :
    u.detachUnpinned.Alike u ∧ ∀ slot, (u.slot slot).pinned = true →
      (u.detachUnpinned.slot slot).attached = (u.slot slot).attached := by
  refine @detachUnpinned_induction_of_mem (fun v => v.Alike u ∧ ∀ slot,
    (u.slot slot).pinned = true → (v.slot slot).attached = (u.slot slot).attached) u
    ⟨.refl u, fun _ _ => rfl⟩ ?_
  rintro v slot mem unpinned ⟨alike, stays⟩
  have own : u.slot slot.id = slot := slot_eq_of_mem distinct mem
  have none : (v.slot slot.id).continuation = none := by
    have left := congrArg Slot.continuation (alike.slot slot.id)
    simp only [Slot.reattached, own] at left
    rw [left]
    exact free slot mem unpinned
  refine ⟨(alike_detach none (alike.slotIds ▸ distinct)).trans alike, fun other pinned => ?_⟩
  have differs : other ≠ slot.id := by
    rintro rfl
    rw [own, unpinned] at pinned
    cases pinned
  rw [v.attached_detach differs]
  exact stays other pinned

/-- Between operations of a run of requests, a drop leaves what a shutdown leaves. -/
theorem Run.parted {t : State} {signal : Signal}
    (built : (construct backends priorities).result = .ok s)
    (run : Run (.initial s) past ⟨t, ⟨.signal signal, []⟩⟩)
    (faithful : ∀ m ∈ past, m.Faithful)
    (there : t.phase ≠ .dropped) (detached : t.Detached) : t.drop.1.Parted t.shutdown := by
  have moored (slot : SlotId) := run.pinned_iff built faithful ⟨signal, rfl⟩ there slot
  have distinct : (t.slots.map Slot.id).Nodup := (run.grounded built).distinct
  -- The state of which the slots are detached that are not pinned.
  obtain ⟨u, dropped, alike, slots⟩ : ∃ u : State, t.drop.1 = u.detachUnpinned
      ∧ u.Alike t.shutdown ∧ u.slots = t.slots := by
    have same := State.alike_shutdown
      (d := { t with pending := t.pending.filter fun entry => !entry.2.awaited }) (h := t)
      ⟨rfl, rfl, rfl, rfl⟩ rfl rfl
    exact ⟨_, t.drop_eq there, ⟨same.devices, same.slots, same.requests, same.due⟩,
      State.slots_shutdown _⟩
  have found (slot : SlotId) : u.slot slot = t.slot slot := by simp only [State.slot, slots]
  obtain ⟨alike', stays⟩ := State.alike_detachUnpinned (u := u) (slots ▸ distinct) (by
    intro slot mem free
    have own : t.slot slot.id = slot := State.slot_eq_of_mem distinct (slots ▸ mem)
    by_contra left
    have pinned := (moored slot.id).1.mpr ((moored slot.id).2 (own.symm ▸ left))
    rw [own, free] at pinned
    cases pinned)
  rw [← dropped] at alike' stays
  refine ⟨t.phase_drop, ?_, alike'.trans alike, fun slot running => ?_, ?_⟩
  · rcases t.shutdown_eq with ⟨ended, eq⟩ | ⟨-, requests, eq⟩
    · rw [eq]
      cases phase : t.phase with
      | serving => simp [State.serving, phase] at ended
      | shutDown => rfl
      | dropped => exact absurd phase there
    · rw [eq]
  · have executes := congrArg Slot.running (alike'.slot slot)
    simp only [Slot.reattached] at executes
    rw [executes, found] at running
    have pinned := (moored slot).1.mpr running
    rw [stays slot (found slot ▸ pinned), found]
    exact ((run.linked built).attached there).slot slot
  · exact detached.of_mem fun slot mem _ left => ⟨slot, t.slots_shutdown ▸ mem, left⟩

end Runs

end SlotDispatch
