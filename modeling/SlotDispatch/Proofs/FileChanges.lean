import SlotDispatch.Proofs.Files
import SlotDispatch.Proofs.Stages

/-!
How the file of a request follows the changes of a state. A continuation that is replaced
or cleared, a slot that is detached and a queue that is destroyed leave every file
consistent with the history it belonged to.
-/

namespace SlotDispatch

namespace State

/-- The file of request `n`, given what is found of it outside of the state. -/
def file (s : State) (n : Nat) (waiting : Nat) (traces : List Frame) : File :=
  ⟨waiting, traces, s.keptBy n, s.requests[n]?⟩

variable {s t : State} {n waiting : Nat} {traces : List Frame} {history : List Happening}

theorem SameFiles.file (same : SameFiles s t) (n waiting : Nat) (traces : List Frame) :
    t.file n waiting traces = s.file n waiting traces := by
  rw [State.file, State.file, same.keptBy, same.sameRequests]

/-! ### Requests that are written to -/

theorem file_modifyRequest (s : State) (n : Nat) (change : Request → Request) (waiting : Nat)
    (traces : List Frame) : (s.modifyRequest n change).file n waiting traces
      = ⟨waiting, traces, s.keptBy n, s.requests[n]?.map change⟩ := by
  rw [file, requests_modifyRequest, if_pos rfl]
  rfl

/-- What is written to one request shows in no other. -/
theorem file_modifyRequest_of_ne {number : Nat} (differs : number ≠ n) (s : State)
    (change : Request → Request) :
    (s.modifyRequest number change).file n waiting traces = s.file n waiting traces := by
  rw [file, requests_modifyRequest, if_neg differs]
  rfl

theorem file_settle_release (s : State) (n : Nat) (outcome : Outcome) (holder : Holder) :
    ((s.settle n outcome).release n holder).file n waiting traces
      = ⟨waiting, traces, s.keptBy n,
        s.requests[n]?.map fun request => (request.settle outcome).release holder⟩ := by
  rw [release, file_modifyRequest, settle, requests_modifyRequest, if_pos rfl, Option.map_map]
  rfl

theorem file_settle_release_of_ne {number : Nat} (differs : number ≠ n) (s : State)
    (outcome : Outcome) (holder : Holder) :
    ((s.settle number outcome).release number holder).file n waiting traces
      = s.file n waiting traces := by
  rw [release, file_modifyRequest_of_ne differs, settle, file_modifyRequest_of_ne differs]

/-! ### Continuations that are destroyed -/

/-- What was left on a slot is replaced by something that is not of the request. -/
theorem consistent_replace {slot : SlotId} {change : Slot → Slot}
    (holds : Consistent n history (s.file n waiting traces))
    (distinct : (s.slots.map Slot.id).Nodup)
    (other : ∀ slot, (change slot).continuation.any (Continuation.ofRequest n) = false) :
    Consistent n history
      (((s.modifySlot slot change).dropContinuation (s.slot slot).continuation).file n waiting
        traces) := by
  have kept : ((s.modifySlot slot change).dropContinuation (s.slot slot).continuation).keptBy n
      = (s.keptBy n).filter (· ≠ slot) := by
    rw [keptBy_eq_leftovers, leftovers_dropContinuation, ← keptBy_eq_leftovers]
    exact keptBy_modifySlot s slot other
  have request : ((s.modifySlot slot change).dropContinuation
      (s.slot slot).continuation).requests[n]?
      = if slot ∈ s.keptBy n then s.requests[n]?.map (Request.release .continuation)
        else s.requests[n]? := by
    rw [requests_dropContinuation]
    simp only [mem_keptBy distinct]
    rfl
  rw [file, kept, request]
  exact holds.lose slot

theorem consistent_clearContinuation (holds : Consistent n history (s.file n waiting traces))
    (distinct : (s.slots.map Slot.id).Nodup) (slot : SlotId) :
    Consistent n history ((s.clearContinuation slot).file n waiting traces) :=
  consistent_replace holds distinct fun _ => rfl

theorem consistent_setContinuation (holds : Consistent n history (s.file n waiting traces))
    (distinct : (s.slots.map Slot.id).Nodup) (slot : SlotId) {continuation : Continuation}
    (other : continuation.ofRequest n = false) :
    Consistent n history ((s.setContinuation slot continuation).file n waiting traces) :=
  consistent_replace holds distinct fun _ => other

/-- A continuation of the request itself is left on its slot. -/
theorem file_setContinuation {slot : SlotId} {continuation : Continuation}
    (distinct : (s.slots.map Slot.id).Nodup) (present : s.hasSlot slot = true)
    (own : continuation.ofRequest n = true) (none : s.keptBy n = []) :
    (s.setContinuation slot continuation).file n waiting traces
      = ⟨waiting, traces, [slot], s.requests[n]?⟩ := by
  have kept : (s.setContinuation slot continuation).keptBy n = [slot] := by
    rw [keptBy_eq_leftovers, setContinuation, leftovers_dropContinuation, ← keptBy_eq_leftovers]
    exact keptBy_modifySlot_self distinct present (fun _ => rfl) (fun _ => own) none
  have stale : (s.slot slot).continuation.any (Continuation.ofRequest n) = false := by
    rw [← Bool.not_eq_true, ← mem_keptBy distinct, none]
    exact List.not_mem_nil
  have request : (s.setContinuation slot continuation).requests[n]? = s.requests[n]? := by
    rw [setContinuation, requests_dropContinuation, stale]
    rfl
  rw [file, kept, request]

/-! ### Slots that are forgotten -/

theorem slotIds_detach (s : State) (slot : SlotId) :
    (s.detach slot).slots.map Slot.id = s.slots.map Slot.id :=
  (undisturbed_detach s slot).slotIds

theorem consistent_detach (holds : Consistent n history (s.file n waiting traces))
    (distinct : (s.slots.map Slot.id).Nodup) (slot : SlotId) :
    Consistent n history ((s.detach slot).file n waiting traces) := by
  have same : SameFiles (s.clearContinuation slot) (s.detach slot) :=
    sameFiles_modifySlot _ slot fun _ => rfl
  rw [same.file]
  exact consistent_clearContinuation holds distinct slot

theorem consistent_detachUnpinned (holds : Consistent n history (s.file n waiting traces))
    (distinct : (s.slots.map Slot.id).Nodup) :
    Consistent n history (s.detachUnpinned.file n waiting traces) := by
  suffices (s.detachUnpinned.slots.map Slot.id).Nodup
      ∧ Consistent n history (s.detachUnpinned.file n waiting traces) from this.2
  refine @detachUnpinned_induction (fun t => (t.slots.map Slot.id).Nodup
    ∧ Consistent n history (t.file n waiting traces)) s ⟨distinct, holds⟩ ?_
  rintro t slot ⟨distinct, holds⟩
  constructor
  · rw [slotIds_detach]
    exact distinct
  · exact consistent_detach holds distinct slot

/-! ### Units of work that are destroyed -/

/-- Every unit of work that is destroyed is one less of its request. -/
theorem consistent_dropWork {work : Work}
    (holds : Consistent n history (s.file n ([work].countP (Work.ofRequest n) + waiting) traces)) :
    Consistent n history ((s.dropWork work).file n waiting traces) := by
  have kept : (s.dropWork work).keptBy n = s.keptBy n := by
    obtain ⟨requests, eq⟩ := s.dropWork_eq work
    rw [eq]
    rfl
  rw [file, kept, requests_dropWork]
  cases own : work.ofRequest n with
  | false =>
      have none : [work].countP (Work.ofRequest n) = 0 := by simp [own]
      rw [none, Nat.zero_add] at holds
      exact holds
  | true =>
      have one : [work].countP (Work.ofRequest n) = 1 := by simp [own]
      rw [one, Nat.add_comm] at holds
      exact holds.dropUnit

theorem consistent_foldl_dropWork (works : List Work) {s : State}
    (holds : Consistent n history (s.file n (works.countP (Work.ofRequest n) + waiting) traces)) :
    Consistent n history ((works.foldl dropWork s).file n waiting traces) := by
  induction works generalizing s with
  | nil =>
      rw [List.countP_nil, Nat.zero_add] at holds
      exact holds
  | cons work rest ih =>
      refine ih (consistent_dropWork ?_)
      rw [← Nat.add_assoc, ← List.countP_append]
      exact holds

/-- A shutdown destroys the queue. -/
theorem consistent_shutdown
    (holds : Consistent n history (s.file n (s.queue.countP (Work.ofRequest n) + waiting) traces)) :
    Consistent n history
      (s.shutdown.file n (s.shutdown.queue.countP (Work.ofRequest n) + waiting) traces) := by
  by_cases serving : s.serving = true
  · have emptied : s.shutdown.queue = [] := by
      rcases s.shutdown_eq with ⟨ended, -⟩ | ⟨-, requests, eq⟩
      · simp [ended] at serving
      · rw [eq]
    rw [emptied, List.countP_nil, Nat.zero_add]
    simp only [shutdown, serving, if_true]
    exact consistent_foldl_dropWork s.queue
      (s := { s with phase := .shutDown, priorities := [], queue := [] }) holds
  · have same : s.shutdown = s := by simp [shutdown, serving]
    rw [same]
    exact holds

/-- A drop destroys the queue as well, and what was left on slots that are not bound. -/
theorem consistent_drop (distinct : (s.slots.map Slot.id).Nodup)
    (holds : Consistent n history (s.file n (s.queue.countP (Work.ofRequest n) + waiting) traces)) :
    Consistent n history
      (s.drop.1.file n (s.drop.1.queue.countP (Work.ofRequest n) + waiting) traces) := by
  simp only [drop]
  split
  · exact holds
  · let filtered := { s with pending := s.pending.filter fun entry => !entry.2.awaited }
    let ended := { filtered.shutdown with phase := .dropped }
    have ids : (ended.slots.map Slot.id).Nodup := by
      have same : ended.slots.map Slot.id = s.slots.map Slot.id :=
        filtered.sameSlots_shutdown.slotIds
      rw [same]
      exact distinct
    have kept : Consistent n history
        (ended.file n (ended.queue.countP (Work.ofRequest n) + waiting) traces) :=
      consistent_shutdown (s := filtered) holds
    have queue : ended.detachUnpinned.queue = ended.queue :=
      ended.undisturbed_detachUnpinned.sameQueue
    change Consistent n history (ended.detachUnpinned.file n
      (ended.detachUnpinned.queue.countP (Work.ofRequest n) + waiting) traces)
    rw [queue]
    exact consistent_detachUnpinned kept ids

end State

end SlotDispatch
