import SlotDispatch.Proofs.Acts
import SlotDispatch.Proofs.SlotInvariant

/-!
How the elementary changes of a state change what it weighs, that is the scripts that wait in
its queue and on its slots: by what they change of one continuation.
-/

namespace SlotDispatch

namespace State

variable {s t : State}

/-- What the continuation of a slot weighs. -/
def waiting (n : Nat) (slot : Slot) : Nat := (slot.continuation.map (Continuation.weight n)).getD 0

/-- Two states that weigh the same. -/
theorem weight_congr (n : Nat) (queue : t.queue = s.queue)
    (slots : t.slots.map Slot.continuation = s.slots.map Slot.continuation) :
    t.weight n = s.weight n := by
  have continuations (s : State) :
      sumOf (fun slot => (slot.continuation.map (Continuation.weight n)).getD 0) s.slots
        = sumOf (fun continuation => (continuation.map (Continuation.weight n)).getD 0)
            (s.slots.map Slot.continuation) := by
    rw [sumOf_map]
  rw [weight, weight, queue, continuations, continuations, slots]

/-- A change of the slot at hand changes the weight of the state by what it changes of the
continuation. -/
theorem weight_modifySlot (n : Nat) {slot : SlotId} (distinct : (s.slots.map Slot.id).Nodup)
    (present : s.hasSlot slot = true) (change : Slot → Slot) :
    (s.modifySlot slot change).weight n + waiting n (s.slot slot)
      = s.weight n + waiting n (change (s.slot slot)) := by
  have sum := sumOf_modifySlot (waiting n) distinct present change
  have same : (s.modifySlot slot change).queue = s.queue := rfl
  unfold waiting at sum ⊢
  rw [weight, weight, same]
  omega

/-- A change that leaves all continuations leaves the weight. -/
theorem weight_modifySlot_of_same (n : Nat) (slot : SlotId) {change : Slot → Slot}
    (same : ∀ slot, (change slot).continuation = slot.continuation) :
    (s.modifySlot slot change).weight n = s.weight n := by
  refine weight_congr n rfl ?_
  simp only [modifySlot, List.map_map]
  refine List.map_congr_left fun found there => ?_
  simp only [Function.comp_apply]
  split
  · exact same found
  · rfl

theorem weight_dropContinuation (n : Nat) (s : State) (continuation : Option Continuation) :
    (s.dropContinuation continuation).weight n = s.weight n := by
  obtain ⟨requests, eq⟩ := s.dropContinuation_eq continuation
  rw [eq]
  rfl

/-- A slot that is not there holds no continuation. -/
theorem waiting_of_absent (n : Nat) {slot : SlotId} (absent : s.hasSlot slot = false) :
    waiting n (s.slot slot) = 0 := by
  rw [slot_of_absent absent]
  rfl

/-- What is taken off a slot makes the state lighter by as much. -/
theorem weight_taken (n : Nat) (distinct : (s.slots.map Slot.id).Nodup) (slot : SlotId) :
    (s.modifySlot slot fun slot => { slot with continuation := none }).weight n
      + waiting n (s.slot slot) = s.weight n := by
  cases present : s.hasSlot slot with
  | true => exact weight_modifySlot n distinct present _
  | false => rw [modifySlot_of_absent present, waiting_of_absent n present, Nat.add_zero]

theorem weight_clearContinuation_le (n : Nat) (distinct : (s.slots.map Slot.id).Nodup)
    (slot : SlotId) : (s.clearContinuation slot).weight n ≤ s.weight n := by
  have taken := weight_taken n distinct slot
  rw [clearContinuation, weight_dropContinuation]
  omega

/-- What is left on a slot makes the state heavier by no more. -/
theorem weight_setContinuation_le (n : Nat) (distinct : (s.slots.map Slot.id).Nodup)
    (slot : SlotId) (continuation : Continuation) :
    (s.setContinuation slot continuation).weight n ≤ s.weight n + continuation.weight n := by
  rw [setContinuation, weight_dropContinuation]
  cases present : s.hasSlot slot with
  | true =>
      have change := weight_modifySlot n distinct present fun slot =>
        { slot with continuation := some continuation }
      simp only [waiting, Option.map_some, Option.getD_some] at change
      omega
  | false =>
      rw [modifySlot_of_absent present]
      omega

theorem weight_detach_le (n : Nat) (distinct : (s.slots.map Slot.id).Nodup) (slot : SlotId) :
    (s.detach slot).weight n ≤ s.weight n := by
  rw [detach, weight_modifySlot_of_same n slot (by intro; rfl)]
  exact weight_clearContinuation_le n distinct slot

/-- A shutdown leaves no unit of work and every continuation. -/
theorem weight_shutdown_le (n : Nat) (s : State) : s.shutdown.weight n ≤ s.weight n := by
  rcases s.shutdown_eq with ⟨-, eq⟩ | ⟨-, requests, eq⟩
  · exact Nat.le_of_eq (congrArg (weight n) eq)
  · rw [eq]
    simp only [weight, sumOf_nil]
    omega

end State

end SlotDispatch
