import SlotDispatch.Proofs.FileSteps

/-!
Who writes to the buffers of a slot. Only a job that begins, a start and a completion do.
Everything else spares them (`State.Spares`), and only a first hook that returns leaves the
continuation of a request on a slot where there was none of it.
-/

namespace SlotDispatch

namespace State

/-- What a device knows of every slot: whether it executes, and what its buffers hold. -/
def executions (s : State) : List (SlotId × Bool × Option String × Option String) :=
  s.slots.map fun slot => (slot.id, slot.running, slot.input, slot.output)

/-- Two states in which devices know the same. -/
structure SameExecutions (s t : State) : Prop where
  same : t.executions = s.executions

namespace SameExecutions

variable {s t : State}

theorem running (same : SameExecutions s t) (slot : SlotId) :
    (t.slot slot).running = (s.slot slot).running := by
  have whole := view_slot_of_same same.same slot
  exact congrArg Prod.fst whole

theorem input (same : SameExecutions s t) (slot : SlotId) :
    (t.slot slot).input = (s.slot slot).input := by
  have whole := view_slot_of_same same.same slot
  exact congrArg (fun view => view.2.1) whole

theorem output (same : SameExecutions s t) (slot : SlotId) :
    (t.slot slot).output = (s.slot slot).output := by
  have whole := view_slot_of_same same.same slot
  exact congrArg (fun view => view.2.2) whole

end SameExecutions

/-- A change that leaves alone what devices know, and leaves the continuation of request `n` on
no slot where it was not. -/
structure Spares (n : Nat) (s t : State) : Prop extends SameExecutions s t where
  fewer : t.keptBy n ⊆ s.keptBy n

namespace Spares

variable {n : Nat} {s t u : State}

theorem trans (first : Spares n s t) (second : Spares n t u) : Spares n s u where
  same := second.same.trans first.same
  fewer _ mem := first.fewer (second.fewer mem)

theorem of_eq (same : t.slots = s.slots) : Spares n s t := by
  refine ⟨⟨?_⟩, ?_⟩
  · rw [executions, executions, same]
  · rw [keptBy, keptBy, same]
    exact List.Subset.refl _

end Spares

/-! ### Elementary changes -/

section Changes

variable {n : Nat} (s : State)

/-- A change of one slot that leaves no continuation of the request there. -/
theorem spares_modifySlot (id : SlotId) {change : Slot → Slot}
    (keeps : ∀ slot, ((change slot).id, (change slot).running, (change slot).input,
      (change slot).output) = (slot.id, slot.running, slot.input, slot.output))
    (fewer : ∀ slot, (change slot).continuation.any (Continuation.ofRequest n) = true →
      slot.continuation.any (Continuation.ofRequest n) = true) :
    Spares n s (s.modifySlot id change) := by
  refine ⟨⟨s.map_slots_modifySlot id keeps⟩, fun other mem => ?_⟩
  obtain ⟨changed, found, rfl⟩ := List.mem_map.mp mem
  obtain ⟨changed, left⟩ := List.mem_filter.mp found
  obtain ⟨slot, there, rfl⟩ := List.mem_map.mp changed
  split at left
  · next here =>
      rw [if_pos here, show (change slot).id = slot.id from congrArg Prod.fst (keeps slot)]
      exact List.mem_map_of_mem (List.mem_filter.mpr ⟨there, fewer slot left⟩)
  · next elsewhere =>
      rw [if_neg elsewhere]
      exact List.mem_map_of_mem (List.mem_filter.mpr ⟨there, left⟩)

theorem spares_dropContinuation (continuation : Option Continuation) :
    Spares n s (s.dropContinuation continuation) := by
  obtain ⟨requests, eq⟩ := s.dropContinuation_eq continuation
  rw [eq]
  exact .of_eq rfl

theorem spares_relieved (slot : SlotId) : Spares n s (s.relieved slot) := by
  apply s.spares_modifySlot slot
  · intro slot
    rfl
  · simp

theorem spares_clearContinuation (slot : SlotId) : Spares n s (s.clearContinuation slot) :=
  (s.spares_relieved slot).trans (spares_dropContinuation _ _)

/-- A continuation that is left on a slot is not that of another request. -/
theorem spares_setContinuation (slot : SlotId) {continuation : Continuation}
    (other : continuation.ofRequest n = false) :
    Spares n s (s.setContinuation slot continuation) := by
  refine Spares.trans ?_ (spares_dropContinuation _ _)
  apply s.spares_modifySlot slot
  · intro slot
    rfl
  · simp [other]

/-- After a continuation was left on a slot, that of the request is found there only if it is
this one, and elsewhere only where it was before. -/
theorem of_mem_keptBy_setContinuation {slot other : SlotId} {continuation : Continuation}
    (mem : other ∈ (s.setContinuation slot continuation).keptBy n) :
    other = slot ∧ continuation.ofRequest n = true ∨ other ≠ slot ∧ other ∈ s.keptBy n := by
  rw [keptBy_eq_leftovers, setContinuation, leftovers_dropContinuation,
    ← keptBy_eq_leftovers] at mem
  obtain ⟨changed, found, rfl⟩ := List.mem_map.mp mem
  obtain ⟨changed, left⟩ := List.mem_filter.mp found
  obtain ⟨old, there, rfl⟩ := List.mem_map.mp changed
  by_cases here : old.id = slot
  · rw [if_pos here] at left ⊢
    exact .inl ⟨here, left⟩
  · rw [if_neg here] at left ⊢
    exact .inr ⟨here, List.mem_map_of_mem (List.mem_filter.mpr ⟨there, left⟩)⟩

theorem sameExecutions_setContinuation (slot : SlotId) (continuation : Continuation) :
    SameExecutions s (s.setContinuation slot continuation) := by
  constructor
  have dropped := dropContinuation_eq
    (s.modifySlot slot fun slot => { slot with continuation := some continuation })
    (s.slot slot).continuation
  obtain ⟨requests, eq⟩ := dropped
  rw [setContinuation, eq]
  exact s.map_slots_modifySlot slot fun _ => rfl

theorem spares_detach (slot : SlotId) : Spares n s (s.detach slot) := by
  refine (s.spares_clearContinuation slot).trans ?_
  apply spares_modifySlot
  · intro slot
    rfl
  · exact fun _ left => left

theorem spares_shutdown : Spares n s s.shutdown := by
  obtain ⟨_, _, _, _, eq⟩ := s.shutdown_leaves
  rw [eq]
  exact .of_eq rfl

theorem spares_drop : Spares n s s.drop.1 := by
  simp only [drop]
  split
  · exact .of_eq rfl
  · have filtered : Spares n s
        { s with pending := s.pending.filter fun entry => !entry.2.awaited } :=
      .of_eq rfl
    have ended := filtered.trans (spares_shutdown _)
    apply detachUnpinned_induction
    · exact ended.trans (.of_eq rfl)
    · intro t slot spares
      exact spares.trans (spares_detach t slot)

/-- What comes after a start that was granted is not written to buffers yet. -/
theorem slots_launch (slot : SlotId) (conduct : Conduct) :
    (s.launch slot conduct).state.slots = s.slots := by
  simp only [launch]
  split <;> rfl

end Changes

/-- Actions spare the buffers. -/
theorem Acts.spares {n : Nat} {s : State} {scope : Option Scope} {action : Action} {move : Move}
    (acts : s.Acts scope action move) : Spares n s move.state := by
  cases acts with
  | continued scope' id script => exact s.spares_setContinuation _ rfl
  | shutDown => exact s.spares_shutdown
  | _ => exact .of_eq rfl

end State

/-! ### Calls and frames -/

section Steps

open State

variable {n : Nat} (s : State)

/-- Whether a call may write to the buffers of its slot, or let it execute. -/
def Call.writes : Call → Bool
  | .perform _ _ | .start _ | .complete _ _ => true
  | _ => false

/-- The other calls spare the buffers. -/
theorem Call.spares_step {call : Call} (reads : call.writes = false) :
    Spares n s (call.step s).state := by
  have changes := call.changes s
  generalize (call.step s).state = t at changes ⊢
  cases changes with
  | acted scope action => exact (s.acts scope action).spares
  | bound slot | notified slot | freed slot =>
      exact s.spares_modifySlot slot (by intro; rfl) fun _ left => left
  | relieved slot => exact (s.spares_relieved slot).trans (.of_eq rfl)
  | discarded slot => exact s.spares_clearContinuation slot
  | performed | loaded | refused | granted | completed => cases reads
  | _ => exact .of_eq rfl

/-- A frame that is resumed spares the buffers, unless it waits for a first hook. -/
theorem Frame.spares_resume {frame : Frame} (signal : Signal)
    (other : ∀ slot id number complete, frame ≠ .preparing slot id number complete) :
    Spares n s (frame.resume s signal).state := by
  have changes := frame.changes s signal
  generalize (frame.resume s signal).state = t at changes ⊢
  cases changes with
  | registered slot id number complete => exact absurd rfl (other slot id number complete)
  | detached slot => exact s.spares_detach slot
  | _ => exact .of_eq rfl

end Steps

end SlotDispatch
