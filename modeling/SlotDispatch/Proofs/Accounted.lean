import SlotDispatch.Proofs.SlotInvariant
import SlotDispatch.Proofs.Steps

/-!
No slot goes astray. `State.Accounted` says that every slot is idle, executes or is owned;
the ways in which slots move keep it so. It takes that completions reach the dispatcher,
which they do as long as no slot is detached (`State.Attached`).
-/

namespace SlotDispatch

namespace State

/-- Every slot is idle, executes or is owned. -/
def Accounted (s : State) (owners : List SlotId) : Prop :=
  ∀ slot : SlotId, s.hasSlot slot = true →
    slot.index ∈ s.idle slot.device ∨ (s.slot slot).running = true ∨ slot ∈ owners

/-- The completion of every slot reaches the dispatcher. -/
def Attached (s : State) : Prop := ∀ slot ∈ s.slots, slot.attached = true

/-! ### The ways of a slot -/

namespace Accounted

variable {s t : State} {slot : SlotId} {owners owners' : List SlotId}

theorem of_sameSlots (holds : s.Accounted owners) (same : SameSlots s t)
    (more : owners ⊆ owners') : t.Accounted owners' := by
  intro other there
  rw [same.hasSlot] at there
  rw [same.idle, same.slotRunning]
  exact (holds other there).imp_right (Or.imp_right (@more other))

theorem popped {name : String} {index : Nat} {rest : List Nat} (holds : s.Accounted owners)
    (idle : s.idle name = index :: rest) :
    (s.modifyDevice name fun device => { device with idle := rest }).Accounted
      (⟨name, index⟩ :: owners) := by
  intro other there
  by_cases same : other = ⟨name, index⟩
  · exact .inr (.inr (by simp [same]))
  rcases holds other there with mem | running | mem
  · refine .inl ?_
    rw [idle_modifyDevice s name (fun _ => rest)]
    split
    · next at' =>
        rw [at'.1, idle] at mem
        exact (List.mem_cons.mp mem).resolve_left fun first =>
          same (SlotId.eq_of_parts at'.1 first)
    · exact mem
  · exact .inr (.inl running)
  · exact .inr (.inr (List.mem_cons_of_mem _ mem))

/-- A change of one slot that keeps it executing, or whose slot is owned afterwards. -/
theorem modified {change : Slot → Slot} (holds : s.Accounted owners)
    (present : s.hasSlot slot = true) (keeps : ∀ slot, (change slot).id = slot.id)
    (settled : (change (s.slot slot)).running = true ∨ slot ∈ owners')
    (others : ∀ other ∈ owners, other = slot ∨ other ∈ owners') :
    (s.modifySlot slot change).Accounted owners' := by
  intro other there
  rw [hasSlot_modifySlot s keeps] at there
  rw [slot_modifySlot present keeps]
  by_cases same : other = slot
  · rw [if_pos same]
    rw [same]
    exact .inr settled
  · rw [if_neg same]
    exact (holds other there).imp_right (Or.imp_right fun mem =>
      (others other mem).resolve_left same)

theorem pushed (holds : s.Accounted (slot :: owners))
    (placed : (s.device? slot.device).isSome = true) : (s.pushIdle slot).Accounted owners := by
  intro other there
  have back (name : String) : (s.pushIdle slot).idle name
      = if name = slot.device then slot.index :: s.idle name else s.idle name := by
    rw [pushIdle, idle_modifyDevice s slot.device (slot.index :: ·)]
    simp [placed]
  rcases holds other there with mem | running | mem
  · refine .inl ?_
    rw [back]
    split
    · exact List.mem_cons_of_mem _ mem
    · exact mem
  · exact .inr (.inl running)
  · rcases List.mem_cons.mp mem with rfl | mem
    · refine .inl ?_
      rw [back, if_pos rfl]
      exact List.mem_cons_self
    · exact .inr (.inr mem)

end Accounted

/-! ### Slots that stay attached -/

theorem Attached.modifySlot {s : State} (attached : s.Attached) (id : SlotId)
    {change : Slot → Slot} (keeps : ∀ slot, (change slot).attached = slot.attached) :
    (s.modifySlot id change).Attached := by
  intro slot mem
  obtain ⟨old, there, rfl⟩ := List.mem_map.mp mem
  split
  · rw [keeps]
    exact attached old there
  · exact attached old there

theorem Attached.dropContinuation {s : State} (attached : s.Attached)
    (continuation : Option Continuation) : (s.dropContinuation continuation).Attached := by
  obtain ⟨requests, eq⟩ := s.dropContinuation_eq continuation
  rw [eq]
  exact attached

theorem Attached.setContinuation {s : State} (attached : s.Attached) (slot : SlotId)
    (continuation : Continuation) : (s.setContinuation slot continuation).Attached :=
  (attached.modifySlot slot (by intro; rfl)).dropContinuation _

theorem Attached.slot {s : State} (attached : s.Attached) (id : SlotId) :
    (s.slot id).attached = true := by
  simp only [State.slot]
  cases found : s.slots.find? fun candidate => candidate.id == id with
  | none => rfl
  | some slot => exact attached slot (List.mem_of_find?_eq_some found)

theorem Attached.act {s : State} {scope : Option Scope} {action : Action} {move : Move}
    (attached : s.Attached) (acts : s.Acts scope action move) : move.state.Attached := by
  cases acts with
  | continued scope' id script => exact attached.setContinuation _ _
  | shutDown =>
      obtain ⟨_, _, _, _, eq⟩ := s.shutdown_leaves
      simp only [Move.done, Move.answer, Move.signal, eq]
      exact attached
  | _ => exact attached

/-- No call detaches a slot. -/
theorem Attached.call {s : State} (attached : s.Attached) (call : Call) :
    (call.step s).state.Attached := by
  have changes := call.changes s
  generalize (call.step s).state = t at changes ⊢
  cases changes with
  | acted scope action => exact attached.act (s.acts scope action)
  | bound slot | loaded slot | granted slot | completed slot | notified slot | relieved slot
  | freed slot => exact attached.modifySlot slot (by intro; rfl)
  | discarded slot => exact (attached.modifySlot slot (by intro; rfl)).dropContinuation _
  | _ => exact attached

/-- A frame detaches a slot only if the dispatcher is gone. -/
theorem Attached.resume {s : State} (attached : s.Attached) {frame : Frame} (signal : Signal)
    (stays : ∀ slot kept, frame ≠ .parting slot kept) : (frame.resume s signal).state.Attached := by
  have changes := frame.changes s signal
  generalize (frame.resume s signal).state = t at changes ⊢
  cases changes with
  | registered slot id number complete =>
      exact Attached.setContinuation (s := s.modifyRequest number (Request.hold .continuation))
        attached _ _
  | detached slot => exact absurd rfl (stays slot true)
  | _ => exact attached

end State

end SlotDispatch
