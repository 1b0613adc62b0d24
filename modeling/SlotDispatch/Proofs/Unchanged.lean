import SlotDispatch.State.Lemmas
import SlotDispatch.Execution.Step

/-!
The two halves of a state that matter to scheduling: its slots, that is which of them are
idle, running or marked as bound (`SameSlots`), and its work, that is the phase, the
priority list and the queue (`SameWork`). Most of the elementary changes of a state leave
both undisturbed.
-/

namespace SlotDispatch

namespace State

/-- The idle slots of every device. -/
def pools (s : State) : List (String × List Nat) :=
  s.devices.map fun device => (device.name, device.idle)

/-- What is marked on every slot: whether it is running, and whether it is bound. -/
def marks (s : State) : List (SlotId × Bool × Bool) :=
  s.slots.map fun slot => (slot.id, slot.running, slot.bound)

/-- Two states whose slots are idle, running and bound alike. -/
structure SameSlots (s t : State) : Prop where
  samePools : t.pools = s.pools
  sameMarks : t.marks = s.marks

/-- Two states of one phase, with one priority list and one queue. -/
structure SameWork (s t : State) : Prop where
  samePhase : t.phase = s.phase
  samePriorities : t.priorities = s.priorities
  sameQueue : t.queue = s.queue

/-- Two states that are the same to scheduling. -/
structure Undisturbed (s t : State) : Prop extends SameSlots s t, SameWork s t

/-! ### What can be read off pools and marks -/

theorem idle_eq_pools (s : State) (name : String) :
    s.idle name = ((s.pools.find? fun pool => pool.1 == name).map Prod.snd).getD [] := by
  simp only [idle, device?, pools, List.find?_map, Function.comp_def, Option.map_map]
  cases s.devices.find? (fun device => device.name == name) <;> rfl

theorem device?_isSome_eq_pools (s : State) (name : String) :
    (s.device? name).isSome = (s.pools.find? fun pool => pool.1 == name).isSome := by
  simp only [device?, pools, List.find?_map, Function.comp_def, Option.isSome_map]

theorem hasSlot_eq_marks (s : State) (id : SlotId) :
    s.hasSlot id = s.marks.any fun mark => mark.1 == id := by
  simp [hasSlot, marks, List.any_map, Function.comp_def]

theorem running_eq_marks (s : State) :
    s.running = (s.marks.filter fun mark => mark.2.1).map Prod.fst := by
  simp only [running, marks, List.filter_map, List.map_map, Function.comp_def]

theorem slotIds_eq_marks (s : State) : s.slots.map Slot.id = s.marks.map Prod.fst := by
  simp only [marks, List.map_map, Function.comp_def]

theorem idle_of_samePools {s t : State} (same : t.pools = s.pools) (name : String) :
    t.idle name = s.idle name := by
  rw [idle_eq_pools, idle_eq_pools, same]

namespace SameSlots

variable {s t : State}

theorem idle (same : SameSlots s t) (name : String) : t.idle name = s.idle name :=
  idle_of_samePools same.samePools name

theorem device? (same : SameSlots s t) (name : String) :
    (t.device? name).isSome = (s.device? name).isSome := by
  rw [device?_isSome_eq_pools, device?_isSome_eq_pools, same.samePools]

theorem hasSlot (same : SameSlots s t) (id : SlotId) : t.hasSlot id = s.hasSlot id := by
  rw [hasSlot_eq_marks, hasSlot_eq_marks, same.sameMarks]

theorem slotRunning (same : SameSlots s t) (id : SlotId) :
    (t.slot id).running = (s.slot id).running := by
  have both := view_slot_of_same same.sameMarks id
  exact congrArg Prod.fst both

theorem slotBound (same : SameSlots s t) (id : SlotId) :
    (t.slot id).bound = (s.slot id).bound := by
  have both := view_slot_of_same same.sameMarks id
  exact congrArg Prod.snd both

theorem running (same : SameSlots s t) : t.running = s.running := by
  rw [running_eq_marks, running_eq_marks, same.sameMarks]

theorem slotIds (same : SameSlots s t) : t.slots.map Slot.id = s.slots.map Slot.id := by
  rw [slotIds_eq_marks, slotIds_eq_marks, same.sameMarks]

end SameSlots

theorem SameWork.serving {s t : State} (same : SameWork s t) : t.serving = s.serving := by
  rw [State.serving, State.serving, same.samePhase]

/-- A slot that can be taken is the first of the idle ones, and the others stay. -/
theorem popIdle_eq_some {s t : State} {name : String} {index : Nat}
    (popped : s.popIdle name = some (index, t)) :
    ∃ rest, s.idle name = index :: rest
      ∧ t = s.modifyDevice name fun device => { device with idle := rest } := by
  simp only [popIdle] at popped
  split at popped
  · simp at popped
  · next first rest shape =>
      simp only [Option.some.injEq, Prod.mk.injEq] at popped
      obtain ⟨rfl, rfl⟩ := popped
      exact ⟨rest, shape, rfl⟩

/-- A change of one slot neither adds nor removes any, nor changes their order. -/
theorem slotIds_modifySlot (s : State) (id : SlotId) {change : Slot → Slot}
    (keeps : ∀ slot, (change slot).id = slot.id) :
    (s.modifySlot id change).slots.map Slot.id = s.slots.map Slot.id :=
  s.map_slots_modifySlot id keeps

/-! ### Changes that disturb nothing -/

namespace Undisturbed

variable {s t u : State}

theorem refl (s : State) : Undisturbed s s := ⟨⟨rfl, rfl⟩, rfl, rfl, rfl⟩

theorem trans (first : Undisturbed s t) (second : Undisturbed t u) : Undisturbed s u where
  samePools := second.samePools.trans first.samePools
  sameMarks := second.sameMarks.trans first.sameMarks
  samePhase := second.samePhase.trans first.samePhase
  samePriorities := second.samePriorities.trans first.samePriorities
  sameQueue := second.sameQueue.trans first.sameQueue

end Undisturbed

/-- A change of one slot that leaves its marks alone. -/
theorem marks_modifySlot (s : State) (id : SlotId) {change : Slot → Slot}
    (keeps : ∀ slot : Slot, ((change slot).id, (change slot).running, (change slot).bound)
      = (slot.id, slot.running, slot.bound)) : (s.modifySlot id change).marks = s.marks :=
  s.map_slots_modifySlot id keeps

theorem undisturbed_modifySlot (s : State) (id : SlotId) (change : Slot → Slot)
    (keeps : ∀ slot : Slot, ((change slot).id, (change slot).running, (change slot).bound)
      = (slot.id, slot.running, slot.bound)) : Undisturbed s (s.modifySlot id change) :=
  ⟨⟨rfl, s.marks_modifySlot id keeps⟩, rfl, rfl, rfl⟩

/-- A unit of work that is destroyed takes its hold on a request with it, and nothing else. -/
theorem dropWork_eq (s : State) (work : Work) :
    ∃ requests, s.dropWork work = { s with requests } := by
  cases work with
  | scripted => exact ⟨s.requests, rfl⟩
  | request => exact ⟨_, rfl⟩

/-- Many units that are destroyed take their holds on requests with them, and nothing else. -/
theorem foldl_dropWork_eq (works : List Work) (s : State) :
    ∃ requests, works.foldl dropWork s = { s with requests } := by
  induction works generalizing s with
  | nil => exact ⟨s.requests, rfl⟩
  | cons work rest ih =>
      obtain ⟨dropped, eq⟩ := s.dropWork_eq work
      rw [List.foldl_cons, eq]
      exact ih { s with requests := dropped }

/-- A continuation that is destroyed takes its hold on a request with it, and nothing else. -/
theorem dropContinuation_eq (s : State) (continuation : Option Continuation) :
    ∃ requests, s.dropContinuation continuation = { s with requests } := by
  rcases continuation with - | ⟨id, script⟩ | ⟨id, number, complete⟩
  · exact ⟨s.requests, rfl⟩
  · exact ⟨s.requests, rfl⟩
  · exact ⟨_, rfl⟩

theorem undisturbed_dropContinuation (s : State) (continuation : Option Continuation) :
    Undisturbed s (s.dropContinuation continuation) := by
  obtain ⟨requests, eq⟩ := s.dropContinuation_eq continuation
  rw [eq]
  exact ⟨⟨rfl, rfl⟩, rfl, rfl, rfl⟩

theorem undisturbed_clearContinuation (s : State) (slot : SlotId) :
    Undisturbed s (s.clearContinuation slot) :=
  (undisturbed_modifySlot s slot (fun slot => { slot with continuation := none })
    fun _ => rfl).trans (undisturbed_dropContinuation _ _)

theorem undisturbed_setContinuation (s : State) (slot : SlotId) (continuation : Continuation) :
    Undisturbed s (s.setContinuation slot continuation) :=
  (undisturbed_modifySlot s slot (fun slot => { slot with continuation := some continuation })
    fun _ => rfl).trans (undisturbed_dropContinuation _ _)

theorem undisturbed_detach (s : State) (slot : SlotId) : Undisturbed s (s.detach slot) :=
  (undisturbed_clearContinuation s slot).trans (undisturbed_modifySlot _ slot _ fun _ => rfl)

end State

end SlotDispatch
