import SlotDispatch.State

/-!
What the elementary changes of a state show: a change of one slot is seen in that slot
alone, and a slot that is returned becomes the first of the idle ones of its device.
-/

namespace SlotDispatch.State

/-! ### Slots -/

/-- A change of slots that keeps identities changes the slot that is found, not which. -/
theorem find?_map_slot (change : Slot → Slot) (keeps : ∀ slot, (change slot).id = slot.id)
    (id : SlotId) (slots : List Slot) :
    (slots.map change).find? (fun slot => slot.id == id)
      = (slots.find? fun slot => slot.id == id).map change := by
  simp only [List.find?_map, Function.comp_def, keeps]

/-- A change of one slot neither adds nor removes any. -/
theorem hasSlot_modifySlot (s : State) {change : Slot → Slot}
    (keeps : ∀ slot, (change slot).id = slot.id) (id other : SlotId) :
    (s.modifySlot id change).hasSlot other = s.hasSlot other := by
  simp only [hasSlot, modifySlot, List.any_map]
  congr 1
  funext slot
  simp only [Function.comp]
  split <;> simp [keeps]

/-- A change of one slot shows in that slot, if it is there. -/
theorem slot_modifySlot_self {s : State} {id : SlotId} {change : Slot → Slot}
    (present : s.hasSlot id = true) (keeps : ∀ slot, (change slot).id = slot.id) :
    (s.modifySlot id change).slot id = change (s.slot id) := by
  obtain ⟨slot, mem, same⟩ := List.any_eq_true.1 present
  have some : (s.slots.find? fun slot => slot.id == id).isSome := by
    simpa [List.find?_isSome] using ⟨slot, mem, by simpa using same⟩
  obtain ⟨found, found_eq⟩ := Option.isSome_iff_exists.1 some
  have found_id : found.id = id := by simpa using List.find?_some found_eq
  have lookup := find?_map_slot (fun slot => if slot.id = id then change slot else slot)
    (fun slot => by split <;> simp [keeps]) id s.slots
  simp [State.slot, modifySlot, lookup, found_eq, found_id]

/-- A change of one slot shows in no other. -/
theorem slot_modifySlot_of_ne {s : State} {id other : SlotId} {change : Slot → Slot}
    (ne : other ≠ id) (keeps : ∀ slot, (change slot).id = slot.id) :
    (s.modifySlot id change).slot other = s.slot other := by
  have lookup := find?_map_slot (fun slot => if slot.id = id then change slot else slot)
    (fun slot => by split <;> simp [keeps]) other s.slots
  simp only [State.slot, modifySlot, lookup]
  cases found : s.slots.find? (fun slot => slot.id == other) with
  | none => rfl
  | some slot =>
    have found_id : slot.id = other := by simpa using List.find?_some found
    simp [found_id, ne]

/-- A slot that is not there is not changed. -/
theorem modifySlot_of_absent {s : State} {slot : SlotId} (absent : s.hasSlot slot = false)
    (change : Slot → Slot) : s.modifySlot slot change = s := by
  have none : ∀ found ∈ s.slots, found.id ≠ slot := by
    intro found there same
    have present : s.hasSlot slot = true :=
      List.any_eq_true.mpr ⟨found, there, by simpa using same⟩
    rw [absent] at present
    cases present
  have same : s.slots.map (fun found => if found.id = slot then change found else found)
      = s.slots := by
    refine (List.map_congr_left fun found there => if_neg (none found there)).trans ?_
    exact List.map_id' _
  simp only [modifySlot, same]

/-- A slot that is not there is as if it had never been used. -/
theorem slot_of_absent {s : State} {slot : SlotId} (absent : s.hasSlot slot = false) :
    s.slot slot = .fresh slot := by
  have none : s.slots.find? (fun candidate => candidate.id == slot) = none := by
    rw [List.find?_eq_none]
    exact fun found there same => Bool.eq_false_iff.mp absent
      (List.any_eq_true.mpr ⟨found, there, same⟩)
  simp only [State.slot, none, Option.getD_none]

/-- A change of one slot is not seen in what it leaves alone of that slot. -/
theorem map_slots_modifySlot (s : State) (id : SlotId) {α : Type} {view : Slot → α}
    {change : Slot → Slot} (keeps : ∀ slot, view (change slot) = view slot) :
    (s.modifySlot id change).slots.map view = s.slots.map view := by
  simp only [modifySlot, List.map_map]
  refine List.map_congr_left fun slot _ => ?_
  simp only [Function.comp]
  split
  · exact keeps slot
  · rfl

/-- What is the same in all slots is the same in each. -/
theorem view_slot_of_same {s t : State} {α : Type} {view : Slot → α}
    (same : t.slots.map (fun slot => (slot.id, view slot))
      = s.slots.map fun slot => (slot.id, view slot)) (id : SlotId) :
    view (t.slot id) = view (s.slot id) := by
  have found (u : State) : view (u.slot id)
      = (((u.slots.map fun slot => (slot.id, view slot)).find? fun entry => entry.1 == id).map
        Prod.snd).getD (view (.fresh id)) := by
    simp only [slot, List.find?_map, Function.comp_def, Option.map_map]
    cases u.slots.find? (fun slot => slot.id == id) <;> rfl
  rw [found, found, same]

/-! ### Devices and their idle slots -/

/-- A change of one device shows in that device alone. -/
theorem device?_modifyDevice (s : State) {change : Device → Device}
    (keeps : ∀ device, (change device).name = device.name) (name other : String) :
    (s.modifyDevice name change).device? other
      = (s.device? other).map fun device => if other = name then change device else device := by
  have same : ∀ device : Device,
      ((if device.name = name then change device else device).name == other)
        = (device.name == other) := by
    intro device
    split <;> simp [keeps]
  simp only [device?, modifyDevice, List.find?_map, Function.comp_def, same]
  cases found : s.devices.find? (fun device => device.name == other) with
  | none => rfl
  | some device =>
    have found_name : device.name = other := by simpa using List.find?_some found
    simp [found_name]

/-- A slot that is returned becomes the first of the idle ones of its device. -/
theorem idle_pushIdle_self {s : State} {slot : SlotId}
    (known : (s.device? slot.device).isSome) :
    (s.pushIdle slot).idle slot.device = slot.index :: s.idle slot.device := by
  obtain ⟨device, found⟩ := Option.isSome_iff_exists.1 known
  simp only [pushIdle, idle]
  rw [device?_modifyDevice _ (by intro; rfl), found]
  simp

/-- A slot that is returned changes nothing on other devices. -/
theorem idle_pushIdle_of_ne {s : State} {slot : SlotId} {name : String}
    (ne : name ≠ slot.device) : (s.pushIdle slot).idle name = s.idle name := by
  simp only [pushIdle, idle]
  rw [device?_modifyDevice _ (by intro; rfl)]
  cases s.device? name <;> simp [ne]

/-- No slot can be taken exactly if none is idle. -/
theorem popIdle_eq_none_iff {s : State} {name : String} :
    s.popIdle name = none ↔ s.idle name = [] := by
  simp only [popIdle]
  split <;> simp_all

/-- The slot that is taken is the first of the idle ones, and the others stay idle. -/
theorem idle_of_popIdle {s t : State} {name : String} {index : Nat}
    (popped : s.popIdle name = some (index, t)) : s.idle name = index :: t.idle name := by
  simp only [popIdle] at popped
  split at popped
  · simp at popped
  · rename_i first rest shape
    simp only [Option.some.injEq, Prod.mk.injEq] at popped
    obtain ⟨rfl, rfl⟩ := popped
    simp only [idle] at shape ⊢
    rw [device?_modifyDevice _ (by intro; rfl)]
    cases found : s.device? name <;> simp_all

end SlotDispatch.State
