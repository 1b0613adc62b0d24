import Mathlib.Data.List.Nodup
import SlotDispatch.Execution.Weight
import SlotDispatch.Proofs.Unchanged

/-!
When slots are where they should be. `State.Exclusive` speaks about a state and three lists
of slots, those that are on their way outside of the state. Every way in which a slot moves
is one lemma about it: a slot is taken from its pool, marked, started, completed, and
returned. `State.Exclusive.idle_add_outside` is what makes the pools add up.
-/

namespace SlotDispatch

/-- A slot is known by its device and its position there. -/
theorem SlotId.eq_of_parts {slot other : SlotId} (device : slot.device = other.device)
    (index : slot.index = other.index) : slot = other := by
  cases slot
  cases other
  simp_all

namespace State

/-- Every slot is idle, executes or is owned, and by one owner only. The slots in `carries`
may be unmarked although they are not idle, and those in `clears` are. -/
structure Exclusive (s : State) (owners carries clears : List SlotId) : Prop where
  known : ∀ slot ∈ owners, s.hasSlot slot = true
  once : owners.Nodup
  still : ∀ slot ∈ owners, (s.slot slot).running = false
  away : ∀ slot ∈ owners, slot.index ∉ s.idle slot.device
  pooled : ∀ name, (s.idle name).Nodup
  resting : ∀ slot : SlotId, slot.index ∈ s.idle slot.device →
    s.hasSlot slot = true ∧ (s.slot slot).running = false ∧ (s.slot slot).bound = false
  marked : ∀ slot : SlotId, s.hasSlot slot = true → slot.index ∉ s.idle slot.device →
    (s.slot slot).bound = true ∨ slot ∈ carries
  clear : ∀ slot ∈ clears, (s.slot slot).bound = false
  placed : ∀ slot : SlotId, s.hasSlot slot = true → (s.device? slot.device).isSome = true

/-! ### Changes of a slot and of a pool -/

/-- What a change of one slot shows in every slot. -/
theorem slot_modifySlot {s : State} {id : SlotId} {change : Slot → Slot}
    (present : s.hasSlot id = true) (keeps : ∀ slot, (change slot).id = slot.id) (other : SlotId) :
    (s.modifySlot id change).slot other
      = if other = id then change (s.slot id) else s.slot other := by
  split
  · next same => rw [same, slot_modifySlot_self present keeps]
  · next differs => exact slot_modifySlot_of_ne differs keeps

/-- A change of one of several slots changes a sum over them by what it changes of that slot. -/
theorem sumOf_map_change (share : Slot → Nat) {slots : List Slot} {found : Slot}
    (distinct : (slots.map Slot.id).Nodup) (mem : found ∈ slots) (change : Slot → Slot) :
    sumOf share (slots.map fun slot => if slot.id = found.id then change slot else slot)
        + share found
      = sumOf share slots + share (change found) := by
  induction slots with
  | nil => simp at mem
  | cons first rest ih =>
      obtain ⟨fresh, distinct⟩ := List.nodup_cons.mp distinct
      simp only [List.map_cons, sumOf_cons]
      rcases List.mem_cons.mp mem with rfl | mem
      · have same : (rest.map fun slot => if slot.id = found.id then change slot else slot)
            = rest := by
          refine (List.map_congr_left fun slot there => if_neg fun same => ?_).trans
            (List.map_id' rest)
          exact fresh (same ▸ List.mem_map_of_mem there)
        rw [same, if_pos rfl]
        omega
      · have differs : first.id ≠ found.id := fun same =>
          fresh (same ▸ List.mem_map_of_mem mem)
        have rest := ih distinct mem
        rw [if_neg differs]
        omega

theorem sumOf_modifySlot (share : Slot → Nat) {s : State} {id : SlotId}
    (distinct : (s.slots.map Slot.id).Nodup) (present : s.hasSlot id = true)
    (change : Slot → Slot) :
    sumOf share (s.modifySlot id change).slots + share (s.slot id)
      = sumOf share s.slots + share (change (s.slot id)) := by
  obtain ⟨found, same⟩ : ∃ found, s.slots.find? (fun slot => slot.id == id) = some found := by
    rw [← Option.isSome_iff_exists, List.find?_isSome]
    simpa [hasSlot] using present
  have atId : found.id = id := by simpa using List.find?_some same
  have slot : s.slot id = found := by simp [State.slot, same]
  rw [slot, ← atId]
  exact sumOf_map_change share distinct (List.mem_of_find?_eq_some same) change

/-- A slot that executes is listed among those that do. -/
theorem mem_running {s : State} {id : SlotId} (running : (s.slot id).running = true) :
    id ∈ s.running := by
  simp only [slot] at running
  cases found : s.slots.find? fun candidate => candidate.id == id with
  | none => simp [found, Slot.fresh] at running
  | some slot =>
      have same : slot.id = id := by simpa using List.find?_some found
      rw [found] at running
      rw [← same]
      exact List.mem_map_of_mem (List.mem_filter.mpr ⟨List.mem_of_find?_eq_some found, running⟩)

theorem hasSlot_of_mem_running {s : State} {id : SlotId} (mem : id ∈ s.running) :
    s.hasSlot id = true := by
  obtain ⟨slot, there, rfl⟩ := List.mem_map.mp mem
  exact List.any_eq_true.mpr ⟨slot, List.mem_of_mem_filter there, by simp⟩

theorem hasSlot_of_running {s : State} {id : SlotId} (running : (s.slot id).running = true) :
    s.hasSlot id = true := hasSlot_of_mem_running (mem_running running)

/-- What is idle after a change of the idle slots of one device. -/
theorem idle_modifyDevice (s : State) (name : String) (pool : List Nat → List Nat)
    (other : String) :
    (s.modifyDevice name fun device => { device with idle := pool device.idle }).idle other
      = if other = name ∧ (s.device? name).isSome then pool (s.idle other) else s.idle other := by
  simp only [idle]
  rw [device?_modifyDevice s (by intro; rfl) name other]
  by_cases same : other = name
  · subst same
    cases s.device? other <;> simp
  · cases s.device? other <;> simp [same]

theorem device?_isSome_modifyDevice (s : State) (name : String) (pool : List Nat → List Nat)
    (other : String) :
    ((s.modifyDevice name fun device => { device with idle := pool device.idle }).device?
      other).isSome
      = (s.device? other).isSome := by
  rw [device?_modifyDevice s (by intro; rfl)]
  cases s.device? other <;> rfl

/-! ### Which slots are idle -/

/-- A slot that is idle after another was taken from its pool was idle before. -/
theorem mem_idle_of_popped {s : State} {name : String} {index : Nat} {rest : List Nat}
    (idle : s.idle name = index :: rest) {other : SlotId}
    (mem : other.index
      ∈ (s.modifyDevice name fun device => { device with idle := rest }).idle other.device) :
    other.index ∈ s.idle other.device := by
  rw [idle_modifyDevice s name (fun _ => rest)] at mem
  split at mem
  · next here =>
      rw [here.1, idle]
      exact List.mem_cons_of_mem _ mem
  · exact mem

theorem mem_idle_popped {s : State} {name : String} {index : Nat} {rest : List Nat}
    (idle : s.idle name = index :: rest) {other : SlotId} (mem : other.index ∈ s.idle other.device)
    (differs : other ≠ ⟨name, index⟩) : other.index
      ∈ (s.modifyDevice name fun device => { device with idle := rest }).idle other.device := by
  rw [idle_modifyDevice s name (fun _ => rest)]
  split
  · next here =>
      rw [here.1, idle] at mem
      apply (List.mem_cons.mp mem).resolve_left
      intro first
      exact differs (SlotId.eq_of_parts here.1 first)
  · exact mem

/-- A slot that is idle after another was returned to its pool is that one or was idle before. -/
theorem mem_idle_of_pushIdle {s : State} {slot other : SlotId}
    (mem : other.index ∈ (s.pushIdle slot).idle other.device) :
    other = slot ∨ other.index ∈ s.idle other.device := by
  rw [pushIdle, idle_modifyDevice s slot.device (slot.index :: ·)] at mem
  split at mem
  · next here =>
      rcases List.mem_cons.mp mem with first | mem
      · exact .inl (SlotId.eq_of_parts here.1 first)
      · exact .inr mem
  · exact .inr mem

theorem mem_idle_pushIdle {s : State} {slot other : SlotId}
    (mem : other.index ∈ s.idle other.device) :
    other.index ∈ (s.pushIdle slot).idle other.device := by
  rw [pushIdle, idle_modifyDevice s slot.device (slot.index :: ·)]
  split
  · exact List.mem_cons_of_mem _ mem
  · exact mem

/-! ### The ways of a slot -/

namespace Exclusive

variable {s : State} {slot : SlotId} {owners carries clears : List SlotId}

/-- Where no slot moves, owners may only let go of slots that stay marked. -/
theorem of_sameSlots {t : State} {owners' carries' clears' : List SlotId}
    (holds : s.Exclusive owners carries clears) (same : SameSlots s t)
    (fewer : owners'.Sublist owners) (carried : carries ⊆ carries') (cleared : clears' ⊆ clears) :
    t.Exclusive owners' carries' clears' where
  known slot mem := (same.hasSlot slot).trans (holds.known slot (fewer.subset mem))
  once := fewer.nodup holds.once
  still slot mem := (same.slotRunning slot).trans (holds.still slot (fewer.subset mem))
  away slot mem := by
    rw [same.idle]
    exact holds.away slot (fewer.subset mem)
  pooled name := by
    rw [same.idle]
    exact holds.pooled name
  resting slot idle := by
    rw [same.idle] at idle
    rw [same.hasSlot, same.slotRunning, same.slotBound]
    exact holds.resting slot idle
  marked slot there idle := by
    rw [same.hasSlot] at there
    rw [same.idle] at idle
    rw [same.slotBound]
    exact (holds.marked slot there idle).imp_right (@carried slot)
  clear slot mem := (same.slotBound slot).trans (holds.clear slot (cleared mem))
  placed slot there := by
    rw [same.hasSlot] at there
    rw [same.device?]
    exact holds.placed slot there

/-- An idle slot leaves its pool. -/
theorem popped {name : String} {index : Nat} {rest : List Nat}
    (holds : s.Exclusive owners [] []) (idle : s.idle name = index :: rest) :
    (s.modifyDevice name fun device => { device with idle := rest }).Exclusive
      (⟨name, index⟩ :: owners) [⟨name, index⟩] [⟨name, index⟩] := by
  have first : index ∈ s.idle name := by
    rw [idle]
    exact List.mem_cons_self
  have resting := holds.resting ⟨name, index⟩ first
  have left (other : String) :
      (s.modifyDevice name fun device => { device with idle := rest }).idle other
        = if other = name then rest else s.idle other := by
    rw [idle_modifyDevice s name (fun _ => rest) other]
    simp [holds.placed ⟨name, index⟩ resting.1]
  have distinct : index ∉ rest ∧ rest.Nodup := by
    have pooled := holds.pooled name
    rw [idle] at pooled
    exact List.nodup_cons.mp pooled
  have apart (other : SlotId) (mem : other ∈ owners) : other ≠ ⟨name, index⟩ := by
    rintro rfl
    exact holds.away _ mem first
  refine ⟨?_, ?_, ?_, ?_, ?_, ?_, ?_, ?_, ?_⟩
  · intro other mem
    rcases List.mem_cons.mp mem with rfl | mem
    · exact resting.1
    · exact holds.known other mem
  · exact List.nodup_cons.mpr ⟨fun mem => apart _ mem rfl, holds.once⟩
  · intro other mem
    rcases List.mem_cons.mp mem with rfl | mem
    · exact resting.2.1
    · exact holds.still other mem
  · intro other mem
    rcases List.mem_cons.mp mem with rfl | mem
    · rw [left, if_pos rfl]
      exact distinct.1
    · intro idle'
      exact holds.away other mem (mem_idle_of_popped idle idle')
  · intro other
    rw [left]
    split
    · exact distinct.2
    · exact holds.pooled other
  · intro other mem
    exact holds.resting other (mem_idle_of_popped idle mem)
  · intro other there absent
    by_cases same : other = ⟨name, index⟩
    · exact .inr (by simp [same])
    · refine .inl ((holds.marked other there fun mem => absent ?_).resolve_right (by simp))
      exact mem_idle_popped idle mem same
  · intro other mem
    rw [List.mem_singleton.mp mem]
    exact resting.2.2
  · intro other there
    rw [device?_isSome_modifyDevice s name (fun _ => rest)]
    exact holds.placed other there

/-- A slot is marked as bound, or the mark is taken off. -/
theorem remarked {carries' clears' : List SlotId} {change : Slot → Slot}
    (holds : s.Exclusive (slot :: owners) carries clears)
    (keeps : ∀ slot, (change slot).id = slot.id)
    (runs : ∀ slot, (change slot).running = slot.running)
    (marked : (change (s.slot slot)).bound = true ∨ slot ∈ carries')
    (carried : ∀ other ∈ carries, other = slot)
    (cleared : ∀ other ∈ clears', other = slot ∧ (change (s.slot slot)).bound = false) :
    (s.modifySlot slot change).Exclusive (slot :: owners) carries' clears' := by
  have there : s.hasSlot slot = true := holds.known slot List.mem_cons_self
  have hasSlot' (other : SlotId) := hasSlot_modifySlot s keeps slot other
  have slot' := slot_modifySlot there keeps
  refine ⟨?_, ?_, ?_, ?_, ?_, ?_, ?_, ?_, ?_⟩
  · intro other mem
    rw [hasSlot']
    exact holds.known other mem
  · exact holds.once
  · intro other mem
    have still := holds.still other mem
    rw [slot']
    split
    · next same => rwa [runs, ← same]
    · exact still
  · exact holds.away
  · exact holds.pooled
  · intro other idle
    have differs : other ≠ slot := by
      rintro rfl
      exact holds.away _ List.mem_cons_self idle
    rw [hasSlot', slot', if_neg differs]
    exact holds.resting other idle
  · intro other there idle
    rw [hasSlot'] at there
    rw [slot']
    split
    · next same => rwa [same]
    · next differs =>
        exact .inl ((holds.marked other there idle).resolve_right fun mem =>
          differs (carried other mem))
  · intro other mem
    obtain ⟨same, clear⟩ := cleared other mem
    rw [slot', if_pos same]
    exact clear
  · intro other there
    rw [hasSlot'] at there
    exact holds.placed other there

/-- A slot that its owner has started executes, and nobody owns it. -/
theorem granted {change : Slot → Slot} (holds : s.Exclusive (slot :: owners) [] [])
    (keeps : ∀ slot, (change slot).id = slot.id)
    (marks : ∀ slot, (change slot).bound = slot.bound) :
    (s.modifySlot slot change).Exclusive owners [] [] := by
  have there : s.hasSlot slot = true := holds.known slot List.mem_cons_self
  have apart : slot ∉ owners ∧ owners.Nodup := List.nodup_cons.mp holds.once
  have hasSlot' (other : SlotId) := hasSlot_modifySlot s keeps slot other
  have slot' := slot_modifySlot there keeps
  refine ⟨?_, apart.2, ?_, ?_, holds.pooled, ?_, ?_, by simp, ?_⟩
  · intro other mem
    rw [hasSlot']
    exact holds.known other (List.mem_cons_of_mem _ mem)
  · intro other mem
    have differs : other ≠ slot := fun same => apart.1 (same ▸ mem)
    rw [slot', if_neg differs]
    exact holds.still other (List.mem_cons_of_mem _ mem)
  · intro other mem
    exact holds.away other (List.mem_cons_of_mem _ mem)
  · intro other idle
    have differs : other ≠ slot := by
      rintro rfl
      exact holds.away _ List.mem_cons_self idle
    rw [hasSlot', slot', if_neg differs]
    exact holds.resting other idle
  · intro other there idle
    rw [hasSlot'] at there
    have marked := holds.marked other there idle
    rw [slot']
    split
    · next same =>
        rw [marks, ← same]
        exact marked
    · exact marked
  · intro other there
    rw [hasSlot'] at there
    exact holds.placed other there

/-- A slot that executed comes to its end, in the hands of a new owner. -/
theorem completed {change : Slot → Slot} (holds : s.Exclusive owners [] [])
    (running : (s.slot slot).running = true) (keeps : ∀ slot, (change slot).id = slot.id)
    (stops : ∀ slot, (change slot).running = false)
    (marks : ∀ slot, (change slot).bound = slot.bound) :
    (s.modifySlot slot change).Exclusive (slot :: owners) [] [] := by
  have there : s.hasSlot slot = true := hasSlot_of_running running
  have busy : slot.index ∉ s.idle slot.device := fun idle => by
    simp [(holds.resting slot idle).2.1] at running
  have hasSlot' (other : SlotId) := hasSlot_modifySlot s keeps slot other
  have slot' := slot_modifySlot there keeps
  refine ⟨?_, ?_, ?_, ?_, holds.pooled, ?_, ?_, by simp, ?_⟩
  · intro other mem
    rw [hasSlot']
    rcases List.mem_cons.mp mem with rfl | mem
    · exact there
    · exact holds.known other mem
  · refine List.nodup_cons.mpr ⟨fun mem => ?_, holds.once⟩
    simp [holds.still slot mem] at running
  · intro other mem
    rw [slot']
    split
    · exact stops _
    · next differs => exact holds.still other ((List.mem_cons.mp mem).resolve_left differs)
  · intro other mem
    rcases List.mem_cons.mp mem with rfl | mem
    · exact busy
    · exact holds.away other mem
  · intro other idle
    have differs : other ≠ slot := by
      rintro rfl
      exact busy idle
    rw [hasSlot', slot', if_neg differs]
    exact holds.resting other idle
  · intro other there idle
    rw [hasSlot'] at there
    have marked := holds.marked other there idle
    rw [slot']
    split
    · next same =>
        rw [marks, ← same]
        exact marked
    · exact marked
  · intro other there
    rw [hasSlot'] at there
    exact holds.placed other there

/-- A slot returns to its pool. -/
theorem pushed (holds : s.Exclusive (slot :: owners) [slot] [slot]) :
    (s.pushIdle slot).Exclusive owners [] [] := by
  have there : s.hasSlot slot = true := holds.known slot List.mem_cons_self
  have apart : slot ∉ owners ∧ owners.Nodup := List.nodup_cons.mp holds.once
  have back (other : String) : (s.pushIdle slot).idle other
      = if other = slot.device then slot.index :: s.idle other else s.idle other := by
    rw [pushIdle, idle_modifyDevice s slot.device (slot.index :: ·)]
    simp [holds.placed slot there]
  refine ⟨?_, apart.2, ?_, ?_, ?_, ?_, ?_, by simp, ?_⟩
  · intro other mem
    exact holds.known other (List.mem_cons_of_mem _ mem)
  · intro other mem
    exact holds.still other (List.mem_cons_of_mem _ mem)
  · intro other mem idle
    rcases mem_idle_of_pushIdle idle with rfl | idle
    · exact apart.1 mem
    · exact holds.away other (List.mem_cons_of_mem _ mem) idle
  · intro name
    rw [back]
    split
    · next same =>
        subst same
        exact List.nodup_cons.mpr ⟨holds.away slot List.mem_cons_self, holds.pooled _⟩
    · exact holds.pooled name
  · intro other mem
    rcases mem_idle_of_pushIdle mem with rfl | idle
    · exact ⟨there, holds.still _ List.mem_cons_self, holds.clear _ List.mem_cons_self⟩
    · exact holds.resting other idle
  · intro other there' absent
    have differs : other ≠ slot := by
      rintro rfl
      apply absent
      rw [back, if_pos rfl]
      exact List.mem_cons_self
    have marked := holds.marked other there' fun mem => absent (mem_idle_pushIdle mem)
    exact .inl (marked.resolve_right (by simpa using differs))
  · intro other there
    rw [pushIdle, device?_isSome_modifyDevice s slot.device (slot.index :: ·)]
    exact holds.placed other there

end Exclusive

/-! ### The pools add up -/

/-- The number of slots of a device that are in no pool. -/
def outside (s : State) (name : String) : Nat :=
  s.slots.countP fun slot => slot.id.device == name && !(s.idle name).contains slot.id.index

theorem hasSlot_iff {s : State} {id : SlotId} :
    s.hasSlot id = true ↔ id ∈ s.slots.map Slot.id := by
  simp [hasSlot]

theorem slotCount_eq_countP (s : State) (name : String) :
    s.slotCount name = (s.slots.map Slot.id).countP fun id => id.device == name := by
  rw [slotCount, List.countP_map]
  rfl

/-- Every slot of a device is idle once or in no pool. -/
theorem Exclusive.idle_add_outside {s : State} {owners carries clears : List SlotId}
    (holds : s.Exclusive owners carries clears) (distinct : (s.slots.map Slot.id).Nodup)
    (name : String) : (s.idle name).length + s.outside name = s.slotCount name := by
  have inside : ((s.idle name).map fun index => (⟨name, index⟩ : SlotId)).Perm
      ((s.slots.map Slot.id).filter fun id =>
        id.device == name && (s.idle name).contains id.index) := by
    refine (List.perm_ext_iff_of_nodup ?_ (distinct.filter _)).mpr fun id => ?_
    · exact (holds.pooled name).map fun index other same => by simpa using same
    · simp only [List.mem_map, List.mem_filter, Bool.and_eq_true, beq_iff_eq,
        List.contains_iff_mem]
      constructor
      · rintro ⟨index, idle, rfl⟩
        exact ⟨List.mem_map.mp (hasSlot_iff.mp (holds.resting ⟨name, index⟩ idle).1), rfl, idle⟩
      · rintro ⟨-, rfl, idle⟩
        exact ⟨id.index, idle, rfl⟩
  have length : (s.idle name).length = s.slots.countP fun slot =>
      slot.id.device == name && (s.idle name).contains slot.id.index := by
    have same := inside.length_eq
    rw [List.length_map, ← List.countP_eq_length_filter, List.countP_map] at same
    exact same
  rw [length, outside, slotCount]
  rw [List.countP_eq_countP_filter_add s.slots (fun slot => slot.id.device == name)
    fun slot => (s.idle name).contains slot.id.index, List.countP_filter, List.countP_filter]

end State

end SlotDispatch
