import SlotDispatch.Proofs.Places

/-!
No unit of a workload is left behind. A thread may hold the only idle slot while it finds the
queue empty; a unit that is submitted in the meantime then finds no idle slot, and the thread
that submitted it gives up. What saves the unit is that whoever returns a slot looks at the
queue afterwards. So as long as units wait, some slot is away from its pool or some thread is
about to look for a slot (`Watched`), if a device of the priority list has a slot at all.

If none has, no thread ever gets hold of a slot (`Barren`).
-/

namespace SlotDispatch.Workload

/-! ### Devices with slots -/

/-- A device that has a slot. -/
def Manned (s : State) (device : String) : Prop := ∃ index, s.hasSlot ⟨device, index⟩ = true

/-- A device of the priority list has a slot. -/
def Staffed (s : State) : Prop := ∃ entry ∈ s.priorities, Manned s entry.name

section Kept

variable {s t : State}

theorem Kept.manned (kept : Kept s t) (device : String) : Manned t device ↔ Manned s device := by
  simp only [Manned, kept.hasSlot]

theorem Kept.staffed (kept : Kept s t) : Staffed t ↔ Staffed s := by
  simp only [Staffed, kept.samePriorities, kept.manned]

/-- A device has a slot if its slots are more than none. -/
theorem slotCount_pos_iff {device : String} : 0 < s.slotCount device ↔ Manned s device := by
  rw [State.slotCount, List.countP_pos_iff]
  constructor
  · rintro ⟨slot, there, named⟩
    refine ⟨slot.id.index, State.hasSlot_iff.mpr (List.mem_map.mpr ⟨slot, there, ?_⟩)⟩
    exact SlotId.eq_of_parts (by simpa using named) rfl
  · rintro ⟨index, present⟩
    obtain ⟨slot, there, same⟩ := List.mem_map.mp (State.hasSlot_iff.mp present)
    exact ⟨slot, there, by simp [same]⟩

theorem staffed_iff : Staffed s ↔ ∃ entry ∈ s.priorities, 0 < s.slotCount entry.name := by
  simp only [Staffed, slotCount_pos_iff]

end Kept

/-- An idle slot is one of the dispatcher's. -/
theorem Placed.present_of_idle {s : State} {jobs : List Job} {device : String} {index : Nat}
    (placed : Placed s jobs) (idle : index ∈ s.idle device) :
    s.hasSlot ⟨device, index⟩ = true := by
  have once := placed.once ⟨device, index⟩
  have home : 0 < atHome ⟨device, index⟩ s := atHome_pos_of_idle idle
  cases there : s.hasSlot ⟨device, index⟩ with
  | true => rfl
  | false =>
      rw [there, Bool.toNat_false] at once
      omega

/-! ### Somebody looks -/

/-- A slot that is not in its pool. -/
def Away (s : State) (slot : SlotId) : Prop :=
  s.hasSlot slot = true ∧ slot.index ∉ s.idle slot.device

/-- What a thread does that is about to look for an idle slot or at the queue. -/
def Task.Looks (s : State) : Task → Prop
  | .scheduling _ | .returned _ _ | .walking _ _ true => True
  | .walking _ devices false => ∃ device ∈ devices, Manned s device
  | _ => False

/-- Nothing waits, a slot is away from its pool, or somebody looks. -/
def Watched (s : State) (jobs : List Job) : Prop :=
  s.queue = [] ∨ (∃ slot, Away s slot) ∨ ∃ job ∈ jobs, job.task.Looks s

section Moves

variable {s t : State} {jobs jobs' : List Job} {task after : Task}

theorem Kept.looks (kept : Kept s t) (looks : task.Looks s) : task.Looks t := by
  cases task with
  | walking caller devices handedBack =>
      cases handedBack with
      | true => trivial
      | false =>
          obtain ⟨device, there, manned⟩ := looks
          exact ⟨device, there, (kept.manned device).mpr manned⟩
  | scheduling | returned => trivial
  | _ => cases looks

/-- Who submits a unit looks for a slot. -/
theorem Task.Moves.looks_of_queued (moves : task.Moves s t after) (empty : s.queue = []) :
    t.queue = [] ∨ after.Looks t := by
  cases moves with
  | submitted number => exact .inr trivial
  | used caller slot devices number queue first =>
      rw [empty] at first
      cases first
  | left caller slot number id =>
      have same := (State.undisturbed_setContinuation s slot (.scripted id [])).sameQueue
      exact .inl (same.trans empty)
  | discarded caller slot after =>
      have same := (State.undisturbed_clearContinuation s slot).sameQueue
      exact .inl (same.trans empty)
  | _ => exact .inl empty

/-- Who returns a slot looks at the queue. -/
theorem Task.Moves.looks_of_returned (moves : task.Moves s t after) {slot : SlotId}
    (away : Away s slot) : Away t slot ∨ after.Looks t := by
  have present : t.hasSlot slot = true := by
    rw [moves.kept.hasSlot]
    exact away.1
  cases moves with
  | pushed caller own after => exact .inr trivial
  | finds caller device rest handedBack index left first =>
      refine .inl ⟨present, fun idle => ?_⟩
      exact away.2 (State.mem_idle_of_popped first idle)
  | left caller own number id =>
      refine .inl ⟨present, ?_⟩
      rw [State.idle_of_samePools (State.undisturbed_setContinuation s own _).samePools]
      exact away.2
  | discarded caller own after =>
      refine .inl ⟨present, ?_⟩
      rw [State.idle_of_samePools (State.undisturbed_clearContinuation s own).samePools]
      exact away.2
  | _ => exact .inl ⟨present, away.2⟩

/-- Who looks finds a slot, or that a slot is away, or that nothing waits, or goes on looking. -/
theorem Task.Moves.looks_on (moves : task.Moves s t after) (staffed : Staffed s)
    (placed : Placed s jobs) (looks : task.Looks s) :
    t.queue = [] ∨ (∃ slot, Away t slot) ∨ after.Looks t := by
  cases moves with
  | silent silent =>
      cases silent with
      | walks caller =>
          obtain ⟨entry, listed, manned⟩ := staffed
          exact .inr (.inr ⟨entry.name, List.mem_map_of_mem listed, manned⟩)
      | passes caller device rest handedBack none =>
          cases handedBack with
          | true => exact .inr (.inr trivial)
          | false =>
              obtain ⟨other, there, manned⟩ := looks
              rcases List.mem_cons.mp there with rfl | there
              · -- The device has a slot, and none of them is idle.
                obtain ⟨index, present⟩ := manned
                exact .inr (.inl ⟨⟨other, index⟩, present, by simp [none]⟩)
              · exact .inr (.inr ⟨other, there, manned⟩)
      | again => exact .inr (.inr trivial)
      | stops caller empty => exact .inl empty
      | unbound =>
          obtain ⟨device, there, -⟩ := looks
          cases there
      | onward => exact .inr (.inr trivial)
      | reschedules => exact .inr (.inr trivial)
      | _ => cases looks
  | finds caller device rest handedBack index left first =>
      have idle : index ∈ s.idle device := by
        rw [first]
        exact List.mem_cons_self
      have once := placed.nodup_idle device
      rw [first] at once
      refine .inr (.inl ⟨⟨device, index⟩, placed.present_of_idle idle, ?_⟩)
      rw [State.idle_modifyDevice s device (fun _ => left), if_pos ⟨rfl, device?_of_idle first⟩]
      exact (List.nodup_cons.mp once).1
  | _ => cases looks

/-- A thread that is at rest does not look. -/
theorem Task.not_looks_of_at_rest {signal : Signal} (rests : task.thread = ⟨.signal signal, []⟩) :
    ¬ task.Looks s := by
  rcases Task.of_at_rest rests with ⟨answer, rfl⟩ | rfl <;> exact id

theorem Watched.shift (watched : Watched s jobs) (staffed : Staffed s) (placed : Placed s jobs)
    (shift : Shift s jobs t jobs') : Watched t jobs' := by
  cases shift with
  | @moves _ task after earlier later todo moves =>
      have carriesOn (found : t.queue = [] ∨ (∃ slot, Away t slot) ∨ after.Looks t) :
          Watched t (earlier ++ ⟨todo, after⟩ :: later) := by
        rcases found with empty | away | looks
        · exact .inl empty
        · exact .inr (.inl away)
        · exact .inr (.inr ⟨⟨todo, after⟩, mem_replaced.mpr (.inl rfl), looks⟩)
      rcases watched with empty | ⟨slot, away⟩ | ⟨job, there, looks⟩
      · exact carriesOn ((moves.looks_of_queued empty).imp_right .inr)
      · rcases moves.looks_of_returned away with away | looks
        · exact carriesOn (.inr (.inl ⟨slot, away⟩))
        · exact carriesOn (.inr (.inr looks))
      · rcases mem_replaced.mp there with rfl | there
        · exact carriesOn (moves.looks_on staffed placed looks)
        · exact .inr (.inr ⟨job, mem_replaced.mpr (.inr there), moves.kept.looks looks⟩)
  | @begins task earlier later number todo signal rests =>
      rcases watched with empty | away | ⟨job, there, looks⟩
      · exact .inl empty
      · exact .inr (.inl away)
      · rcases mem_replaced.mp there with rfl | there
        · exact absurd looks (Task.not_looks_of_at_rest rests)
        · exact .inr (.inr ⟨job, mem_replaced.mpr (.inr there), looks⟩)
  | completes jobs before after due =>
      rcases watched with empty | away | ⟨job, there, looks⟩
      · exact .inl empty
      · exact .inr (.inl away)
      · refine .inr (.inr ⟨job, List.mem_append_left _ there, ?_⟩)
        exact (Kept.of_eq (t := { s with due := before ++ after }) rfl rfl rfl rfl rfl).looks looks

/-! ### Nobody gets a slot -/

/-- What a thread can do that never gets hold of a slot. -/
def Task.Empty (s : State) : Task → Prop
  | .resting _ | .submitting _ | .scheduling _ | .answered _ => True
  | .walking _ devices _ => ∀ device ∈ devices, ¬ Manned s device
  | _ => False

/-- No thread has got hold of a slot, and nothing has happened. -/
structure Barren (s : State) (jobs : List Job) : Prop where
  due : s.due = []
  log : s.log = []
  tasks : ∀ job ∈ jobs, job.task.Empty s

theorem Kept.empty (kept : Kept s t) (empty : task.Empty s) : task.Empty t := by
  cases task with
  | walking caller devices handedBack =>
      intro device there manned
      exact empty device there ((kept.manned device).mp manned)
  | resting | submitting | scheduling | answered => trivial
  | _ => cases empty

/-- A thread that has not got hold of a slot does not get hold of one. -/
theorem Task.Moves.empty (moves : task.Moves s t after) (unstaffed : ¬ Staffed s)
    (placed : Placed s jobs) (empty : task.Empty s) :
    after.Empty t ∧ t.due = s.due ∧ t.log = s.log := by
  cases moves with
  | silent silent =>
      refine ⟨?_, rfl, rfl⟩
      cases silent with
      | walks caller =>
          intro device there manned
          obtain ⟨entry, listed, rfl⟩ := List.mem_map.mp there
          exact unstaffed ⟨entry, listed, manned⟩
      | passes caller device rest handedBack none =>
          intro other there
          exact empty other (List.mem_cons_of_mem _ there)
      | again | stops | unbound | answered => trivial
      | _ => cases empty
  | submitted number => exact ⟨trivial, rfl, rfl⟩
  | finds caller device rest handedBack index left first =>
      have idle : index ∈ s.idle device := by
        rw [first]
        exact List.mem_cons_self
      have present := placed.present_of_idle idle
      exact absurd ⟨index, present⟩ (empty device List.mem_cons_self)
  | _ => cases empty

theorem Barren.shift (barren : Barren s jobs) (unstaffed : ¬ Staffed s) (placed : Placed s jobs)
    (shift : Shift s jobs t jobs') : Barren t jobs' := by
  cases shift with
  | @moves _ task after earlier later todo moves =>
      obtain ⟨empty, due, log⟩ := moves.empty unstaffed placed (barren.tasks ⟨todo, task⟩ (by simp))
      refine ⟨due.trans barren.due, log.trans barren.log, ?_⟩
      intro job there
      rcases mem_replaced.mp there with rfl | there
      · exact empty
      · exact moves.kept.empty (barren.tasks job (mem_replaced.mpr (.inr there)))
  | begins earlier later number todo signal rests =>
      refine ⟨barren.due, barren.log, ?_⟩
      intro job there
      rcases mem_replaced.mp there with rfl | there
      · trivial
      · exact barren.tasks job (mem_replaced.mpr (.inr there))
  | completes jobs before after due =>
      rw [barren.due] at due
      cases before <;> cases due

end Moves

end SlotDispatch.Workload
