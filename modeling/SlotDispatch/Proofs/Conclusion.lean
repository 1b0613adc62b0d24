import SlotDispatch.Proofs.Ending

/-!
How a workload ends. Once its threads have nothing left to do, no slot is away from its pool and
nobody looks for one any more; so no unit waits, unless no device of the priority list has a slot
(`Leads.concludes`). What is counted then is the same whatever turns have led there
(`Concluded.counted_eq`).
-/

namespace SlotDispatch.Workload

section End

variable {s t u : State} {jobs : List Job} {units : Nat}

/-! ### Nothing left to do -/

/-- When all threads have finished, they have nothing left to do. -/
theorem quiet_of_finished {c : Crowd} (crowd : c.workers = jobs.map Job.worker)
    (finished : c.Finished) : Quiet jobs := by
  intro job there
  have worker : job.worker ∈ c.workers := by
    rw [crowd]
    exact List.mem_map_of_mem there
  obtain ⟨done, rests⟩ := finished.workers job.worker worker
  exact ⟨List.map_eq_nil_iff.mp done, rests⟩

/-- At the end every slot is in its pool. -/
theorem Quiet.idle (quiet : Quiet jobs) (due : s.due = []) (placed : Placed s jobs)
    {slot : SlotId} (present : s.hasSlot slot = true) : slot.index ∈ s.idle slot.device := by
  have once := placed.once slot
  have none : sumOf (fun job => job.task.hasInHand slot) jobs = 0 :=
    quiet.none_left (fun _ => rfl) rfl
  rw [none, present, atHome, due] at once
  apply List.count_pos_iff.mp
  rw [List.countP_nil, Bool.toNat_true] at once
  omega

/-- At the end nothing waits, since no slot is away and nobody looks. -/
theorem Quiet.queue (quiet : Quiet jobs) (due : s.due = []) (placed : Placed s jobs)
    (watched : Watched s jobs) : s.queue = [] := by
  rcases watched with empty | ⟨slot, present, away⟩ | ⟨job, there, looks⟩
  · exact empty
  · exact absurd (quiet.idle due placed present) away
  · obtain ⟨-, signal, rests⟩ := quiet job there
    exact absurd looks (Task.not_looks_of_at_rest rests)

/-- At the end no slot executes. -/
theorem Quiet.running (quiet : Quiet jobs) (due : s.due = []) (placed : Placed s jobs)
    (loaded : Loaded s jobs) (distinct : (s.slots.map Slot.id).Nodup) : s.running = [] := by
  rw [State.running, List.map_eq_nil_iff, List.filter_eq_nil_iff]
  intro slot there
  have present : s.hasSlot slot.id = true := State.hasSlot_iff.mpr (List.mem_map_of_mem there)
  have still := loaded.resting slot.id (quiet.idle due placed present)
  rw [State.slot_eq_of_mem distinct there] at still
  simp [still]

/-! ### The conclusion -/

/-- How a workload of some units ends that began in the first state. -/
structure Concluded (s : State) (units : Nat) (t : State) : Prop where
  kept : Kept s t
  idle : ∀ slot : SlotId, slot.index ∈ t.idle slot.device ↔ s.hasSlot slot = true
  once : ∀ name, (t.idle name).Nodup
  running : t.running = []
  overlaps : overlapCount t.log = 0
  willing : (∀ name, (s.conduct name).refusal = none) → refusalCount t.log = 0
  ran : Staffed s → ∀ number < units, runCount t.log (unitName number) = 1
  followed : Staffed s → followUpCount t.log + refusalCount t.log = units
  empty : Staffed s → t.queue = []
  unrun : ¬ Staffed s → t.log = []
  waiting : ¬ Staffed s → t.queue.length = units
  each : ¬ Staffed s → ∀ number < units, t.queue.countP (bears number) = 1

/-- Whatever a workload comes to when it has nothing left to do is its conclusion. -/
theorem Leads.concludes {producers each : Nat} (leads : Leads s (submitters producers each) t jobs)
    (fresh : Fresh s) (distinct : (s.slots.map Slot.id).Nodup) (quiet : Quiet jobs)
    (due : t.due = []) : Concluded s (producers * each) t := by
  have placed := leads.works.placed
  have units (number : Nat) : t.queue.countP (bears number) + runCount t.log (unitName number)
      = if number < producers * each then 1 else 0 := by
    have none : sumOf (Job.carries number) jobs = 0 := quiet.none_left (fun _ => rfl) rfl
    have same := leads.sameUnits number
    rw [unitsOf_submitters fresh, unitsOf, none] at same
    exact same
  have count : t.queue.length + followUpCount t.log + refusalCount t.log = producers * each := by
    have same := leads.sameCount
    rw [unitCount_submitters fresh, unitCount, quiet.awaits, due] at same
    exact same
  have empty (staffed : Staffed s) : t.queue = [] :=
    quiet.queue due placed (leads.watched staffed (.inl fresh.queue))
  have unrun (unstaffed : ¬ Staffed s) : t.log = [] :=
    (leads.barren unstaffed (barren_submitters fresh producers each)).log
  have kept := leads.kept
  constructor
  case kept => exact kept
  case once => exact placed.nodup_idle
  case idle =>
    intro slot
    rw [← kept.hasSlot]
    exact ⟨placed.present_of_idle, quiet.idle due placed⟩
  case running =>
    refine quiet.running due placed leads.works.loaded ?_
    rw [kept.sameSlots]
    exact distinct
  case overlaps =>
    rw [leads.sameOverlaps, fresh.log]
    rfl
  case willing =>
    intro willing
    have none : sumOf (fun job => job.task.isRefused.toNat) jobs = 0 :=
      quiet.none_left (fun _ => rfl) rfl
    have same := leads.sameRefused willing
    rw [refusedCount_submitters fresh, refusedCount, none] at same
    exact same
  case empty => exact empty
  case ran =>
    intro staffed number below
    have once := units number
    rw [empty staffed, if_pos below, List.countP_nil, Nat.zero_add] at once
    exact once
  case followed =>
    intro staffed
    rw [empty staffed, List.length_nil, Nat.zero_add] at count
    exact count
  case unrun => exact unrun
  case waiting =>
    intro unstaffed
    rw [unrun unstaffed] at count
    exact count
  case each =>
    intro unstaffed number below
    have once := units number
    rw [unrun unstaffed, if_pos below] at once
    exact once

/-! ### What is counted -/

/-- What is counted of some units at the end. -/
def counted (units : Nat) (t : State) : Tally :=
  let counts := (List.range units).map fun number => runCount t.log (unitName number)
  ⟨counts.countP (· == 1), counts.countP (· == 0), followUpCount t.log, overlapCount t.log,
    t.snapshot⟩

theorem tally_eq_counted (s : State) (units : Nat) : tally s units = counted units (run s units) :=
  rfl

/-- The view of the pools, by the names of the devices. -/
theorem pools_eq {s : State} (distinct : (s.devices.map Device.name).Nodup) :
    (s.devices.map fun device => (device.name, device.idle.length))
      = (s.devices.map Device.name).map fun name => (name, (s.idle name).length) := by
  rw [List.map_map]
  refine List.map_congr_left fun device there => ?_
  have found : s.device? device.name = some device := by
    cases found : s.device? device.name with
    | none => simpa using List.find?_eq_none.mp found device there
    | some other =>
        have same : other.name = device.name := by simpa using List.find?_some found
        have other : other = device :=
          List.inj_on_of_nodup_map distinct (List.mem_of_find?_eq_some found) there same
        rw [other]
  simp only [Function.comp_apply, State.idle, found]

/-- Two conclusions of a workload look the same. -/
theorem Concluded.snapshot_eq (first : Concluded s units t) (second : Concluded s units u)
    (distinct : (s.devices.map Device.name).Nodup) : t.snapshot = u.snapshot := by
  have pending : t.queue.length = u.queue.length := by
    by_cases staffed : Staffed s
    · rw [first.empty staffed, second.empty staffed]
    · rw [first.waiting staffed, second.waiting staffed]
  have pools (name : String) : (t.idle name).length = (u.idle name).length := by
    have perm : (t.idle name).Perm (u.idle name) := by
      rw [List.perm_ext_iff_of_nodup (first.once name) (second.once name)]
      intro index
      exact (first.idle ⟨name, index⟩).trans (second.idle ⟨name, index⟩).symm
    exact perm.length_eq
  have idle : (t.devices.map fun device => (device.name, device.idle.length))
      = u.devices.map fun device => (device.name, device.idle.length) := by
    rw [pools_eq (first.kept.sameNames ▸ distinct), pools_eq (second.kept.sameNames ▸ distinct),
      first.kept.sameNames, second.kept.sameNames]
    simp only [pools]
  have view : t.dispatcherView = u.dispatcherView := by
    unfold State.dispatcherView
    rw [pending, first.kept.serving, second.kept.serving, first.kept.samePriorities,
      second.kept.samePriorities, idle, first.kept.sameText, second.kept.sameText]
  unfold State.snapshot
  rw [first.running, second.running, first.kept.samePhase, second.kept.samePhase, view]

/-- What is counted at the end does not depend on the turns that have led there, if no device
refuses starts. -/
theorem Concluded.counted_eq (first : Concluded s units t) (second : Concluded s units u)
    (distinct : (s.devices.map Device.name).Nodup)
    (willing : ∀ name, (s.conduct name).refusal = none) : counted units t = counted units u := by
  have runs : ∀ number < units,
      runCount t.log (unitName number) = runCount u.log (unitName number) := by
    intro number below
    by_cases staffed : Staffed s
    · rw [first.ran staffed number below, second.ran staffed number below]
    · rw [first.unrun staffed, second.unrun staffed]
  have counts : ((List.range units).map fun number => runCount t.log (unitName number))
      = (List.range units).map fun number => runCount u.log (unitName number) :=
    List.map_congr_left fun number there => runs number (List.mem_range.mp there)
  have followUps : followUpCount t.log = followUpCount u.log := by
    by_cases staffed : Staffed s
    · have all := first.followed staffed
      have others := second.followed staffed
      rw [first.willing willing] at all
      rw [second.willing willing] at others
      omega
    · rw [first.unrun staffed, second.unrun staffed]
  unfold counted
  rw [counts, followUps, first.overlaps, second.overlaps, first.snapshot_eq second distinct]

end End

end SlotDispatch.Workload
