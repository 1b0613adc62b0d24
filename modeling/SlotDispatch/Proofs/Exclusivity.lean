import SlotDispatch.Proofs.Built
import SlotDispatch.Proofs.Ownership
import SlotDispatch.Proofs.SlotInvariant

/-!
No slot is given to two units of work. At every moment of a run a slot is idle in the pool
of its device, executes, or is in the hands of exactly one owner, as long as completions
come only from running slots and units of work keep to one start. A completion that comes
in while the unit still runs is no exception: by then the unit has given its slot away.
-/

namespace SlotDispatch

/-! ### Steps -/

/-- At this moment every slot is idle, executes or has one owner. -/
def Moment.Exclusive (counts : List Nat) (m : Moment) : Prop :=
  m.state.Exclusive (m.owners counts) m.thread.control.carries m.thread.control.clears

section Steps

variable {s : State} {frames : List Frame} {counts : List Nat}

theorem Move.Plain.exclusive {move : Move} (plain : move.Plain) (same : s.SameSlots move.state)
    (holds : s.Exclusive (held frames counts) [] []) : (move.onto frames).Exclusive counts := by
  rw [Moment.Exclusive, plain.owners]
  simp only [Move.onto, plain.carries, plain.clears]
  exact holds.of_sameSlots same (.refl _) (.refl _) (.refl _)

/-- The start of a slot takes it from its unit of work, or changes nothing. -/
theorem Call.exclusive_start {slot : SlotId} (holds : s.Exclusive (held frames counts) [] [])
    (runs : activation frames = some (.unit, slot)) (fresh : counts.head? = some 0) :
    ((s.start slot).onto frames).Exclusive
      (Moment.tally counts ⟨s, ⟨.call (.start slot), frames⟩⟩) := by
  rcases s.start_cases slot with ⟨error, refused, eq⟩ | ⟨granted, eq⟩
  · rw [eq, Moment.tally_of_refused refused]
    exact (Move.Plain.signal _ _).exclusive (s := s) ⟨rfl, rfl⟩ holds
  · rw [eq, Moment.tally_of_granted granted]
    rw [held_of_started runs fresh] at holds
    have started : (s.started slot).Exclusive
        (held frames (counts.modifyHead (· + 1))) [] [] :=
      (holds.of_sameSlots (t := s.note (.started slot)) ⟨rfl, rfl⟩ (.refl _)
        (.refl _) (.refl _)).granted (fun _ => rfl) fun _ => rfl
    have plain := ((s.started slot).flows_launch slot (s.conduct slot.device)).plain rfl
    exact plain.exclusive (State.undisturbed_launch _ _ _).toSameSlots started

open State in
/-- The call of a moment leaves every slot idle, executing or with one owner. -/
theorem Call.exclusive_step {call : Call} (atHand : Thread.Scoped ⟨.call call, frames⟩)
    (careful : Moment.Careful counts ⟨s, ⟨.call call, frames⟩⟩)
    (holds : Moment.Exclusive counts ⟨s, ⟨.call call, frames⟩⟩) :
    ((call.step s).onto frames).Exclusive (Moment.tally counts ⟨s, ⟨.call call, frames⟩⟩) := by
  cases call with
  | walk devices handedBack =>
      cases devices with
      | nil =>
          have plain : (Call.step s (.walk [] handedBack)).Plain := plain_step s rfl
          refine plain.exclusive ?_ holds
          simp only [step]
          split <;> exact ⟨rfl, rfl⟩
      | cons device rest =>
          simp only [step]
          split
          · exact holds
          · next index t popped =>
              obtain ⟨left, idle, rfl⟩ := popIdle_eq_some popped
              exact State.Exclusive.popped holds idle
  | offer slot devices =>
      simp only [step]
      split
      · exact State.Exclusive.of_sameSlots holds ⟨rfl, rfl⟩ (.refl _) (.refl _) (List.nil_subset _)
      · exact State.Exclusive.of_sameSlots holds ⟨rfl, rfl⟩ (.refl _) (.refl _) (.refl _)
  | bind slot work =>
      exact State.Exclusive.remarked holds (fun _ => rfl) (fun _ => rfl) (.inl rfl)
        (fun _ mem => List.mem_singleton.mp mem) fun _ mem => (List.not_mem_nil mem).elim
  | start slot =>
      obtain ⟨runs, fresh, -⟩ := careful.owns atHand rfl
      exact exclusive_start holds runs fresh
  | complete slot status =>
      have running := careful.delivered slot status rfl
      have completed : (s.modifySlot slot fun slot =>
          { slot with output := slot.input, running := false }).Exclusive
            (slot :: held frames counts) [] [] :=
        State.Exclusive.completed holds running (fun _ => rfl) (fun _ => rfl) fun _ => rfl
      simp only [step, State.complete]
      split
      · exact completed
      · exact completed.of_sameSlots ⟨rfl, rfl⟩ (List.sublist_cons_self _ _) (.refl _) (.refl _)
  | notify slot status =>
      refine State.Exclusive.of_sameSlots holds (undisturbed_notify s slot status).toSameSlots ?_
        (.refl _) (.refl _)
      simp only [step, State.notify]
      split <;> exact .refl _
  | discard slot =>
      exact State.Exclusive.of_sameSlots holds (undisturbed_clearContinuation s slot).toSameSlots
        (.refl _) (.refl _) (.refl _)
  | markIdle slot =>
      exact State.Exclusive.remarked holds (fun _ => rfl) (fun _ => rfl) (.inr List.mem_cons_self)
        (fun _ mem => List.mem_singleton.mp mem) fun _ mem => ⟨List.mem_singleton.mp mem, rfl⟩
  | pushIdle slot => exact State.Exclusive.pushed holds
  | act scope action =>
      exact (plain_step s rfl).exclusive (sameSlots_step s rfl) holds
  | script scope rest => exact (plain_step s rfl).exclusive (sameSlots_step s rfl) holds
  | schedule => exact (plain_step s rfl).exclusive (sameSlots_step s rfl) holds
  | perform slot work => exact (plain_step s rfl).exclusive (sameSlots_step s rfl) holds
  | followUp slot status => exact (plain_step s rfl).exclusive (sameSlots_step s rfl) holds

/-- The frame that a signal is handed to leaves every slot idle, executing or with one owner. -/
theorem Frame.exclusive_resume {signal : Signal} {frame : Frame}
    (tidy : Moment.Tidy counts ⟨s, ⟨.signal signal, frame :: frames⟩⟩)
    (holds : Moment.Exclusive counts ⟨s, ⟨.signal signal, frame :: frames⟩⟩) :
    ((frame.resume s signal).onto frames).Exclusive
      (Moment.tally counts ⟨s, ⟨.signal signal, frame :: frames⟩⟩) := by
  have owned : s.Exclusive (held (frame :: frames) counts) [] [] := holds
  have same := (frame.undisturbed_resume s signal).toSameSlots
  cases frame with
  | bound slot =>
      by_cases returns : ∃ answer, signal = .returned answer
      · obtain ⟨answer, rfl⟩ := returns
        have fewer : (held frames counts.tail).Sublist (held (.bound slot :: frames) counts) := by
          simp only [held]
          split
          · exact List.sublist_cons_self _ _
          · exact .refl _
        exact owned.of_sameSlots ⟨rfl, rfl⟩ fewer (.refl _) (.refl _)
      · -- A unit of work that fails still owns its slot, which it hands back.
        have fresh := tidy.failed signal slot frames rfl fun answer same =>
          returns ⟨answer, same⟩
        simp only [held, fresh, if_true] at owned
        cases signal with
        | returned answer => exact absurd ⟨answer, rfl⟩ returns
        | _ => exact owned.of_sameSlots ⟨rfl, rfl⟩ (.refl _) (List.nil_subset _) (.refl _)
  | completing slot =>
      cases signal with
      | panicked message =>
          exact owned.of_sameSlots ⟨rfl, rfl⟩ (.refl _) (List.nil_subset _) (.refl _)
      | _ =>
          simp only [resume]
          split
          · exact owned.of_sameSlots ⟨rfl, rfl⟩ (.refl _) (List.nil_subset _) (.refl _)
          · exact owned.of_sameSlots ⟨rfl, rfl⟩ (List.sublist_cons_self _ _) (.refl _) (.refl _)
  | parting slot kept =>
      have fewer : (held frames counts).Sublist (slot :: held frames counts) :=
        List.sublist_cons_self _ _
      cases signal <;> exact owned.of_sameSlots same fewer (.refl _) (.refl _)
  | _ =>
      rw [held_cons rfl] at owned
      exact (plain_resume s rfl signal).exclusive same owned

/-- Every step leaves every slot idle, executing or with one owner. -/
theorem Moment.Step.exclusive {m after : Moment} (step : m.Step after) (atHand : m.thread.Scoped)
    (tidy : m.Tidy counts) (holds : m.Exclusive counts) :
    after.Exclusive (m.tally counts) := by
  cases step with
  | call s call frames => exact Call.exclusive_step atHand tidy.toCareful holds
  | resume s signal frame frames => exact Frame.exclusive_resume tidy holds
  | begin s signal action => exact holds
  | deliver signal earlier later due =>
      exact State.Exclusive.of_sameSlots holds ⟨rfl, rfl⟩ (.refl _) (.refl _) (.refl _)
  | drop s signal =>
      exact State.Exclusive.of_sameSlots holds s.sameSlots_drop (.refl _) (.refl _) (.refl _)

end Steps

/-! ### Runs -/

/-- A dispatcher that was just built has all of its slots in their pools. -/
theorem State.idle_of_hasSlot_ofConfigured {configured : List (Backend × Nat)}
    {priorities : List Preference} (distinct : (configured.map fun entry => entry.1.name).Nodup)
    {slot : SlotId} (present : (ofConfigured configured priorities).hasSlot slot = true) :
    slot.index ∈ (ofConfigured configured priorities).idle slot.device := by
  obtain ⟨made, mem, rfl⟩ := List.mem_map.mp (hasSlot_iff.mp present)
  obtain ⟨backend, count, there, index, bound, rfl⟩ := mem_slots_ofConfigured.mp mem
  simp [Slot.fresh, idle_ofConfigured distinct there, bound]

/-- They are where they should be. -/
theorem State.exclusive_ofConfigured {configured : List (Backend × Nat)}
    {priorities : List Preference} (distinct : (configured.map fun entry => entry.1.name).Nodup) :
    (ofConfigured configured priorities).Exclusive [] [] [] := by
  have idle {name : String} {index : Nat}
      (mem : index ∈ (ofConfigured configured priorities).idle name) :
      ∃ backend count, (backend, count) ∈ configured ∧ backend.name = name ∧ index < count := by
    have found : ∃ device, (ofConfigured configured priorities).device? name = some device := by
      simp only [State.idle] at mem
      split at mem
      · simp at mem
      · next device found => exact ⟨device, found⟩
    obtain ⟨device, found⟩ := found
    obtain ⟨backend, count, there, rfl⟩ := configured_of_device? found
    rw [idle_ofConfigured distinct there] at mem
    exact ⟨backend, count, there, rfl, by simpa using mem⟩
  refine ⟨by simp, by simp, by simp, by simp, ?_, ?_, ?_, by simp, ?_⟩
  · intro name
    simp only [State.idle]
    split
    · exact List.nodup_nil
    · next device found =>
        obtain ⟨backend, count, there, rfl⟩ := configured_of_device? found
        rw [device?_ofConfigured distinct there] at found
        obtain rfl : backend.deviceWith count = device := by simpa using found
        exact List.nodup_reverse.mpr List.nodup_range
  · intro slot mem
    obtain ⟨backend, count, there, named, bound⟩ := idle mem
    rw [slot_ofConfigured]
    refine ⟨hasSlot_iff.mpr (List.mem_map.mpr ⟨.fresh slot, ?_, rfl⟩), rfl, rfl⟩
    exact mem_slots_ofConfigured.mpr ⟨backend, count, there, slot.index, bound, by rw [named]⟩
  · intro slot present absent
    exact absurd (idle_of_hasSlot_ofConfigured distinct present) absent
  · intro slot present
    obtain ⟨made, mem, rfl⟩ := List.mem_map.mp (hasSlot_iff.mp present)
    obtain ⟨backend, count, there, index, bound, rfl⟩ := mem_slots_ofConfigured.mp mem
    simp [Slot.fresh, device?_ofConfigured distinct there]

/-- No step adds or removes a slot. -/
theorem Moment.Step.keeps_slots {m after : Moment} (step : m.Step after) :
    after.state.slots.map Slot.id = m.state.slots.map Slot.id := by
  cases step with
  | call s call frames => exact call.slotIds_step s
  | resume s signal frame frames => exact (frame.undisturbed_resume s signal).slotIds
  | begin s signal action => rfl
  | deliver signal earlier later due => rfl
  | drop s signal => exact s.sameSlots_drop.slotIds

/-- What every moment of a tidy run has in common. -/
structure Moment.Sound (first : State) (counts : List Nat) (m : Moment) : Prop where
  atHand : m.thread.Scoped
  exclusive : m.Exclusive counts
  slots : m.state.slots.map Slot.id = first.slots.map Slot.id
  distinct : (m.state.slots.map Slot.id).Nodup

section Runs

variable {backends : List Backend} {priorities : List Preference} {s : State}
  {past : List Moment} {now : Moment}

/-- A tidy run leaves every slot idle, executing or with one owner. -/
theorem Run.sound_of_tidy (built : (construct backends priorities).result = .ok s)
    (run : Run (.initial s) past now) (tidy : Throughout Moment.Tidy past) :
    now.Sound s (starts past) := by
  induction run with
  | start =>
      obtain ⟨configured, distinct, rfl⟩ := construct_ok built
      exact ⟨⟨.none _, trivial⟩, State.exclusive_ofConfigured distinct, rfl,
        State.nodup_slots_ofConfigured distinct⟩
  | next run step ih =>
      obtain ⟨tidy, here⟩ := throughout_append_singleton.mp tidy
      have sound := ih tidy
      refine ⟨step.keeps_scope sound.atHand, ?_, step.keeps_slots.trans sound.slots, ?_⟩
      · rw [starts_append_singleton]
        exact step.exclusive sound.atHand here sound.exclusive
      · rw [step.keeps_slots]
        exact sound.distinct

/-- An orderly run leaves every slot idle, executing or with one owner. -/
theorem Run.sound (built : (construct backends priorities).result = .ok s)
    (run : Run (.initial s) past now) (orderly : Throughout Moment.Orderly past) :
    now.Sound s (starts past) :=
  run.sound_of_tidy built (orderly.mono fun _ _ => Moment.Orderly.tidy)

end Runs

/-- Slots are exclusive in every orderly run of a dispatcher that was built. Every pool holds
slots of its own device, each of them once, and none of them executes or is marked as bound.
A slot in no pool is marked, except that the dispatcher moves it and its mark in separate
steps. The pools and the slots outside of them add up to the slots the device was built
with. No slot is bound that is marked already, and no start is issued on a slot that
executes. -/
theorem slots_are_exclusive {backends : List Backend} {priorities : List Preference} {s : State}
    {past : List Moment} {now : Moment}
    (built : (construct backends priorities).result = .ok s) (run : Run (.initial s) past now)
    (orderly : Throughout Moment.Orderly past) :
    (∀ name, (now.state.idle name).Nodup ∧ ∀ index ∈ now.state.idle name,
        now.state.hasSlot ⟨name, index⟩ = true ∧ (now.state.slot ⟨name, index⟩).running = false
          ∧ (now.state.slot ⟨name, index⟩).bound = false)
      ∧ (∀ slot : SlotId, now.state.hasSlot slot = true →
        slot.index ∉ now.state.idle slot.device →
          (now.state.slot slot).bound = true ∨ slot ∈ now.thread.control.carries)
      ∧ (∀ name, (now.state.idle name).length + now.state.outside name
            = now.state.slotCount name
          ∧ now.state.slotCount name = s.slotCount name)
      ∧ (∀ slot work, now.thread.control = .call (.bind slot work) →
          (now.state.slot slot).bound = false)
      ∧ (now.Orderly (starts past) → ∀ slot, now.thread.control = .call (.start slot) →
          (now.state.slot slot).running = false) := by
  have sound := run.sound built orderly
  have exclusive := sound.exclusive
  refine ⟨fun name => ⟨exclusive.pooled name, fun index idle => ?_⟩, exclusive.marked,
    fun name => ⟨exclusive.idle_add_outside sound.distinct name, ?_⟩, ?_, ?_⟩
  · exact exclusive.resting ⟨name, index⟩ idle
  · rw [State.slotCount_eq_countP, State.slotCount_eq_countP, sound.slots]
  · intro slot work binds
    exact exclusive.clear slot (by simp [binds, Control.clears])
  · intro here slot starts'
    obtain ⟨-, -, own⟩ := here.owns sound.atHand starts'
    exact exclusive.still slot (List.mem_append_right _ own)

/-- One slot, and a unit of work whose start completes at once; while the unit still runs,
its slot has been idle again and is bound to the next unit. -/
theorem slots_are_exclusive_single :
    let immediate : Conduct := ⟨.immediate, .ok, none⟩
    let thread := Thread.ofCall (.act none (.submit "u" [.submit "v" [], .start]))
    let past := Moment.initial (.single immediate) :: thread.passed 28 (.single immediate)
    let last := (thread.run 28 (.single immediate)).1
    Throughout Moment.Orderly past ∧ (last.slot ⟨"A", 0⟩).bound = true
      ∧ (last.idle "A").length + last.outside "A" = last.slotCount "A" := by
  have orderly : Throughout Moment.Orderly (.initial (.single ⟨.immediate, .ok, none⟩)
      :: (Thread.ofCall (.act none (.submit "u" [.submit "v" [], .start]))).passed 28
        (.single ⟨.immediate, .ok, none⟩)) :=
    throughout_of_passes (fun _ _ => Moment.orderly_of_isOrderly) (by decide +kernel)
  have exclusive := slots_are_exclusive (State.construct_single _)
    (Run.operation 28 _ _ (.submit "u" [.submit "v" [], .start])) orderly
  exact ⟨orderly, by decide +kernel, (exclusive.2.2.1 "A").1⟩

end SlotDispatch
