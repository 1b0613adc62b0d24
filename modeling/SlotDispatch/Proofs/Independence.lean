import SlotDispatch.Proofs.Conclusion

/-!
A workload does not depend on the order of turns: no crowd to which producers can come runs a unit
twice or starts a slot that is running, and when all threads have finished, what is counted is what
is counted in the plainest order.
-/

namespace SlotDispatch

namespace Workload

/-! ### A dispatcher that was just built -/

section Start

variable {backends : List Backend} {priorities : List Preference}
  {configured : List (Backend × Nat)}

theorem fresh_ofConfigured : Fresh (.ofConfigured configured priorities) := ⟨rfl, rfl, rfl⟩

theorem names_ofConfigured :
    (State.ofConfigured configured priorities).devices.map Device.name
      = configured.map fun entry => entry.1.name := by
  simp only [State.ofConfigured, List.map_map]
  rfl

/-- The devices of its priority list are among its devices. -/
theorem ordered_ofConfigured (lists : Configured backends priorities configured) :
    Ordered (.ofConfigured configured priorities) := by
  constructor
  · have among : (priorities.map Preference.name).Subperm
        (configured.map fun entry => entry.1.name) := by
      refine List.subperm_of_subset lists.listedOnce fun name there => ?_
      obtain ⟨entry, mem, rfl⟩ := List.mem_map.mp there
      exact lists.listed entry mem
    simpa [State.ofConfigured] using among.length_le
  · exact State.nodup_slots_ofConfigured lists.distinct

end Start

/-- A task that is about to start a slot has it in its hands. -/
theorem Task.of_start {task : Task} {slot : SlotId} {frames : List Frame}
    (starts : task.thread = ⟨.call (.start slot), frames⟩) :
    task.slot? = some slot ∧ task.completes = false := by
  cases task with
  | running caller own number point =>
      cases point with
      | starting =>
          cases starts
          exact ⟨rfl, rfl⟩
      | _ => cases starts
  | returning caller slot stage after => cases stage <;> cases starts
  | _ => cases starts

end Workload

/-! ### The law -/

open Workload in
/-- A workload does not depend on the order of turns. Producers submit `producers * each` units
of work, each of which leaves a continuation and starts its slot, to a dispatcher whose devices
complete what was started in threads of their own. Whatever turns the threads take, no unit runs
twice, no slot is started while it is running, and no slot is twice in its pool. Once all threads
have finished, every unit has run, nothing waits, every slot is in its pool, and as many
continuations have run as units were not refused by their device, provided that a device of the
priority list has a slot. If none has, no unit has run, and all of them wait. And unless devices
refuse starts, what is counted then is the tally of the plainest order. -/
theorem workload_is_independent_of_turns {backends : List Backend} {priorities : List Preference}
    {s : State} {producers each : Nat} {c : Crowd}
    (built : (construct backends priorities).result = .ok s)
    (background : ∀ backend ∈ backends, backend.conduct.mode = .background)
    (comes : (Crowd.producing s producers each).Comes c) :
    (∀ number, runCount c.state.log (unitName number) ≤ 1)
      ∧ overlapCount c.state.log = 0
      ∧ (∀ worker ∈ c.workers, ∀ slot frames, worker.thread = ⟨.call (.start slot), frames⟩ →
          (c.state.slot slot).running = false)
      ∧ (∀ name, (c.state.idle name).Nodup)
      ∧ (c.Finished →
          ((∃ entry ∈ priorities, 0 < s.slotCount entry.name) →
            (∀ number < producers * each, runCount c.state.log (unitName number) = 1)
              ∧ followUpCount c.state.log + refusalCount c.state.log = producers * each
              ∧ ((∀ backend ∈ backends, backend.conduct.refusal = none) →
                followUpCount c.state.log = producers * each)
              ∧ c.state.queue = []
              ∧ ∀ slot : SlotId, s.hasSlot slot = true →
                slot.index ∈ c.state.idle slot.device)
          ∧ ((∀ entry ∈ priorities, s.slotCount entry.name = 0) →
            (∀ number, runCount c.state.log (unitName number) = 0)
              ∧ c.state.queue.length = producers * each
              ∧ ∀ number < producers * each, c.state.queue.countP (bears number) = 1)
          ∧ ((∀ backend ∈ backends, backend.conduct.refusal = none) →
            counted (producers * each) c.state = tally s (producers * each))) := by
  obtain ⟨configured, lists, rfl⟩ := construct_configured built
  rw [producing_eq] at comes
  have works (producers each : Nat) :
      Works (.ofConfigured configured priorities) (submitters producers each) :=
    works_ofConfigured lists.distinct
      (fun entry mem => background _ (lists.given entry mem)) producers each
  have fresh : Fresh (.ofConfigured configured priorities) := fresh_ofConfigured
  have ordered : Ordered (.ofConfigured configured priorities) := ordered_ofConfigured lists
  obtain ⟨jobs, crowd, leads⟩ := leads_of_comes (works producers each) comes
  refine ⟨?_, leads.sameOverlaps, ?_, leads.works.placed.nodup_idle, fun finished => ?_⟩
  · intro number
    have once := leads.sameUnits number
    rw [unitsOf_submitters fresh, unitsOf] at once
    split at once <;> omega
  · intro worker there slot frames starts
    rw [crowd] at there
    obtain ⟨job, mem, rfl⟩ := List.mem_map.mp there
    obtain ⟨hand, stays⟩ := Task.of_start starts
    exact (leads.works.loaded.tasks job mem).still slot hand stays
  · have quiet : Quiet jobs := quiet_of_finished crowd finished
    have last := leads.concludes fresh ordered.distinct quiet finished.due
    have refusing (willing : ∀ backend ∈ backends, backend.conduct.refusal = none) :
        ∀ name, ((State.ofConfigured configured priorities).conduct name).refusal = none :=
      refusal_ofConfigured lists.distinct fun entry mem => willing _ (lists.given entry mem)
    refine ⟨fun staffed => ?_, fun vacant => ?_, fun willing => ?_⟩
    · have staffed : Staffed (.ofConfigured configured priorities) := staffed_iff.mpr staffed
      refine ⟨last.ran staffed, last.followed staffed, fun willing => ?_, last.empty staffed,
        fun slot present => (last.idle slot).mpr present⟩
      have all := last.followed staffed
      rw [last.willing (refusing willing)] at all
      exact all
    · have unstaffed : ¬ Staffed (.ofConfigured configured priorities) := by
        rw [staffed_iff]
        rintro ⟨entry, listed, pos⟩
        have zero := vacant entry listed
        omega
      refine ⟨fun number => ?_, last.waiting unstaffed, last.each unstaffed⟩
      rw [last.unrun unstaffed]
      rfl
    · have count : unitCount (.ofConfigured configured priorities)
          (submitters 1 (producers * each)) = producers * each := by
        rw [unitCount_submitters fresh, Nat.one_mul]
      obtain ⟨others, quiet, runs, due⟩ := run_quiet (works 1 _) ordered count
      have plainest := runs.concludes fresh ordered.distinct quiet due
      rw [Nat.one_mul] at plainest
      rw [tally_eq_counted]
      refine last.counted_eq plainest ?_ (refusing willing)
      rw [names_ofConfigured]
      exact lists.distinct

open Workload in
/-- Two producers and one slot. The thread in which the slot has completed finds nothing to do and
still has the slot in its hands when the second producer submits its unit and finds no slot. -/
theorem workload_is_independent_of_turns_two :
    let s := State.single ⟨.background, .ok, none⟩
    let turns : List Crowd.Turn :=
      List.replicate 40 (.worker 0) ++ .due 0 :: List.replicate 11 (.worker 2)
        ++ List.replicate 40 (.worker 1) ++ List.replicate 40 (.worker 2)
        ++ .due 0 :: List.replicate 40 (.worker 3)
    let c := turns.foldl Crowd.turn (Crowd.producing s 2 1)
    c.Finished ∧ (∀ number < 2, runCount c.state.log (unitName number) = 1)
      ∧ followUpCount c.state.log = 2 ∧ c.state.queue = [] ∧ 0 ∈ c.state.idle "A"
      ∧ counted 2 c.state = tally s 2 := by
  intro s turns c
  have finished : c.Finished := by decide +kernel
  have comes : (Crowd.producing s 2 1).Comes c := Crowd.comes_turns _ turns
  obtain ⟨-, -, -, -, last⟩ := workload_is_independent_of_turns
    (State.construct_single ⟨.background, .ok, none⟩) (by simp) comes
  obtain ⟨staffed, -, same⟩ := last finished
  obtain ⟨ran, -, followed, empty, idle⟩ := staffed ⟨⟨"A", none⟩, by simp, by decide⟩
  exact ⟨finished, ran, followed (by simp), empty, idle ⟨"A", 0⟩ rfl, same (by simp)⟩

end SlotDispatch
