import Mathlib.Algebra.Ring.Nat
import SlotDispatch.Proofs.Conservation
import SlotDispatch.Proofs.Exclusivity

/-!
How many completions a run can still see. Every completion ends an execution that a unit of
work has started, and no unit starts twice. So the slots that execute, the units that wait
and the units that run without having started their slot bound the completions to come, as
long as no unit is added. `Run.completions_add_potential_le` is the account of a run.
-/

namespace SlotDispatch

namespace Moment

/-- The units of work that run and have not started their slot. The one about to run is
still counted among those in hand. -/
def spare (counts : List Nat) (m : Moment) : Nat :=
  match m.thread.control with
  | .call (.perform _ _) => counts.tail.count 0
  | _ => counts.count 0

/-- The completions that a run can still come to without further units of work. -/
def potential (counts : List Nat) (m : Moment) : Nat :=
  m.state.running.length + (m.inHand ++ m.state.queue).length + m.spare counts

/-- Whether a slot completes with the next step. -/
def completes (m : Moment) : Nat :=
  match m.thread.control with
  | .call (.complete _ _) => 1
  | _ => 0

/-- Whether an execution is started with the next step. -/
def launches (m : Moment) : Nat :=
  match m.thread.control with
  | .call (.start slot) => (m.state.grants slot).toNat
  | _ => 0

end Moment

/-- The number of completions in a run. -/
def completions (past : List Moment) : Nat := (past.map Moment.completes).sum

@[simp] theorem completions_append (past later : List Moment) :
    completions (past ++ later) = completions past + completions later := by
  simp [completions]

@[simp] theorem completions_singleton (m : Moment) : completions [m] = m.completes := by
  simp [completions]

/-! ### The slots that execute -/

namespace State

theorem length_running (s : State) :
    s.running.length = sumOf (fun slot => slot.running.toNat) s.slots := by
  rw [running, List.length_map]
  induction s.slots with
  | nil => rfl
  | cons first rest ih =>
      rw [sumOf_cons, ← ih]
      cases executes : first.running with
      | false => simp [executes]
      | true =>
          simp only [List.filter_cons_of_pos executes, List.length_cons, Bool.toNat_true]
          omega

/-- A change of one slot changes the number of those that execute by what it changes there. -/
theorem length_running_modifySlot {s : State} {id : SlotId}
    (distinct : (s.slots.map Slot.id).Nodup) (present : s.hasSlot id = true)
    (change : Slot → Slot) :
    (s.modifySlot id change).running.length + (s.slot id).running.toNat
      = s.running.length + (change (s.slot id)).running.toNat := by
  rw [length_running, length_running]
  exact sumOf_modifySlot (fun slot => slot.running.toNat) distinct present change

end State

/-! ### Steps -/

section Steps

variable {s : State} {frames : List Frame} {counts : List Nat}

/-- A start that is granted adds one slot to those that execute, a completion takes one. -/
theorem Call.length_running_step {call : Call} {first : State}
    (sound : Moment.Sound first counts ⟨s, ⟨.call call, frames⟩⟩)
    (orderly : Moment.Orderly counts ⟨s, ⟨.call call, frames⟩⟩) :
    (call.step s).state.running.length + Moment.completes ⟨s, ⟨.call call, frames⟩⟩
      = s.running.length + Moment.launches ⟨s, ⟨.call call, frames⟩⟩ := by
  have distinct : (s.slots.map Slot.id).Nodup := sound.distinct
  have exclusive := sound.exclusive
  cases call with
  | walk devices handedBack =>
      cases devices <;> simp only [step] <;> split
      · rfl
      · rfl
      · rfl
      · next index t popped =>
          obtain ⟨rest, -, rfl⟩ := State.popIdle_eq_some popped
          rfl
  | bind slot work =>
      have present : s.hasSlot slot = true := exclusive.known slot List.mem_cons_self
      have count := State.length_running_modifySlot distinct present
        fun slot => { slot with bound := true, pinned := true }
      exact Nat.add_right_cancel count
  | start slot =>
      obtain ⟨-, -, own⟩ := orderly.owns sound.atHand rfl
      have present : s.hasSlot slot = true := exclusive.known slot (List.mem_append_right _ own)
      rcases s.start_cases slot with ⟨error, refused, eq⟩ | ⟨granted, eq⟩
      · simp only [step, eq, Moment.completes, Moment.launches, refused]
        rfl
      · have idle : (s.slot slot).running = false := by
          simpa using ((Bool.and_eq_true _ _).mp granted).2
        have count := State.length_running_modifySlot (s := s.note (.started slot)) distinct present
          fun slot => { slot with running := true, output := none }
        have still : ((s.note (.started slot)).slot slot).running = false := idle
        simp only [step, eq, Moment.completes, Moment.launches, granted]
        rw [still] at count
        rw [(State.undisturbed_launch _ _ _).running]
        exact count
  | complete slot status =>
      have running : (s.slot slot).running = true := orderly.delivered slot status rfl
      have count := State.length_running_modifySlot distinct (State.hasSlot_of_running running)
        fun slot => { slot with output := slot.input, running := false }
      rw [running] at count
      simp only [step, State.complete]
      split <;> exact count
  | markIdle slot =>
      have present : s.hasSlot slot = true := exclusive.known slot List.mem_cons_self
      have count := State.length_running_modifySlot distinct present
        fun slot => { slot with bound := false, pinned := false }
      exact Nat.add_right_cancel count
  | pushIdle slot => rfl
  | _ => exact congrArg List.length (sameSlots_step s rfl).running

theorem Moment.spare_le (counts : List Nat) (m : Moment) : m.spare counts ≤ counts.count 0 := by
  unfold spare
  split
  · exact (List.tail_sublist counts).count_le 0
  · exact Nat.le_refl _

/-- A step that launches nothing, of no unit about to run, may only drop counts. -/
theorem Moment.spare_le_of_count_le {counts' : List Nat} {m : Moment} (after : Moment)
    (launches : m.launches = 0) (spare : m.spare counts = counts.count 0)
    (fewer : counts'.count 0 ≤ counts.count 0) :
    after.spare counts' + m.launches ≤ m.spare counts + m.begins.length := by
  have bound := spare_le counts' after
  omega

/-- A unit of work that begins to run may start its slot; one that starts it may not again. -/
theorem Moment.Step.spare_add_launches_le {m after : Moment} (step : m.Step after)
    (orderly : m.Orderly counts) :
    after.spare (m.tally counts) + m.launches ≤ m.spare counts + m.begins.length := by
  cases step with
  | call s call frames =>
      cases call with
      | bind slot work => exact Nat.le_refl _
      | perform slot work =>
          have one : counts.count 0 ≤ counts.tail.count 0 + 1 := by
            cases counts with
            | nil => simp
            | cons count rest =>
                rw [List.count_cons, List.tail_cons]
                split <;> omega
          exact Nat.le_trans (spare_le _ _) one
      | start slot =>
          obtain ⟨-, fresh⟩ := orderly.started slot rfl
          cases granted : s.grants slot with
          | false =>
              rw [tally_of_refused granted]
              exact spare_le_of_count_le _ (by simp [launches, granted]) rfl (Nat.le_refl _)
          | true =>
              have fewer : (counts.modifyHead (· + 1)).count 0 + 1 = counts.count 0 := by
                cases counts with
                | nil => simp at fresh
                | cons count rest =>
                    obtain rfl : count = 0 := by simpa using fresh
                    simp
              have one : launches ⟨s, ⟨.call (.start slot), frames⟩⟩ = 1 := by
                simp [launches, granted]
              have bound := spare_le (counts.modifyHead (· + 1))
                ((Call.step s (.start slot)).onto frames)
              rw [tally_of_granted granted, one]
              change _ ≤ counts.count 0
              omega
      | _ => exact spare_le_of_count_le _ rfl rfl (Nat.le_refl _)
  | resume s signal frame frames =>
      cases frame with
      | bound slot =>
          exact spare_le_of_count_le _ rfl rfl ((List.tail_sublist counts).count_le 0)
      | _ => exact spare_le_of_count_le _ rfl rfl (Nat.le_refl _)
  | begin s signal action => exact Nat.le_refl _
  | deliver signal earlier later due => exact Nat.le_refl _
  | drop s signal => exact Nat.le_refl _

/-- Units of work come only from callers. -/
theorem Moment.Step.length_waiting_le {m after : Moment} (step : m.Step after) :
    m.begins.length + (after.inHand ++ after.state.queue).length
      ≤ (m.inHand ++ m.state.queue).length + m.accepts.length := by
  rcases step.passes_or_ends with passes | ends
  · have units := congrArg List.length passes.units
    simp only [List.length_append] at units ⊢
    omega
  · obtain ⟨begins, -, -, inHand⟩ := ends.idle
    simp [begins, inHand, ends.emptied]

/-- Every step accounts for the slots that execute. -/
theorem Moment.Step.length_running {m after : Moment} {first : State} (step : m.Step after)
    (sound : m.Sound first counts) (orderly : m.Orderly counts) :
    after.state.running.length + m.completes = m.state.running.length + m.launches := by
  cases step with
  | call s call frames => exact Call.length_running_step sound orderly
  | resume s signal frame frames =>
      exact congrArg List.length (frame.undisturbed_resume s signal).running
  | begin s signal action => rfl
  | deliver signal earlier later due => rfl
  | drop s signal => exact congrArg List.length s.sameSlots_drop.running

/-- A completion uses up potential, and only new units of work add to it. -/
theorem Moment.Step.completes_add_potential_le {m after : Moment} {first : State}
    (step : m.Step after) (sound : m.Sound first counts) (orderly : m.Orderly counts) :
    m.completes + after.potential (m.tally counts) ≤ m.potential counts + m.accepts.length := by
  have running := step.length_running sound orderly
  have spare := step.spare_add_launches_le orderly
  have waiting := step.length_waiting_le
  unfold potential
  omega

end Steps

/-! ### Runs -/

/-- The completions of a run are paid for by the potential it began with and by the units of
work accepted since. -/
theorem Run.completions_add_potential_le {backends : List Backend} {priorities : List Preference}
    {s : State} {past passed : List Moment} {now last : Moment}
    (built : (construct backends priorities).result = .ok s) (run : Run (.initial s) past now)
    (onward : Run now passed last) (orderly : Throughout Moment.Orderly (past ++ passed)) :
    completions passed + last.potential (starts (past ++ passed))
      ≤ now.potential (starts past) + (accepted passed).length := by
  induction onward with
  | start => simp [completions, accepted]
  | @next passed last after onward step ih =>
      rw [← List.append_assoc] at orderly
      obtain ⟨orderly, here⟩ := throughout_append_singleton.mp orderly
      have sound := (run.append onward).sound built orderly
      have paid := step.completes_add_potential_le sound here
      have earlier := ih orderly
      rw [← List.append_assoc, starts_append_singleton, completions_append, accepted_append,
        completions_singleton, accepted_singleton, List.length_append]
      omega

end SlotDispatch
