import Mathlib.Data.List.Count
import SlotDispatch.Proofs.Exclusivity
import SlotDispatch.Proofs.Totals
import SlotDispatch.Proofs.Wakeups

/-!
Whatever producers come to. A crowd to which producers can come is a crowd of tasks, and keeps
what every turn keeps (`leads_of_comes`). At the start, there is one unit of every number below
the product of the producers and their units, and every slot is in its pool.
-/

namespace SlotDispatch.Workload

/-! ### A workload that goes on -/

section Turns

variable {s t : State} {jobs jobs' : List Job} {task after : Task}

/-- Only units wait. -/
theorem Task.Moves.units (moves : task.Moves s t after)
    (units : ∃ waiting : List Nat, s.queue = waiting.map unit) :
    ∃ waiting : List Nat, t.queue = waiting.map unit := by
  obtain ⟨waiting, same⟩ := units
  cases moves with
  | submitted number =>
      refine ⟨waiting ++ [number], ?_⟩
      simp [same]
  | used caller slot devices number queue first =>
      rw [same] at first
      cases waiting with
      | nil => cases first
      | cons other rest => exact ⟨rest, (List.cons.inj first).2.symm⟩
  | left caller slot number id =>
      have kept := (State.undisturbed_setContinuation s slot (.scripted id [])).sameQueue
      exact ⟨waiting, kept.trans same⟩
  | discarded caller slot after =>
      have kept := (State.undisturbed_clearContinuation s slot).sameQueue
      exact ⟨waiting, kept.trans same⟩
  | _ => exact ⟨waiting, same⟩

theorem Going.shift (going : Going s) (shift : Shift s jobs t jobs') : Going t := by
  have kept := shift.kept
  constructor
  · rw [kept.serving]
    exact going.serving
  · cases shift with
    | moves earlier later todo moves => exact moves.units going.units
    | begins | completes => exact going.units
  · exact kept.attached going.attached
  · intro slot present
    rw [kept.hasSlot] at present
    rw [kept.sameConduct]
    exact going.background slot present

/-- What holds of a workload at every turn. -/
structure Works (s : State) (jobs : List Job) : Prop where
  going : Going s
  placed : Placed s jobs
  loaded : Loaded s jobs

theorem Works.shift (works : Works s jobs) (shift : Shift s jobs t jobs') : Works t jobs' where
  going := works.going.shift shift
  placed := works.placed.shift shift
  loaded := works.loaded.shift works.placed shift

/-- The jobs of a crowd of which one thread is singled out. -/
theorem jobs_of_workers {earlier later : List Worker} {worker : Worker}
    (crowd : earlier ++ worker :: later = jobs.map Job.worker) :
    ∃ before job behind, jobs = before ++ job :: behind ∧ earlier = before.map Job.worker
      ∧ worker = job.worker ∧ later = behind.map Job.worker := by
  obtain ⟨before, rest, rfl, earlier, others⟩ := List.map_eq_append_iff.mp crowd.symm
  obtain ⟨job, behind, rfl, same, later⟩ := List.map_eq_cons_iff.mp others
  exact ⟨before, job, behind, rfl, earlier.symm, same.symm, later.symm⟩

/-- Every turn of a crowd of tasks is one in terms of tasks. -/
theorem shift_of_step {c d : Crowd} (crowd : c.workers = jobs.map Job.worker)
    (works : Works c.state jobs) (step : c.Step d) :
    ∃ jobs', d.workers = jobs'.map Job.worker ∧ Shift c.state jobs d.state jobs' := by
  cases step with
  | @advance s t thread next earlier later todo stepped =>
      obtain ⟨before, job, behind, rfl, rfl, same, rfl⟩ := jobs_of_workers crowd
      obtain ⟨numbers, task⟩ := job
      obtain ⟨rfl, rfl⟩ := Worker.mk.inj same
      have mem : ⟨numbers, task⟩ ∈ before ++ ⟨numbers, task⟩ :: behind :=
        mem_replaced.mpr (.inl rfl)
      obtain ⟨after, rfl, moves⟩ := Task.moves_of_step works.going (works.loaded.tasks _ mem)
        (fun slot hand => works.placed.present mem hand) stepped
      exact ⟨before ++ ⟨numbers, after⟩ :: behind, by simp [Job.worker],
        .moves before behind numbers moves⟩
  | begin s earlier later signal action todo =>
      obtain ⟨before, job, behind, rfl, rfl, same, rfl⟩ := jobs_of_workers crowd
      obtain ⟨numbers, task⟩ := job
      obtain ⟨submissions, rests⟩ := Worker.mk.inj same
      obtain ⟨number, rest, rfl, rfl, rfl⟩ := List.map_eq_cons_iff.mp submissions.symm
      exact ⟨before ++ ⟨rest, .submitting number⟩ :: behind, by simp [Job.worker, Task.thread],
        .begins before behind number rest signal rests.symm⟩
  | @complete s slot status workers earlier later due =>
      obtain rfl : workers = jobs.map Job.worker := crowd
      exact ⟨jobs ++ [⟨[], .completing slot status⟩], by simp [Job.worker, Task.thread],
        .completes jobs earlier later due⟩

/-- What a workload keeps from one state to a later one. -/
structure Leads (s : State) (jobs : List Job) (t : State) (jobs' : List Job) : Prop where
  works : Works t jobs'
  kept : Kept s t
  sameUnits : ∀ number, unitsOf number t jobs' = unitsOf number s jobs
  sameCount : unitCount t jobs' = unitCount s jobs
  sameOverlaps : overlapCount t.log = overlapCount s.log
  noLessRefusals : refusalCount s.log ≤ refusalCount t.log
  sameRefused : (∀ name, (s.conduct name).refusal = none) →
    refusedCount t jobs' = refusedCount s jobs
  watched : Staffed s → Watched s jobs → Watched t jobs'
  barren : ¬ Staffed s → Barren s jobs → Barren t jobs'

theorem Leads.refl (works : Works s jobs) : Leads s jobs s jobs where
  works := works
  kept := .of_eq rfl rfl rfl rfl rfl
  sameUnits _ := rfl
  sameCount := rfl
  sameOverlaps := rfl
  noLessRefusals := Nat.le_refl _
  sameRefused _ := rfl
  watched _ := id
  barren _ := id

theorem Leads.of_shift (works : Works s jobs) (shift : Shift s jobs t jobs') :
    Leads s jobs t jobs' where
  works := works.shift shift
  kept := shift.kept
  sameUnits := shift.unitsOf_eq
  sameCount := shift.unitCount_eq
  sameOverlaps := shift.overlaps
  noLessRefusals := shift.refusals_le
  sameRefused := shift.refusedCount_eq
  watched staffed watched := watched.shift staffed works.placed shift
  barren unstaffed barren := barren.shift unstaffed works.placed shift

theorem Leads.trans {u : State} {last : List Job} (first : Leads s jobs t jobs')
    (second : Leads t jobs' u last) : Leads s jobs u last where
  works := second.works
  kept := first.kept.trans second.kept
  sameUnits number := (second.sameUnits number).trans (first.sameUnits number)
  sameCount := second.sameCount.trans first.sameCount
  sameOverlaps := second.sameOverlaps.trans first.sameOverlaps
  noLessRefusals := Nat.le_trans first.noLessRefusals second.noLessRefusals
  sameRefused willing := by
    have stillWilling : ∀ name, (t.conduct name).refusal = none := by
      intro name
      rw [first.kept.sameConduct]
      exact willing name
    exact (second.sameRefused stillWilling).trans (first.sameRefused willing)
  watched staffed watched :=
    second.watched (first.kept.staffed.mpr staffed) (first.watched staffed watched)
  barren unstaffed barren :=
    second.barren (fun staffed => unstaffed (first.kept.staffed.mp staffed))
      (first.barren unstaffed barren)

/-- Whatever a crowd of tasks comes to is a crowd of tasks, and keeps what turns keep. -/
theorem leads_of_comes {c : Crowd} (works : Works s jobs)
    (comes : Crowd.Comes ⟨s, jobs.map Job.worker⟩ c) :
    ∃ jobs', c.workers = jobs'.map Job.worker ∧ Leads s jobs c.state jobs' := by
  induction comes with
  | refl => exact ⟨jobs, rfl, .refl works⟩
  | tail _ step ih =>
      obtain ⟨before, crowd, leads⟩ := ih
      obtain ⟨after, crowd, shift⟩ := shift_of_step crowd leads.works step
      exact ⟨after, crowd, leads.trans (.of_shift leads.works shift)⟩

end Turns

/-! ### The start -/

/-- Producers that have yet to submit `each` units each. -/
def submitters (producers each : Nat) : List Job :=
  (List.range producers).map fun producer =>
    ⟨(List.range each).map (producer * each + ·), .resting .done⟩

theorem producing_eq (s : State) (producers each : Nat) :
    Crowd.producing s producers each = ⟨s, (submitters producers each).map Job.worker⟩ := by
  simp [Crowd.producing, submitters, Job.worker, Task.thread, Function.comp_def]

theorem task_of_submitters {producers each : Nat} {job : Job}
    (mem : job ∈ submitters producers each) : job.task = .resting .done := by
  obtain ⟨producer, -, rfl⟩ := List.mem_map.mp mem
  rfl

/-- Together, the producers submit the units of the numbers below their product. -/
theorem total_submitters {share : Job → Nat} {part : List Nat → Nat}
    (adds : ∀ numbers others, part (numbers ++ others) = part numbers + part others)
    (shares : ∀ todo, share ⟨todo, .resting .done⟩ = part todo) (producers each : Nat) :
    sumOf share (submitters producers each) = part (List.range (producers * each)) := by
  induction producers with
  | zero =>
      have none := adds [] []
      simp only [List.append_nil] at none
      simp only [submitters, Nat.zero_mul, List.range_zero, List.map_nil, sumOf_nil]
      omega
  | succ producers ih =>
      have split : submitters (producers + 1) each
          = submitters producers each
            ++ [⟨(List.range each).map (producers * each + ·), .resting .done⟩] := by
        simp [submitters, List.range_succ]
      rw [split, sumOf_append, ih, Nat.succ_mul, List.range_add, adds, sumOf_cons, sumOf_nil,
        shares]
      rfl

/-- Units of different numbers have different names. -/
theorem unitName_injective : Function.Injective unitName := by
  intro number other same
  have digits : Nat.toDigits 10 number = Nat.toDigits 10 other := by
    rw [← Nat.toList_repr, ← Nat.toList_repr]
    exact congrArg String.toList same
  have read := congrArg (fun digits => Nat.ofDigitChars 10 digits 0) digits
  simpa only [Nat.ofDigitChars_ten_toDigits] using read

/-- A dispatcher on which nothing has happened yet. -/
structure Fresh (s : State) : Prop where
  queue : s.queue = []
  due : s.due = []
  log : s.log = []

section Fresh

variable {s : State} (fresh : Fresh s) (producers each : Nat)

include fresh

/-- There is one unit of every number, and no other. -/
theorem unitsOf_submitters (number : Nat) :
    unitsOf number s (submitters producers each) = if number < producers * each then 1 else 0 := by
  have submits : sumOf (Job.carries number) (submitters producers each)
      = (List.range (producers * each)).count number := by
    refine total_submitters (fun _ _ => List.count_append) ?_ producers each
    intro todo
    simp only [Job.carries, Task.carries, List.count, Nat.add_zero]
    congr
    funext own
    rw [Bool.eq_iff_iff, beq_iff_eq, beq_iff_eq, unitName_injective.eq_iff]
  rw [unitsOf, fresh.queue, fresh.log, submits, List.nodup_range.count]
  simp [runCount]

theorem unitCount_submitters : unitCount s (submitters producers each) = producers * each := by
  have submits : sumOf Job.awaits (submitters producers each)
      = (List.range (producers * each)).length :=
    total_submitters (fun _ _ => List.length_append) (fun _ => rfl) producers each
  rw [unitCount, fresh.queue, fresh.due, fresh.log, submits, List.length_range]
  simp [followUpCount, refusalCount]

/-- No start has been refused yet. -/
theorem refusedCount_submitters : refusedCount s (submitters producers each) = 0 := by
  have none : sumOf (fun job => job.task.isRefused.toNat) (submitters producers each) = 0 := by
    refine sumOf_eq_zero.mpr fun job there => ?_
    rw [task_of_submitters there]
    rfl
  rw [refusedCount, none, fresh.log]
  rfl

theorem barren_submitters : Barren s (submitters producers each) := by
  refine ⟨fresh.due, fresh.log, fun job there => ?_⟩
  rw [task_of_submitters there]
  trivial

end Fresh

section Start

variable {configured : List (Backend × Nat)} {priorities : List Preference}

/-- At first every slot is in its pool. -/
theorem atHome_ofConfigured (distinct : (configured.map fun entry => entry.1.name).Nodup)
    (slot : SlotId) :
    atHome slot (.ofConfigured configured priorities)
      = ((State.ofConfigured configured priorities).hasSlot slot).toNat := by
  have start : (State.ofConfigured configured priorities).Exclusive [] [] [] :=
    State.exclusive_ofConfigured distinct
  have due : (State.ofConfigured configured priorities).due = [] := rfl
  rw [atHome, due, List.countP_nil, Nat.add_zero, (start.pooled slot.device).count]
  by_cases idle : slot.index ∈ (State.ofConfigured configured priorities).idle slot.device
  · rw [if_pos idle, (start.resting slot idle).1]
    rfl
  · rw [if_neg idle]
    cases present : (State.ofConfigured configured priorities).hasSlot slot with
    | false => rfl
    | true => exact absurd (State.idle_of_hasSlot_ofConfigured distinct present) idle

/-- A device that was configured answers starts as its backend does. -/
theorem conduct_ofConfigured (distinct : (configured.map fun entry => entry.1.name).Nodup)
    {backend : Backend} {count : Nat} (mem : (backend, count) ∈ configured) :
    (State.ofConfigured configured priorities).conduct backend.name = backend.conduct := by
  rw [State.conduct, State.device?_ofConfigured distinct mem]
  rfl

theorem refusal_ofConfigured (distinct : (configured.map fun entry => entry.1.name).Nodup)
    (willing : ∀ entry ∈ configured, entry.1.conduct.refusal = none) (name : String) :
    ((State.ofConfigured configured priorities).conduct name).refusal = none := by
  cases found : (State.ofConfigured configured priorities).device? name with
  | none =>
      rw [State.conduct, found]
  | some device =>
      obtain ⟨backend, count, mem, rfl⟩ := State.configured_of_device? found
      rw [conduct_ofConfigured distinct mem]
      exact willing _ mem

/-- A workload of producers works. -/
theorem works_ofConfigured (distinct : (configured.map fun entry => entry.1.name).Nodup)
    (background : ∀ entry ∈ configured, entry.1.conduct.mode = .background)
    (producers each : Nat) :
    Works (.ofConfigured configured priorities) (submitters producers each) := by
  have start : (State.ofConfigured configured priorities).Exclusive [] [] [] :=
    State.exclusive_ofConfigured distinct
  constructor
  · refine ⟨rfl, ⟨[], rfl⟩, ?_, ?_⟩
    · intro slot there
      obtain ⟨backend, count, -, index, -, rfl⟩ := State.mem_slots_ofConfigured.mp there
      rfl
    · intro slot present
      obtain ⟨made, there, rfl⟩ := List.mem_map.mp (State.hasSlot_iff.mp present)
      obtain ⟨backend, count, mem, index, -, rfl⟩ := State.mem_slots_ofConfigured.mp there
      have answers : (State.ofConfigured configured priorities).conduct backend.name
          = backend.conduct := conduct_ofConfigured distinct mem
      exact (congrArg Conduct.mode answers).trans (background _ mem)
  · refine ⟨fun slot => ?_, start.placed⟩
    have none : sumOf (fun job => job.task.hasInHand slot) (submitters producers each) = 0 := by
      refine sumOf_eq_zero.mpr fun job there => ?_
      rw [task_of_submitters there]
      rfl
    rw [none, Nat.add_zero]
    exact atHome_ofConfigured distinct slot
  · refine ⟨fun slot idle => (start.resting slot idle).2.1, nofun, fun job there => ?_⟩
    rw [task_of_submitters there]
    exact .of_none rfl

end Start

end SlotDispatch.Workload
