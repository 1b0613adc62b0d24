import SlotDispatch.Proofs.Turns
import SlotDispatch.Proofs.Weight

/-!
A thread of a workload that has no turns taken from it comes to its end, within the steps that
`State.fuel` allows (`run_ends`): every step makes the thread and the scripts that wait lighter
(`Task.Moves.lighter`). Only a thread that finds new work after it had held a slot in vain starts
over, and there is no such work while no other thread takes a turn.
-/

namespace SlotDispatch.Workload

/-! ### Weights -/

def Caller.weight : Caller → Nat
  | .producer => 1
  | .completion => 0

def After.weight (n : Nat) : After → Nat
  | .walk devices => walkWeight devices.length + 1
  | .reschedule => scheduleWeight n + 1

def Return.weight : Return → Nat
  | .discarding => 3
  | .marking => 2
  | .pushing => 1

def Point.weight (n : Nat) : Point → Nat
  | .entered => startWeight n + 8
  | .leaving => startWeight n + 7
  | .left => startWeight n + 5
  | .going => startWeight n + 4
  | .asking => startWeight n + 3
  | .starting => startWeight n + 2
  | .started | .refused _ => 2
  | .ended => 1
  | .succeeded | .failed _ => 0

/-- What a task weighs: the steps to which it can give rise. -/
def Task.weight (n : Nat) : Task → Nat
  | .resting _ => 0
  | .submitting _ => 2 * scheduleWeight n + startWeight n + 17
  | .scheduling caller => scheduleWeight n + caller.weight
  | .walking caller devices _ => walkWeight devices.length + caller.weight
  | .offering caller _ devices => walkWeight devices.length + 5 + caller.weight
  | .returning caller _ stage after => stage.weight + after.weight n + caller.weight
  | .returned caller after => after.weight n + caller.weight
  | .binding caller _ _ => scheduleWeight n + startWeight n + 15 + caller.weight
  | .performing caller _ _ => scheduleWeight n + startWeight n + 14 + caller.weight
  | .running caller _ _ point => point.weight n + scheduleWeight n + 5 + caller.weight
  | .answered caller => caller.weight
  | .completing _ _ => scheduleWeight n + 7
  | .notifying _ _ => scheduleWeight n + 6
  | .following _ _ | .continuing _ _ => scheduleWeight n + 5
  | .continued _ => scheduleWeight n + 4

/-- The script of a unit weighs as much as the point at which it begins. -/
theorem scriptWeight_unitScript (n : Nat) : scriptWeight n unitScript = startWeight n + 8 := by
  simp only [unitScript, scriptWeight, Action.weight]
  omega

theorem Caller.weight_frames (n : Nat) (caller : Caller) :
    sumOf (Frame.weight n) caller.frames = caller.weight := by
  cases caller <;> rfl

/-- A thread weighs as much as what it does. -/
theorem Task.weight_thread (n : Nat) (task : Task) : task.thread.weight n = task.weight n := by
  have script := scriptWeight_unitScript n
  cases task with
  | returning caller slot stage after =>
      cases stage <;> cases after <;>
        simp only [thread, weight, Thread.weight, Control.weight, Call.weight, Frame.weight,
          After.frame, After.weight, Return.call, Return.weight, sumOf_cons,
          Caller.weight_frames] <;>
        omega
  | returned caller after =>
      cases after <;>
        simp only [thread, weight, Thread.weight, Control.weight, Frame.weight, After.frame,
          After.weight, sumOf_cons, Caller.weight_frames, Nat.zero_add]
  | running caller slot number point =>
      cases point <;>
        simp only [thread, weight, Thread.weight, Control.weight, Call.weight, Frame.weight,
          Point.control, Point.frames, Point.weight, Action.weight, scriptWeight, script,
          sumOf_append, sumOf_cons, sumOf_nil, Caller.weight_frames] <;>
        omega
  | _ =>
      simp [thread, weight, Thread.weight, Thread.ofCall, Control.weight, Call.weight,
        Frame.weight, completeWeight, submission, Action.weight, Work.weight, unit, scriptWeight,
        Caller.weight_frames, script] <;>
        omega

section Weights

variable {s t : State} {task after : Task}

/-- A thread hands its slot back, having found no work for it. -/
def Task.handsBack : Task → Bool
  | .walking _ _ handedBack => handedBack
  | .returning _ _ _ (.walk _) | .returned _ (.walk _) => true
  | _ => false

/-- While a thread hands a slot back, it adds no work. -/
theorem Task.Moves.handsBack (moves : task.Moves s t after)
    (alone : task.handsBack = true → s.queue = []) : after.handsBack = true → t.queue = [] := by
  cases moves with
  | silent silent =>
      cases silent with
      | passes caller device rest handedBack none => exact alone
      | unused caller slot devices empty => exact fun _ => empty
      | onward caller devices => exact fun _ => alone rfl
      | _ => nofun
  | discarded caller slot after =>
      cases after with
      | walk devices =>
          intro _
          have kept := (State.undisturbed_clearContinuation s slot).sameQueue
          exact kept.trans (alone rfl)
      | reschedule => nofun
  | marked caller slot after =>
      cases after with
      | walk devices => exact fun _ => alone rfl
      | reschedule => nofun
  | pushed caller slot after =>
      cases after with
      | walk devices => exact fun _ => alone rfl
      | reschedule => nofun
  | _ => nofun

/-- A step that changes nothing in the state makes its task lighter. -/
theorem Task.Silent.lighter (silent : task.Silent s after) {n : Nat}
    (listed : s.priorities.length ≤ n) (alone : task.handsBack = true → s.queue = []) :
    after.weight n < task.weight n := by
  cases silent with
  | again caller waits => exact absurd (alone rfl) waits
  | _ =>
      simp only [Task.weight, Caller.weight, After.weight, Return.weight, Point.weight,
        scheduleWeight, walkWeight, List.length_map, List.length_cons, List.length_nil]
      omega

/-- A step makes its task and the scripts that wait lighter. -/
theorem Task.Moves.lighter (moves : task.Moves s t after) {n : Nat}
    (listed : s.priorities.length ≤ n) (alone : task.handsBack = true → s.queue = [])
    (distinct : (s.slots.map Slot.id).Nodup)
    (present : ∀ slot, task.slot? = some slot → s.hasSlot slot = true)
    (expects : task.Expects s) :
    t.weight n + after.weight n < s.weight n + task.weight n := by
  -- Most steps leave the scripts that wait.
  have leaves (same : t.weight n = s.weight n) (lighter : after.weight n < task.weight n) :
      t.weight n + after.weight n < s.weight n + task.weight n := by
    omega
  cases moves with
  | silent silent => exact leaves rfl (silent.lighter listed alone)
  | submitted number =>
      have script := scriptWeight_unitScript n
      simp only [State.weight, Task.weight, Caller.weight, sumOf_append, sumOf_cons, sumOf_nil,
        unit, Work.weight, script]
      omega
  | finds caller device rest handedBack index left first =>
      refine leaves rfl ?_
      simp only [Task.weight, walkWeight, List.length_cons]
      omega
  | used caller slot devices number queue first =>
      have script := scriptWeight_unitScript n
      simp only [State.weight, Task.weight, first, walkWeight, sumOf_cons, unit, Work.weight,
        script]
      omega
  | bound caller slot number =>
      refine leaves (State.weight_modifySlot_of_same n slot (by intro; rfl)) ?_
      simp only [Task.weight]
      omega
  | entered caller slot number =>
      refine leaves rfl ?_
      simp only [Task.weight, Point.weight]
      omega
  | left caller slot number id =>
      have change := State.weight_modifySlot n distinct (present slot rfl) fun slot =>
        { slot with continuation := some (.scripted id []) }
      rw [State.setContinuation, State.weight_dropContinuation]
      simp only [State.waiting, Option.map_some, Option.getD_some, Continuation.weight,
        scriptWeight] at change
      simp only [Task.weight, Point.weight]
      omega
  | started caller slot number status =>
      have noted : (s.started slot).weight n = (s.note (.started slot)).weight n :=
        State.weight_modifySlot_of_same n slot (by intro; rfl)
      refine leaves noted ?_
      simp only [Task.weight, Point.weight, startWeight]
      omega
  | discarded caller slot after =>
      have change := State.weight_modifySlot n distinct (present slot rfl) fun slot =>
        { slot with continuation := none }
      rw [State.clearContinuation, State.weight_dropContinuation]
      simp only [State.waiting, Option.map_none, Option.getD_none] at change
      simp only [Task.weight, Return.weight]
      omega
  | marked caller slot after =>
      refine leaves (State.weight_modifySlot_of_same n slot (by intro; rfl)) ?_
      simp only [Task.weight, Return.weight]
      omega
  | pushed caller slot after =>
      refine leaves rfl ?_
      simp only [Task.weight, Return.weight]
      omega
  | completed slot status =>
      refine leaves (State.weight_modifySlot_of_same n slot (by intro; rfl)) ?_
      simp only [Task.weight]
      omega
  | notified slot status =>
      refine leaves (State.weight_modifySlot_of_same n slot (by intro; rfl)) ?_
      simp only [Task.weight]
      omega
  | follows slot status id =>
      have change := State.weight_modifySlot n distinct (present slot rfl) fun slot =>
        { slot with continuation := none }
      obtain ⟨left, waits⟩ := expects.awaited slot rfl rfl
      have entered : ((s.relieved slot).enter (.followUp status) id slot).weight n
          = (s.modifySlot slot fun slot => { slot with continuation := none }).weight n := rfl
      rw [entered]
      simp only [State.waiting, waits, Option.map_some, Option.getD_some, Option.map_none,
        Option.getD_none, Continuation.weight, scriptWeight] at change
      simp only [Task.weight]
      omega
  | going | refused | ended | failed =>
      refine leaves rfl ?_
      simp only [Task.weight, Point.weight, startWeight]
      omega

end Weights

/-! ### One thread after another -/

/-- No two slots have one name, and no more devices are listed than there are. -/
structure Ordered (s : State) : Prop where
  listed : s.priorities.length ≤ s.devices.length
  distinct : (s.slots.map Slot.id).Nodup

theorem Kept.devices_length {s t : State} (kept : Kept s t) :
    t.devices.length = s.devices.length := by
  have lengths := congrArg List.length kept.sameNames
  rw [List.length_map, List.length_map] at lengths
  exact lengths

theorem Kept.ordered {s t : State} (kept : Kept s t) (ordered : Ordered s) : Ordered t := by
  constructor
  · rw [kept.samePriorities, kept.devices_length]
    exact ordered.listed
  · rw [kept.sameSlots]
    exact ordered.distinct

/-- A task whose thread has come to its end. -/
def Task.AtRest (task : Task) : Prop := ∃ signal, task.thread = ⟨.signal signal, []⟩

theorem Task.AtRest.followsUp {task : Task} (rests : task.AtRest) : task.followsUp = false := by
  obtain ⟨signal, rests⟩ := rests
  rcases Task.of_at_rest rests with ⟨answer, rfl⟩ | rfl <;> rfl

section Alone

variable {earlier later : List Job} {todo : List Nat} {s t : State} {task : Task}

/-- A thread that goes on gets lighter. -/
theorem step_lighter {next : Thread} (works : Works s (earlier ++ ⟨todo, task⟩ :: later))
    (ordered : Ordered s) (alone : task.handsBack = true → s.queue = [])
    (stepped : task.thread.step s = some (t, next)) :
    ∃ after : Task, next = after.thread ∧ task.Moves s t after
      ∧ t.fuel after.thread < s.fuel task.thread := by
  have mem : ⟨todo, task⟩ ∈ earlier ++ ⟨todo, task⟩ :: later := mem_replaced.mpr (.inl rfl)
  have present (slot : SlotId) (hand : task.slot? = some slot) : s.hasSlot slot = true :=
    works.placed.present mem hand
  have expects : task.Expects s := works.loaded.tasks _ mem
  obtain ⟨after, rfl, moves⟩ := Task.moves_of_step works.going expects present stepped
  have lighter := moves.lighter ordered.listed alone ordered.distinct present expects
  refine ⟨after, rfl, moves, ?_⟩
  rw [State.fuel, State.fuel, Task.weight_thread, Task.weight_thread, moves.kept.devices_length]
  exact lighter

/-- A thread that takes its steps without others in between comes to its end within the steps
that it weighs. A continuation runs on the way exactly if the thread is to run one. -/
theorem run_ends (fuel : Nat) (works : Works s (earlier ++ ⟨todo, task⟩ :: later))
    (ordered : Ordered s) (alone : task.handsBack = true → s.queue = [])
    (enough : s.fuel task.thread ≤ fuel) :
    ∃ t after, task.thread.run fuel s = (t, after.thread) ∧ after.AtRest
      ∧ Leads s (earlier ++ ⟨todo, task⟩ :: later) t (earlier ++ ⟨todo, after⟩ :: later)
      ∧ followUpCount t.log = followUpCount s.log + task.followsUp.toNat := by
  induction fuel generalizing s task with
  | zero =>
      cases stepped : task.thread.step s with
      | none =>
          have rests : task.AtRest := Thread.step_eq_none_iff.mp stepped
          refine ⟨s, task, rfl, rests, .refl works, ?_⟩
          rw [rests.followsUp]
          rfl
      | some result =>
          obtain ⟨after, -, -, lighter⟩ := step_lighter works ordered alone stepped
          omega
  | succ fuel ih =>
      cases stepped : task.thread.step s with
      | none =>
          have rests : task.AtRest := Thread.step_eq_none_iff.mp stepped
          refine ⟨s, task, ?_, rests, .refl works, ?_⟩
          · rw [Thread.run, stepped]
          · rw [rests.followsUp]
            rfl
      | some result =>
          obtain ⟨middle, next⟩ := result
          obtain ⟨after, rfl, moves, lighter⟩ := step_lighter works ordered alone stepped
          have first := Leads.of_shift works (.moves earlier later todo moves)
          obtain ⟨t, last, ran, rests, rest, followed⟩ := ih first.works
            (first.kept.ordered ordered) (moves.handsBack alone) (by omega)
          refine ⟨t, last, ?_, rests, first.trans rest, ?_⟩
          · rw [Thread.run, stepped]
            exact ran
          · rw [followed]
            exact moves.followUps

/-- A call that begins a task is made and comes to its end. -/
theorem runCall_ends {call : Call} (earlier later : List Job)
    (works : Works s (earlier ++ ⟨todo, task⟩ :: later))
    (ordered : Ordered s) (alone : task.handsBack = true → s.queue = [])
    (makes : task.thread = .ofCall call) :
    ∃ after : Task, after.AtRest
      ∧ Leads s (earlier ++ ⟨todo, task⟩ :: later) (s.runCall call).1
        (earlier ++ ⟨todo, after⟩ :: later)
      ∧ followUpCount (s.runCall call).1.log = followUpCount s.log + task.followsUp.toNat := by
  obtain ⟨t, after, ran, rests, leads, followed⟩ :=
    run_ends (s.fuel task.thread) works ordered alone (Nat.le_refl _)
  have same : (s.runCall call).1 = t := by
    rw [makes] at ran
    rw [State.runCall, ran]
  rw [same]
  exact ⟨after, rests, leads, followed⟩

end Alone

/-! ### The plainest order -/

/-- Threads that have nothing left to do. -/
def Quiet (jobs : List Job) : Prop := ∀ job ∈ jobs, job.todo = [] ∧ job.task.AtRest

/-- A share that threads at rest do not have adds up to nothing. -/
theorem Quiet.none_left {jobs : List Job} {share : Job → Nat} (quiet : Quiet jobs)
    (resting : ∀ answer, share ⟨[], .resting answer⟩ = 0)
    (answered : share ⟨[], .answered .completion⟩ = 0) : sumOf share jobs = 0 := by
  refine sumOf_eq_zero.mpr fun job there => ?_
  obtain ⟨todo, task⟩ := job
  obtain ⟨rfl, signal, rests⟩ := quiet _ there
  rcases Task.of_at_rest rests with ⟨answer, rfl⟩ | rfl
  · exact resting answer
  · exact answered

theorem Quiet.awaits {jobs : List Job} (quiet : Quiet jobs) : sumOf Job.awaits jobs = 0 :=
  quiet.none_left (fun _ => rfl) rfl

/-- One thread submits units, and each submission comes to its end. -/
theorem actAll_ends {s : State} {numbers : List Nat} {task : Task}
    (works : Works s [⟨numbers, task⟩]) (ordered : Ordered s) (rests : task.AtRest) :
    ∃ after : Task, after.AtRest
      ∧ Leads s [⟨numbers, task⟩] (actAll s (numbers.map submission)) [⟨[], after⟩] := by
  induction numbers generalizing s task with
  | nil => exact ⟨task, rests, .refl works⟩
  | cons number rest ih =>
      obtain ⟨signal, done⟩ := rests
      have begins : Leads s [⟨number :: rest, task⟩] s [⟨rest, .submitting number⟩] :=
        .of_shift works (.begins [] [] number rest signal done)
      obtain ⟨middle, rests, submits, -⟩ :=
        runCall_ends [] [] begins.works ordered nofun rfl
      have first := begins.trans submits
      obtain ⟨after, done, leads⟩ := ih first.works (first.kept.ordered ordered) rests
      exact ⟨after, done, first.trans leads⟩

/-- The completions that are due come in one after another, and none is left. -/
theorem settle_ends (fuel : Nat) {s : State} {jobs : List Job} (works : Works s jobs)
    (ordered : Ordered s) (quiet : Quiet jobs) (enough : s.queue.length + s.due.length ≤ fuel) :
    ∃ jobs', Quiet jobs' ∧ Leads s jobs (settle fuel s) jobs' ∧ (settle fuel s).due = [] := by
  induction fuel generalizing s jobs with
  | zero =>
      refine ⟨jobs, quiet, .refl works, List.length_eq_zero_iff.mp ?_⟩
      show s.due.length = 0
      omega
  | succ fuel ih =>
      cases due : s.due with
      | nil =>
          rw [settle, due]
          exact ⟨jobs, quiet, .refl works, due⟩
      | cons first rest =>
          obtain ⟨slot, status⟩ := first
          have comes : Leads s jobs { s with due := rest }
              (jobs ++ [⟨[], .completing slot status⟩]) :=
            .of_shift works (.completes jobs [] rest due)
          obtain ⟨after, rests, ends, followed⟩ :=
            runCall_ends jobs [] comes.works (comes.kept.ordered ordered) nofun rfl
          have leads := comes.trans ends
          have quiet' : Quiet (jobs ++ [⟨[], after⟩]) := by
            intro job there
            rcases List.mem_append.mp there with there | there
            · exact quiet job there
            · rw [List.mem_singleton.mp there]
              exact ⟨rfl, rests⟩
          have count := leads.sameCount
          rw [unitCount, unitCount, quiet.awaits, quiet'.awaits, due, List.length_cons] at count
          rw [due, List.length_cons] at enough
          have refusals := leads.noLessRefusals
          simp only [Task.followsUp, Bool.toNat_true] at followed
          obtain ⟨jobs', done, onward, none⟩ :=
            ih leads.works (leads.kept.ordered ordered) quiet' (by omega)
          rw [settle, due]
          exact ⟨jobs', done, leads.trans onward, none⟩

/-- In the plainest order, a workload comes to its end. -/
theorem run_quiet {s : State} {units : Nat} (works : Works s (submitters 1 units))
    (ordered : Ordered s) (count : unitCount s (submitters 1 units) = units) :
    ∃ jobs, Quiet jobs ∧ Leads s (submitters 1 units) (run s units) jobs
      ∧ (run s units).due = [] := by
  have alone : submitters 1 units = [⟨List.range units, .resting .done⟩] := by
    simp [submitters]
  rw [alone] at works count ⊢
  obtain ⟨after, rests, submits⟩ := actAll_ends works ordered ⟨_, rfl⟩
  have quiet : Quiet [⟨[], after⟩] := by
    intro job there
    rw [List.mem_singleton.mp there]
    exact ⟨rfl, rests⟩
  have counted := submits.sameCount
  rw [count, unitCount, quiet.awaits] at counted
  obtain ⟨jobs, quiet, settles, none⟩ :=
    settle_ends units submits.works (submits.kept.ordered ordered) quiet (by omega)
  exact ⟨jobs, quiet, submits.trans settles, none⟩

end SlotDispatch.Workload
