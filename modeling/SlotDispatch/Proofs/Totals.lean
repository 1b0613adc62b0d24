import SlotDispatch.Proofs.Places

/-!
What becomes of the units of a workload. Every unit is to be submitted, waits, is on its way to
a slot, or has begun to run, and it does each once (`Shift.unitsOf_eq`). Every unit that has
begun is still running, has its completion due or under way, has been refused by its device, or
its continuation has run (`Shift.unitCount_eq`). No start is refused because its slot was running.
-/

namespace SlotDispatch.Workload

/-! ### Counts -/

/-- Whether a unit that waits bears a number. -/
def bears (number : Nat) : Work → Bool
  | .scripted id _ => id == unitName number
  | .request _ _ _ => false

/-- How many units of a number a task is about to submit, or has on their way to a slot. -/
def Task.carries (number : Nat) : Task → Nat
  | .submitting own | .binding _ _ own | .performing _ _ own =>
      if unitName own = unitName number then 1 else 0
  | _ => 0

/-- How many units of a number a thread has yet to submit, or has on their way to a slot. -/
def Job.carries (number : Nat) (job : Job) : Nat :=
  job.todo.countP (fun own => unitName own == unitName number) + job.task.carries number

/-- How often a start was refused by the device. -/
def refusalCount (log : List Event) : Nat :=
  log.countP fun event =>
    match event with
    | .failed _ _ error => error != Backend.busy
    | _ => false

/-- Whether a unit that has come this far awaits its completion or its refusal. -/
def Point.awaits : Point → Bool
  | .started | .ended | .succeeded | .failed _ => false
  | _ => true

/-- Whether a task has a unit in its hands of which neither the continuation has run nor the
start was refused. -/
def Task.awaits : Task → Bool
  | .submitting _ | .binding _ _ _ | .performing _ _ _ | .completing _ _ | .notifying _ _
  | .following _ _ => true
  | .running _ _ _ point => point.awaits
  | _ => false

/-- How many units a thread has yet to submit or in its hands. -/
def Job.awaits (job : Job) : Nat := job.todo.length + job.task.awaits.toNat

section Shifts

variable {s t : State} {jobs jobs' : List Job} {task after : Task} {number : Nat}

theorem log_dropContinuation (s : State) (continuation : Option Continuation) :
    (s.dropContinuation continuation).log = s.log := by
  obtain ⟨requests, eq⟩ := s.dropContinuation_eq continuation
  rw [eq]

theorem queue_dropContinuation (s : State) (continuation : Option Continuation) :
    (s.dropContinuation continuation).queue = s.queue :=
  (s.undisturbed_dropContinuation continuation).sameQueue

/-- What a move does to a unit, it does once. -/
theorem Task.Moves.carries (moves : task.Moves s t after) (number : Nat) :
    t.queue.countP (bears number) + runCount t.log (unitName number) + after.carries number
      = s.queue.countP (bears number) + runCount s.log (unitName number)
        + task.carries number := by
  cases moves with
  | silent silent =>
      have same : after.carries number = task.carries number := by cases silent <;> rfl
      rw [same]
  | submitted own =>
      simp only [List.countP_append, List.countP_singleton, unit, bears, beq_iff_eq, Task.carries]
      omega
  | used caller slot devices own queue first =>
      simp only [first, List.countP_cons, unit, bears, beq_iff_eq, Task.carries]
      omega
  | entered caller slot own =>
      simp only [State.enter, State.note, runCount, List.countP_cons, beq_iff_eq, Task.carries]
      omega
  | left caller slot own id =>
      simp only [State.setContinuation, log_dropContinuation, queue_dropContinuation]
      rfl
  | discarded caller slot after =>
      simp only [State.clearContinuation, log_dropContinuation, queue_dropContinuation]
      rfl
  | _ => rfl

/-- How many units of a number there are: to be submitted, waiting, on their way, or begun. -/
def unitsOf (number : Nat) (s : State) (jobs : List Job) : Nat :=
  s.queue.countP (bears number) + runCount s.log (unitName number)
    + sumOf (Job.carries number) jobs

/-- No turn adds a unit or loses one before it has begun. -/
theorem Shift.unitsOf_eq (shift : Shift s jobs t jobs') (number : Nat) :
    unitsOf number t jobs' = unitsOf number s jobs := by
  refine shift.keeps_total
    (fun s => s.queue.countP (bears number) + runCount s.log (unitName number)) ?_ ?_ ?_
  · intro todo t task after mem moves
    have once := moves.carries number
    simp only [Job.carries]
    omega
  · intro task own todo signal rests
    rcases Task.of_at_rest rests with ⟨answer, rfl⟩ | rfl <;>
      simp only [Job.carries, Task.carries, List.countP_cons, beq_iff_eq] <;> omega
  · intro slot status before after due
    rfl

theorem followUpCount_followUp (log : List Event) (status : Status) (id : String)
    (slot : SlotId) (last : Status) :
    followUpCount (.entered (.followUp status) id slot last :: log) = followUpCount log + 1 := by
  simp [followUpCount]

/-- A device that refuses a start does so with a message, not because the slot is running. -/
theorem ofMessage_ne_busy (message : String) : BackendError.ofMessage message ≠ Backend.busy := by
  intro same
  have status := congrArg BackendError.status same
  cases status

theorem refusalCount_refused (log : List Event) (id action message : String) :
    refusalCount (.failed id action (.ofMessage message) :: log) = refusalCount log + 1 := by
  simp [refusalCount, ofMessage_ne_busy]

/-- A move that concludes a unit takes it out of the hands of its thread. -/
theorem Task.Moves.awaits (moves : task.Moves s t after) :
    t.queue.length + t.due.length + followUpCount t.log + refusalCount t.log
        + after.awaits.toNat
      = s.queue.length + s.due.length + followUpCount s.log + refusalCount s.log
        + task.awaits.toNat := by
  cases moves with
  | silent silent =>
      have same : after.awaits = task.awaits := by cases silent <;> rfl
      rw [same]
  | submitted own =>
      simp only [List.length_append, List.length_singleton, Task.awaits, Bool.toNat_true,
        Bool.toNat_false]
      omega
  | used caller slot devices own queue first =>
      simp only [first, List.length_cons, Task.awaits, Bool.toNat_true, Bool.toNat_false]
      omega
  | started caller slot own status =>
      simp only [List.length_append, List.length_singleton, Task.awaits, Point.awaits,
        Bool.toNat_true, Bool.toNat_false]
      have log : followUpCount (s.started slot).log = followUpCount s.log
          ∧ refusalCount (s.started slot).log = refusalCount s.log := ⟨rfl, rfl⟩
      have queue : (s.started slot).queue = s.queue := rfl
      rw [log.1, log.2, queue]
      omega
  | failed caller slot own id action message =>
      have refusals : refusalCount (s.note (.failed id action (.ofMessage message))).log
          = refusalCount s.log + 1 := refusalCount_refused s.log id action message
      have followUps : followUpCount (s.note (.failed id action (.ofMessage message))).log
          = followUpCount s.log := rfl
      have queue : (s.note (.failed id action (.ofMessage message))).queue = s.queue := rfl
      have due : (s.note (.failed id action (.ofMessage message))).due = s.due := rfl
      rw [refusals, followUps, queue, due]
      simp only [Task.awaits, Point.awaits, Bool.toNat_true, Bool.toNat_false]
      omega
  | follows slot status id =>
      have followUps : followUpCount ((s.relieved slot).enter (.followUp status) id slot).log
          = followUpCount s.log + 1 := followUpCount_followUp s.log status id slot _
      have refusals : refusalCount ((s.relieved slot).enter (.followUp status) id slot).log
          = refusalCount s.log := rfl
      have queue : ((s.relieved slot).enter (.followUp status) id slot).queue = s.queue := rfl
      have due : ((s.relieved slot).enter (.followUp status) id slot).due = s.due := rfl
      rw [refusals, followUps, queue, due]
      simp only [Task.awaits, Bool.toNat_true, Bool.toNat_false]
      omega
  | left caller slot own id =>
      simp only [State.setContinuation, log_dropContinuation, queue_dropContinuation,
        State.due_dropContinuation]
      rfl
  | discarded caller slot after =>
      simp only [State.clearContinuation, log_dropContinuation, queue_dropContinuation,
        State.due_dropContinuation]
      rfl
  | _ => rfl

/-- How many units there are: to be submitted, waiting, in the hands of a thread, executing,
refused by their device, and those whose continuation has run. -/
def unitCount (s : State) (jobs : List Job) : Nat :=
  s.queue.length + s.due.length + followUpCount s.log + refusalCount s.log
    + sumOf Job.awaits jobs

/-- No turn adds a unit or loses one before it is concluded. -/
theorem Shift.unitCount_eq (shift : Shift s jobs t jobs') :
    unitCount t jobs' = unitCount s jobs := by
  refine shift.keeps_total
    (fun s => s.queue.length + s.due.length + followUpCount s.log + refusalCount s.log) ?_ ?_ ?_
  · intro todo t task after mem moves
    have once := moves.awaits
    simp only [Job.awaits]
    omega
  · intro task own todo signal rests
    rcases Task.of_at_rest rests with ⟨answer, rfl⟩ | rfl <;>
      simp only [Job.awaits, Task.awaits, List.length_cons, Bool.toNat_true, Bool.toNat_false,
        Nat.add_zero]
  · intro slot status before after due
    simp only [due, List.length_append, List.length_cons, Job.awaits, Task.awaits,
      List.length_nil, Bool.toNat_true]
    omega

/-! ### Continuations -/

/-- Whether a task is on the way to run the continuation of its slot. -/
def Task.followsUp : Task → Bool
  | .completing _ _ | .notifying _ _ | .following _ _ => true
  | _ => false

/-- A thread runs the continuation of the slot that has completed. -/
theorem Task.Moves.followUps (moves : task.Moves s t after) :
    followUpCount t.log + after.followsUp.toNat = followUpCount s.log + task.followsUp.toNat := by
  cases moves with
  | silent silent =>
      have same : after.followsUp = task.followsUp := by cases silent <;> rfl
      rw [same]
  | follows slot status id =>
      exact followUpCount_followUp s.log status id slot ((s.relieved slot).slot slot).last
  | left caller slot own id => rw [State.setContinuation, log_dropContinuation]; rfl
  | discarded caller slot after => rw [State.clearContinuation, log_dropContinuation]; rfl
  | _ => rfl

/-! ### Starts that are refused -/

/-- No start of a workload meets a slot that is running. -/
theorem Task.Moves.overlaps (moves : task.Moves s t after) :
    overlapCount t.log = overlapCount s.log := by
  cases moves with
  | failed caller slot own id action message =>
      have fine : (BackendError.ofMessage message == Backend.busy) = false :=
        beq_eq_false_iff_ne.mpr (ofMessage_ne_busy message)
      simp [State.note, overlapCount, fine]
  | left caller slot own id => rw [State.setContinuation, log_dropContinuation]; rfl
  | discarded caller slot after => rw [State.clearContinuation, log_dropContinuation]; rfl
  | _ => rfl

theorem Shift.overlaps (shift : Shift s jobs t jobs') :
    overlapCount t.log = overlapCount s.log := by
  cases shift with
  | moves earlier later todo moves => exact moves.overlaps
  | begins | completes => rfl

/-- No refusal is taken back. -/
theorem Task.Moves.refusals_le (moves : task.Moves s t after) :
    refusalCount s.log ≤ refusalCount t.log := by
  cases moves with
  | failed caller slot own id action message =>
      have counted : refusalCount (s.note (.failed id action (.ofMessage message))).log
          = refusalCount s.log + 1 := refusalCount_refused s.log id action message
      omega
  | left caller slot own id =>
      rw [State.setContinuation, log_dropContinuation]
      exact Nat.le_refl _
  | discarded caller slot after =>
      rw [State.clearContinuation, log_dropContinuation]
      exact Nat.le_refl _
  | _ => exact Nat.le_refl _

theorem Shift.refusals_le (shift : Shift s jobs t jobs') :
    refusalCount s.log ≤ refusalCount t.log := by
  cases shift with
  | moves earlier later todo moves => exact moves.refusals_le
  | begins | completes => exact Nat.le_refl _

/-- Whether the device has refused to start the unit that a task is about to conclude. -/
def Task.isRefused : Task → Bool
  | .running _ _ _ (.refused _) => true
  | _ => false

/-- A device that refuses no start does not do so in a workload. -/
theorem Task.Moves.refusals (moves : task.Moves s t after)
    (willing : ∀ name, (s.conduct name).refusal = none) :
    refusalCount t.log + after.isRefused.toNat = refusalCount s.log + task.isRefused.toNat := by
  cases moves with
  | silent silent =>
      have same : after.isRefused = task.isRefused := by cases silent <;> rfl
      rw [same]
  | refused caller slot own message refuses =>
      rw [willing] at refuses
      cases refuses
  | failed caller slot own id action message => exact refusalCount_refused s.log id action message
  | left caller slot own id => rw [State.setContinuation, log_dropContinuation]; rfl
  | discarded caller slot after => rw [State.clearContinuation, log_dropContinuation]; rfl
  | _ => rfl

/-- How many starts were refused, or are about to be noted as refused. -/
def refusedCount (s : State) (jobs : List Job) : Nat :=
  refusalCount s.log + sumOf (fun job => job.task.isRefused.toNat) jobs

theorem Shift.refusedCount_eq (shift : Shift s jobs t jobs')
    (willing : ∀ name, (s.conduct name).refusal = none) :
    refusedCount t jobs' = refusedCount s jobs := by
  refine shift.keeps_total (fun s => refusalCount s.log) ?_ ?_ ?_
  · intro todo t task after mem moves
    exact moves.refusals willing
  · intro task own todo signal rests
    rcases Task.of_at_rest rests with ⟨answer, rfl⟩ | rfl <;> rfl
  · intro slot status before after due
    rfl

end Shifts

end SlotDispatch.Workload
