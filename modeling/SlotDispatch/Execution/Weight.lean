import SlotDispatch.Execution

/-!
How long a thread can go on. Every step of a thread uses up something: an action of a
script, a unit of the queue, a continuation of a slot, or a frame. The weight of a state
and a thread counts all of it, each item at the number of steps it can give rise to, in
a state of `n` devices.
-/

namespace SlotDispatch

/-! ### Sums -/

/-- The sum of the shares of the members of a list. -/
def sumOf {α : Type} (share : α → Nat) : List α → Nat
  | [] => 0
  | first :: rest => share first + sumOf share rest

section Sums

variable {α β : Type} {share : α → Nat}

@[simp] theorem sumOf_nil : sumOf share [] = 0 := rfl

@[simp] theorem sumOf_cons (first : α) (rest : List α) :
    sumOf share (first :: rest) = share first + sumOf share rest := rfl

@[simp] theorem sumOf_append (earlier later : List α) :
    sumOf share (earlier ++ later) = sumOf share earlier + sumOf share later := by
  induction earlier with
  | nil => simp
  | cons first rest ih =>
      simp only [List.cons_append, sumOf_cons, ih]
      omega

theorem sumOf_map (change : β → α) (members : List β) :
    sumOf share (members.map change) = sumOf (fun member => share (change member)) members := by
  induction members with
  | nil => rfl
  | cons first rest ih => simp [ih]

/-- A member has no greater share than all of them. -/
theorem le_sumOf (share : α → Nat) {member : α} {members : List α} (mem : member ∈ members) :
    share member ≤ sumOf share members := by
  obtain ⟨earlier, later, rfl⟩ := List.append_of_mem mem
  simp only [sumOf_append, sumOf_cons]
  omega

theorem sumOf_eq_zero {members : List α} :
    sumOf share members = 0 ↔ ∀ member ∈ members, share member = 0 := by
  induction members with
  | nil => simp
  | cons first rest ih => simp [ih]

end Sums

/-! ### Calls that carry no script -/

/-- A walk over `k` devices: six steps for each, if a slot is found and handed back. -/
def walkWeight (k : Nat) : Nat := 6 * k + 1

/-- A scheduling attempt that binds nothing. -/
def scheduleWeight (n : Nat) : Nat := walkWeight n + 1

/-- A completion without the continuation that it runs. -/
def completeWeight (n : Nat) : Nat := scheduleWeight n + 7

/-- A start, with the completion it may cause. -/
def startWeight (n : Nat) : Nat := completeWeight n + 2

/-! ### Scripts -/

mutual

/-- An action, with all that the scripts inside it can give rise to. -/
def Action.weight (n : Nat) : Action → Nat
  | .start => startWeight n + 1
  | .tryStart => startWeight n + 2
  | .andThen script => scriptWeight n script + 1
  | .complete _ _ => completeWeight n + 1
  | .finish _ _ => completeWeight n + 2
  | .submit _ script => 2 * scheduleWeight n + scriptWeight n script + 9
  | .request _ _ _ prepare complete | .infer _ _ prepare complete =>
      2 * scheduleWeight n + startWeight n
        + (scriptWeight n prepare + scriptWeight n complete) + 12
  | .setPriorities _ | .setConfig _ => scheduleWeight n + 2
  | _ => 1

/-- A script, and the report of each of its actions. -/
def scriptWeight (n : Nat) : List Action → Nat
  | [] => 1
  | action :: rest => action.weight n + scriptWeight n rest + 2

end

/-- A unit of work, with the scheduling that follows when it fails. -/
def Work.weight (n : Nat) : Work → Nat
  | .scripted _ script => scheduleWeight n + scriptWeight n script + 7
  | .request _ _ job =>
      scheduleWeight n + startWeight n
        + (scriptWeight n job.prepare + scriptWeight n job.complete) + 10

/-- A continuation. -/
def Continuation.weight (n : Nat) : Continuation → Nat
  | .scripted _ script => scriptWeight n script
  | .request _ _ complete => scriptWeight n complete + 1

/-! ### Threads -/

/-- A frame, with all it can go on to do. -/
def Frame.weight (n : Nat) : Frame → Nat
  | .script _ _ rest => scriptWeight n rest + 1
  | .walk devices => walkWeight devices.length + 1
  | .bound _ => scheduleWeight n + 5
  | .reschedule => scheduleWeight n + 1
  | .preparing _ _ _ complete => startWeight n + scriptWeight n complete + 3
  | .completing _ => scheduleWeight n + 4
  | _ => 1

/-- A call, with all it can go on to do. -/
def Call.weight (n : Nat) : Call → Nat
  | .act _ action => action.weight n
  | .script _ rest => scriptWeight n rest
  | .schedule => scheduleWeight n
  | .walk devices _ => walkWeight devices.length
  | .offer _ devices => walkWeight devices.length + 5
  | .bind _ work => work.weight n
  | .perform _ work => work.weight n - scheduleWeight n - 6
  | .start _ => startWeight n
  | .complete _ _ => completeWeight n
  | .notify _ _ => completeWeight n - 1
  | .followUp _ _ => 1
  | .discard _ => 3
  | .markIdle _ => 2
  | .pushIdle _ => 1

/-- What a thread does next. -/
def Control.weight (n : Nat) : Control → Nat
  | .call next => next.weight n
  | .signal _ => 0

/-- A thread by itself. -/
def Thread.weight (n : Nat) (thread : Thread) : Nat :=
  thread.control.weight n + sumOf (Frame.weight n) thread.frames

/-- The scripts that wait in a state: units in the queue and continuations on slots. -/
def State.weight (n : Nat) (s : State) : Nat :=
  sumOf (Work.weight n) s.queue
    + sumOf (fun slot => (slot.continuation.map (Continuation.weight n)).getD 0) s.slots

end SlotDispatch
