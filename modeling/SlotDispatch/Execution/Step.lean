import SlotDispatch.Execution.Actions

/-!
The steps of the machine: what each call does to the state, and what each frame makes
of the signal handed to it. `Thread.step` puts the two together.
-/

namespace SlotDispatch

namespace State

/-- Note that scripted code begins to run on a slot. -/
def enter (s : State) (entry : Entry) (id : String) (slot : SlotId) : State :=
  s.note (.entered entry id slot (s.slot slot).last)

/-- Settle a request with a failure on the device of a slot. -/
def settleFailed (s : State) (number : Nat) (slot : SlotId) (error : BackendError) : State :=
  s.settle number (.error (.backend slot.device error))

/-- Begin to run a unit of work. The unit of a request that was cancelled ends at once. -/
def perform (s : State) (slot : SlotId) : Work → Move
  | .scripted id script => .call (s.enter .work id slot) (.script ⟨id, slot⟩ script)
  | .request id number job =>
      if s.isCancelled number then
        .signal ((s.settle number (.error .cancelled)).release number .unit) .declined
      else
        let s := s.enter .prepare id slot
        if s.reachable slot.device then
          .await (s.modifySlot slot fun slot => { slot with input := some job.value })
            (.script ⟨id, slot⟩ job.prepare) (.preparing slot id number job.complete)
        else
          .signal ((s.settleFailed number slot Backend.unreachable).release number .unit)
            (.failed Backend.unreachable)

/-- Go on once a start was granted, as the device does. -/
def launch (s : State) (slot : SlotId) (conduct : Conduct) : Move :=
  match conduct.mode with
  | .manual => .done s
  | .immediate => .call s (.complete slot conduct.status)
  | .immediateThenFail => .await s (.complete slot conduct.status) (.refuse Backend.failedLate)
  | .background => .done { s with due := s.due ++ [(slot, conduct.status)] }

/-- Start a slot, unless its device refuses or the slot is running already. -/
def start (s : State) (slot : SlotId) : Move :=
  let s := s.note (.started slot)
  let conduct := s.conduct slot.device
  match conduct.refusal with
  | some message => .signal s (.failed (.ofMessage message))
  | none =>
      if (s.slot slot).running then .signal s (.failed Backend.busy)
      else
        (s.modifySlot slot fun slot =>
          { slot with running := true, output := none }).launch slot conduct

/-- Let the execution on a slot come to its end: the input becomes the output. -/
def complete (s : State) (slot : SlotId) (status : Status) : Move :=
  let s := s.modifySlot slot fun slot => { slot with output := slot.input, running := false }
  if (s.slot slot).attached then .call s (.notify slot status) else .done s

/-- Take note that a slot completed, and run what it holds. -/
def notify (s : State) (slot : SlotId) (status : Status) : Move :=
  let held := (s.slot slot).pinned
  .await (s.modifySlot slot fun slot => { slot with pinned := false, last := status })
    (.followUp slot status)
    (if s.phase = .dropped then .parting slot held else .completing slot)

/-- Run the continuation that a completed slot holds. That of a request settles it at once
if the execution failed. -/
def followUp (s : State) (slot : SlotId) (status : Status) : Move :=
  let continuation := (s.slot slot).continuation
  let s := s.modifySlot slot fun slot => { slot with continuation := none }
  match continuation with
  | none => .done s
  | some (.scripted id script) =>
      .call (s.enter (.followUp status) id slot) (.script ⟨id, slot⟩ script)
  | some (.request id number complete) =>
      if status.isOk then
        .await (s.enter (.complete status) id slot) (.script ⟨id, slot⟩ complete)
          (.collecting slot number)
      else
        .done ((s.settleFailed number slot (.ofStatus status)).release number .continuation)

/-- The outcome of a request whose hooks and execution all succeeded: the output of its
slot, if there is one. -/
def collected (s : State) (slot : SlotId) (number : Nat) : Outcome :=
  match (s.slot slot).output with
  | none => .error (.backend slot.device Backend.noOutput)
  | some value => .ok ⟨number, slot.device, .ok, value⟩

end State

namespace Call

/-- The effect of a call. -/
def step (s : State) : Call → Move
  | .act scope action => s.act scope action
  | .script _ [] => .done s
  | .script scope (action :: rest) =>
      .await s (.act (some scope) action) (.script scope action.name rest)
  | .schedule =>
      if s.serving then .call s (.walk (s.priorities.map Preference.name) false)
      else .done s
  | .walk [] handedBack =>
      if handedBack && !s.queue.isEmpty then .call s .schedule else .done s
  | .walk (device :: rest) handedBack =>
      match s.popIdle device with
      | none => .call s (.walk rest handedBack)
      | some (index, s) => .call s (.offer ⟨device, index⟩ rest)
  | .offer slot devices =>
      match s.queue with
      | [] => .await s (.discard slot) (.walk devices)
      | work :: queue => .call { s with queue } (.bind slot work)
  | .bind slot work =>
      .await (s.modifySlot slot fun slot => { slot with bound := true, pinned := true })
        (.perform slot work) (.bound slot)
  | .perform slot work => s.perform slot work
  | .start slot => s.start slot
  | .complete slot status => s.complete slot status
  | .notify slot status => s.notify slot status
  | .followUp slot status => s.followUp slot status
  | .discard slot => .call (s.clearContinuation slot) (.markIdle slot)
  | .markIdle slot =>
      .call (s.modifySlot slot fun slot => { slot with bound := false, pinned := false })
        (.pushIdle slot)
  | .pushIdle slot => .done (s.pushIdle slot)

end Call

namespace Frame

/-- What a frame makes of the signal handed to it. -/
def resume (s : State) : Frame → Signal → Move
  | .script scope action rest, .returned result =>
      .call (s.note (.acted scope.id action result)) (.script scope rest)
  | .script scope action _, .failed error =>
      .signal (s.note (.failed scope.id action error)) (.failed error)
  | .answer result, .returned _ => .answer s result
  | .attempt, .failed error => .answer s (.refused error)
  | .refuse error, .returned _ => .signal s (.failed error)
  | .keep id number, .returned _ => .answer (s.keep id number false) .started
  | .firstLook id number, .returned _ =>
      match s.outcome? number with
      | none => .answer (s.keep id number true) .waiting
      | some outcome => .answer s (State.outcomeAnswer number true outcome)
  | .walk devices, .returned _ => .call s (.walk devices true)
  | .bound _, .returned _ => .done s
  | .bound slot, .panicked message => .await s (.discard slot) (.rethrow message)
  | .bound slot, _ => .await s (.discard slot) .reschedule
  | .reschedule, .returned _ => .call s .schedule
  | .rethrow message, _ => .signal s (.panicked message)
  | .preparing slot id number complete, .returned _ =>
      .await
        ((s.modifyRequest number (Request.hold .continuation)).setContinuation slot
          (.request id number complete))
        (.start slot) (.starting slot number)
  | .preparing slot _ number _, .failed error | .starting slot number, .failed error =>
      .signal ((s.settleFailed number slot error).release number .unit) (.failed error)
  | .starting _ number, .returned _ => .done (s.release number .unit)
  | .preparing _ _ number _, signal | .starting _ number, signal =>
      .signal (s.release number .unit) signal
  | .completing slot, .panicked message => .await s (.discard slot) (.rethrow message)
  | .completing slot, _ =>
      if s.serving then .await s (.markIdle slot) .reschedule else .done s
  | .parting slot held, signal =>
      let s := if held then s.detach slot else s
      match signal with
      | .panicked message => .signal s (.panicked message)
      | _ => .done s
  | .collecting slot number, .returned _ =>
      .done ((s.settle number (s.collected slot number)).release number .continuation)
  | .collecting slot number, .failed error =>
      .done ((s.settleFailed number slot error).release number .continuation)
  | .collecting _ number, signal => .signal (s.release number .continuation) signal
  | _, signal => .signal s signal

end Frame

namespace Thread

/-- A thread that begins with a call. -/
def ofCall (call : Call) : Thread := ⟨.call call, []⟩

/-- One step of a thread; none once it has handed its last signal back. -/
def step (s : State) (thread : Thread) : Option (State × Thread) :=
  match thread with
  | ⟨.call call, frames⟩ =>
      let move := call.step s
      some (move.state, ⟨move.control, move.frames ++ frames⟩)
  | ⟨.signal signal, frame :: frames⟩ =>
      let move := frame.resume s signal
      some (move.state, ⟨move.control, move.frames ++ frames⟩)
  | ⟨.signal _, []⟩ => none

/-- A thread has come to its end when no frame waits for the signal that it hands back. -/
theorem step_eq_none_iff {s : State} {thread : Thread} :
    thread.step s = none ↔ ∃ signal, thread = ⟨.signal signal, []⟩ := by
  obtain ⟨control, frames⟩ := thread
  cases control <;> cases frames <;> simp [step]

/-- A step looks at no frame but the first: those below wait on as they did. -/
theorem step_append {s t : State} {thread next : Thread} (below : List Frame)
    (stepped : thread.step s = some (t, next)) :
    Thread.step s ⟨thread.control, thread.frames ++ below⟩
      = some (t, ⟨next.control, next.frames ++ below⟩) := by
  obtain ⟨control, frames⟩ := thread
  cases control with
  | call call =>
    simp only [step, Option.some.injEq, Prod.mk.injEq] at stepped ⊢
    obtain ⟨rfl, rfl⟩ := stepped
    simp
  | signal signal =>
    cases frames with
    | nil => simp [step] at stepped
    | cons frame rest =>
      simp only [step, List.cons_append, Option.some.injEq, Prod.mk.injEq] at stepped ⊢
      obtain ⟨rfl, rfl⟩ := stepped
      simp

end Thread

end SlotDispatch
