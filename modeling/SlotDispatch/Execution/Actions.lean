import SlotDispatch.Execution
import SlotDispatch.State.Settings
import SlotDispatch.State.Outcomes

/-!
What each action does. Most answer at once; those that run a unit of work, start a slot
or let one complete go on with a call.
-/

namespace SlotDispatch

namespace State

/-- Add a unit of work to the queue and schedule, or destroy it after a shutdown. -/
def accept (s : State) (work : Work) (frame : Frame) : Move :=
  if s.serving then .await { s with queue := s.queue ++ [work] } .schedule frame
  else .answer (s.dropWork work) (.rejected .terminated)

/-- Schedule under changed settings, or report why they were refused. -/
def reconfigured (s : State) : Except DispatchError State → Move
  | .error error => .answer s (.rejected error)
  | .ok changed => .await changed .schedule (.answer .accepted)

/-- Let the slot of a given identity complete, if there is one. -/
def completeSlot (s : State) (slot : SlotId) (status : Status) : Move :=
  if (s.device? slot.device).isNone then .answer s (.misuse .noSuchBackend)
  else if s.hasSlot slot then .call s (.complete slot status)
  else .answer s (.misuse .noSuchSlot)

/-- Let one of the running slots complete. -/
def finish (s : State) (position : Nat) (status : Status) : Move :=
  match s.running[position % s.running.length]? with
  | none => .answer s .nothingRunning
  | some slot => .await s (.complete slot status) (.answer (.finished slot))

/-- Change how the slots of a device answer a start. -/
def setConduct (s : State) (name : String) (conduct : Conduct) : State × Answer :=
  if (s.device? name).isNone then (s, .misuse .noSuchBackend)
  else
    (s.modifyDevice name fun device =>
      { device with backend := { device.backend with conduct } }, .done)

/-- Start a request: a job under the next number, which can be cancelled by name. -/
def startRequest (s : State) (id : String) (cancelled : Bool) (job : Job) : Move :=
  let (s, number) := s.addRequest cancelled
  { s with handles := assign id number s.handles }.accept
    (.request id number job) (.keep id number)

/-- Start a request whose outcome is looked at once right away. -/
def startInference (s : State) (id : String) (job : Job) : Move :=
  let (s, number) := s.addRequest false
  s.accept (.request id number job) (.firstLook id number)

/-- The numbers of slots of a device, and of all slots. -/
def deviceAnswer (s : State) (name : String) : Answer :=
  match s.device? name with
  | none => .device none none s.slots.length
  | some device => .device (some (s.slotCount name)) (some device.idle.length) s.slots.length

end State

namespace Move

/-- Hand back an answer that came with a change. -/
def ofAnswer (result : State × Answer) : Move := .answer result.1 result.2

/-- Hand back a value, or the error instead. -/
def ofExcept {α : Type} (s : State) (ok : α → Answer) : Except DispatchError α → Move
  | .ok value => .answer s (ok value)
  | .error error => .answer s (.rejected error)

end Move

/-- Act on the slot at hand, which only a script has. -/
def Move.atSlot (s : State) (scope : Option Scope) (move : Scope → Move) : Move :=
  match scope with
  | none => .answer s (.misuse .noSlotHere)
  | some scope => move scope

/-- Act on the dispatcher, unless it is gone. -/
def Move.onDispatcher (s : State) (move : Move) : Move :=
  if s.phase = .dropped then .answer s .gone else move

/-- The effect of an action, in the script of the given scope or outside of all scripts. -/
def State.act (s : State) (scope : Option Scope) : Action → Move
  | .start => .atSlot s scope fun scope => .call s (.start scope.slot)
  | .tryStart => .atSlot s scope fun scope => .await s (.start scope.slot) .attempt
  | .andThen script => .atSlot s scope fun scope =>
      .done (s.setContinuation scope.slot (.scripted (scope.id ++ ">") script))
  | .slot => .atSlot s scope fun scope => .answer s (.slot (s.slotView scope.slot))
  | .fail error => .atSlot s scope fun _ => .signal s (.failed error)
  | .panic message => .signal s (.panicked message)
  | .complete target status => s.completeSlot target status
  | .finish position status => s.finish position status
  | .conduct name conduct => .ofAnswer (s.setConduct name conduct)
  | .state => .answer s (.state s.snapshot)
  | .submit id script =>
      .onDispatcher s (s.accept (.scripted id script) (.answer .accepted))
  | .request id value cancelled prepare complete =>
      .onDispatcher s (s.startRequest id cancelled ⟨value, prepare, complete⟩)
  | .infer id value prepare complete =>
      .onDispatcher s (s.startInference id ⟨value, prepare, complete⟩)
  | .setPriorities entries =>
      .onDispatcher s
        (s.reconfigured (s.setPriorities entries (prioritiesText entries)))
  | .setConfig config => .onDispatcher s (s.reconfigured (s.setConfig config))
  | .config key => .onDispatcher s (.ofExcept s .text (s.config key))
  | .metric key => .onDispatcher s (.ofExcept s .metric (s.metric key))
  | .device name => .onDispatcher s (.answer s (s.deviceAnswer name))
  | .priorities => .onDispatcher s (.answer s (.priorities s.priorities))
  | .shutdown => .onDispatcher s (.done s.shutdown)
  | .tryOutcome id => .ofAnswer (s.tryOutcome id)
  | .poll id => .ofAnswer (s.poll id)
  | .wait id => .ofAnswer (s.wait id)
  | .cancel id => .ofAnswer (s.cancel id)
  | .cancelPending id => .ofAnswer (s.cancelPending id)
  | .isCancelled id =>
      .answer s (.cancelState ((s.handles.lookup id).map s.isCancelled))
  | .forget id => .ofAnswer (s.forget id)
  | .unknown name => .onDispatcher s (.answer s (.misuse (.unknownAction name)))

end SlotDispatch
