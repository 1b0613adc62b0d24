import SlotDispatch.Metric
import SlotDispatch.Request
import SlotDispatch.Backend
import SlotDispatch.Text.Quoted

/-!
What an observer sees: the answers of actions, the events in between, and the state of
the dispatcher at a point in time.
-/

namespace SlotDispatch

/-- A use of an action that makes no sense where it stands. -/
inductive Misuse where
  | noSlotHere
  | noSuchBackend
  | noSuchSlot
  | noSuchRequest
  | alreadyTaken
  | notForInfer
  | unknownAction (name : String)
  deriving DecidableEq, Repr

/-- The explanation of a misuse. -/
def Misuse.message : Misuse → String
  | .noSlotHere => "no slot here"
  | .noSuchBackend => "no such backend"
  | .noSuchSlot => "no such slot"
  | .noSuchRequest => "no such request"
  | .alreadyTaken => "already taken"
  | .notForInfer => "not for infer"
  | .unknownAction name => "unknown action " ++ name

/-- A slot as the work bound to it sees it. -/
structure SlotView where
  slot : SlotId
  last : Status
  /-- Whether jobs can reach the buffers of the slot. -/
  reachable : Bool
  bound : Bool
  deriving DecidableEq, Repr

/-- The description of a slot for a diagnostic. -/
def SlotView.description (view : SlotView) : String :=
  "BoundSlot(WorkerSlot \x7b device: " ++ Text.quoted view.slot.device
    ++ ", index: " ++ Nat.repr view.slot.index
    ++ ", status: " ++ view.last.label
    ++ ", bound: " ++ (if view.bound then "true" else "false") ++ " \x7d)"

/-- The dispatcher at a point in time. -/
structure DispatcherView where
  pending : Nat
  terminated : Bool
  priorities : List String
  /-- The number of idle slots of every device. -/
  idle : List (String × Nat)
  configText : String
  deriving DecidableEq, Repr

/-- What can be seen at a point in time: the dispatcher, unless it is gone, and the
running slots. -/
structure Snapshot where
  dispatcher : Option DispatcherView
  running : List SlotId
  deriving DecidableEq, Repr

/-- The answer of an action. -/
inductive Answer where
  /-- All is done, and there is nothing to tell. -/
  | done
  /-- There is no dispatcher any more. -/
  | gone
  /-- The outcome is not there yet. -/
  | waiting
  /-- No slot is running. -/
  | nothingRunning
  | misuse (misuse : Misuse)
  /-- A start that failed, where the failure is only reported. -/
  | refused (error : BackendError)
  | slot (view : SlotView)
  /-- The slot that was let complete. -/
  | finished (slot : SlotId)
  | state (snapshot : Snapshot)
  /-- A call that succeeded without a result of its own. -/
  | accepted
  /-- A call that was refused, or a request that failed. -/
  | rejected (error : DispatchError)
  /-- A request that was started. -/
  | started
  /-- The end of a request, and whether it bears the number of the request it was asked
  of, where there is one. -/
  | completed (result : Completed) (sameRequest : Option Bool)
  | text (value : String)
  | metric (value : MetricValue)
  /-- The slots of a device and the idle ones among them, where there is such a device, and
  the slots of all devices. -/
  | device (slots idle : Option Nat) (total : Nat)
  | priorities (entries : List Preference)
  /-- Whether a request was cancelled before, where that is asked, and now. -/
  | cancelled (before : Option Bool) (after : Bool)
  /-- Whether a request was cancelled, where it is known. -/
  | cancelState (cancelled : Option Bool)
  /-- Whether there was something to remove. -/
  | removed (present : Bool)
  deriving DecidableEq, Repr

/-- The scripted code that an event announces. -/
inductive Entry where
  /-- A unit of work. -/
  | work
  /-- The first hook of a job. -/
  | prepare
  /-- The last hook of a job, after an execution that ended with `status`. -/
  | complete (status : Status)
  /-- A continuation, after an execution that ended with `status`. -/
  | followUp (status : Status)
  deriving DecidableEq, Repr

/-- Something that happened. -/
inductive Event where
  /-- A device was asked for its optimal number of slots. -/
  | queried (device : String)
  /-- A device was asked for one more slot. -/
  | created (device : String)
  /-- A slot was told whom to notify when it completes. -/
  | adopted (slot : SlotId)
  /-- A slot was asked to start. -/
  | started (slot : SlotId)
  /-- Scripted code begins to run on a slot that last reported `last`. -/
  | entered (entry : Entry) (id : String) (slot : SlotId) (last : Status)
  /-- An action of a script was carried out. -/
  | acted (id action : String) (answer : Answer)
  /-- An action of a script failed, which ended the script. -/
  | failed (id action : String) (error : BackendError)
  deriving DecidableEq, Repr

end SlotDispatch
