import SlotDispatch.Backend
import SlotDispatch.Priority

/-!
What callers hand to the dispatcher. A unit of work, the hooks of a job and a
continuation are scripts: lists of actions, each of which may call the dispatcher or a
device again.
-/

namespace SlotDispatch

/-- One thing that a caller, a unit of work, a hook or a continuation does. -/
inductive Action where
  /-- Start the slot at hand; a failure ends the script. -/
  | start
  /-- Start the slot at hand; a failure is only reported. -/
  | tryStart
  /-- Leave a continuation on the slot at hand. -/
  | andThen (script : List Action)
  /-- Describe the slot at hand. -/
  | slot
  /-- End the script with a failure. -/
  | fail (error : BackendError)
  /-- Panic, which ends everything that the operation began. -/
  | panic (message : String)
  /-- Let a slot complete, running or not. -/
  | complete (slot : SlotId) (status : Status)
  /-- Let one of the running slots complete, counted modulo their number. -/
  | finish (position : Nat) (status : Status)
  /-- Change how the slots of a device answer a start. -/
  | conduct (device : String) (conduct : Conduct)
  /-- Take a snapshot. -/
  | state
  /-- Submit a unit of work. -/
  | submit (id : String) (script : List Action)
  /-- Start a request, cancelled beforehand or not, and keep its outcome under `id`. -/
  | request (id value : String) (cancelled : Bool) (prepare complete : List Action)
  /-- Run a request to its outcome, which is looked at once right away. -/
  | infer (id value : String) (prepare complete : List Action)
  /-- Install a priority list. -/
  | setPriorities (entries : List Preference)
  /-- Install a configuration. -/
  | setConfig (config : List (String × String))
  /-- Read a configuration key. -/
  | config (key : String)
  /-- Read a metric. -/
  | metric (key : String)
  /-- Count the slots of a device. -/
  | device (name : String)
  /-- Read the priority list. -/
  | priorities
  /-- Shut the dispatcher down. -/
  | shutdown
  /-- Look for an outcome, which stays stored. -/
  | tryOutcome (id : String)
  /-- Look for an outcome, which is removed once it is there. -/
  | poll (id : String)
  /-- Wait for an outcome, which is removed. -/
  | wait (id : String)
  /-- Cancel a request through its handle. -/
  | cancel (id : String)
  /-- Cancel a request through its stored outcome. -/
  | cancelPending (id : String)
  /-- Ask whether a request was cancelled. -/
  | isCancelled (id : String)
  /-- Remove a stored outcome. -/
  | forget (id : String)
  /-- Something of a name that means nothing here. -/
  | unknown (name : String)

/-- Actions carried out in order, up to the first failure. -/
abbrev Script := List Action

namespace Action

/-- The name under which an action is reported. -/
def name : Action → String
  | .start => "start"
  | .tryStart => "try_start"
  | .andThen _ => "then"
  | .slot => "slot"
  | .fail _ => "fail"
  | .panic _ => "panic"
  | .complete _ _ => "complete"
  | .finish _ _ => "finish"
  | .conduct _ _ => "backend"
  | .state => "state"
  | .submit _ _ => "submit"
  | .request _ _ _ _ _ => "request"
  | .infer _ _ _ _ => "infer"
  | .setPriorities _ => "set_priorities"
  | .setConfig _ => "set_config"
  | .config _ => "config"
  | .metric _ => "metric"
  | .device _ => "device"
  | .priorities => "priorities"
  | .shutdown => "shutdown"
  | .tryOutcome _ => "try"
  | .poll _ => "poll"
  | .wait _ => "wait"
  | .cancel _ => "cancel"
  | .cancelPending _ => "cancel"
  | .isCancelled _ => "is_cancelled"
  | .forget _ => "forget"
  | .unknown name => name

end Action

/-- One inference: the value loaded into the slot, and the scripts run before the start
and after a successful end. -/
structure Job where
  value : String
  prepare : Script
  complete : Script

/-- A unit of work: something to run once, on the slot it gets bound to. -/
inductive Work where
  | scripted (id : String) (script : Script)
  /-- The unit of request number `number`, reported under `id`. -/
  | request (id : String) (number : Nat) (job : Job)

/-- What a unit leaves on its slot, to be run when the slot completes. -/
inductive Continuation where
  | scripted (id : String) (script : Script)
  /-- The continuation of request number `number`, with the job's last script. -/
  | request (id : String) (number : Nat) (complete : Script)

/-- Where a script runs: the name it is reported under and the slot at hand. -/
structure Scope where
  id : String
  slot : SlotId
  deriving DecidableEq, Repr

end SlotDispatch
