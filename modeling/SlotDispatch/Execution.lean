import SlotDispatch.State

/-!
Execution as an abstract machine. The dispatcher has no thread of its own: scheduling,
units of work, hooks and continuations run inside one another on whichever thread
triggered them. A thread is therefore a control, which is either a call to be made or a
signal to be handed back, above a stack of frames that wait for the call above them to
end. Every state in between is a state of this machine.
-/

namespace SlotDispatch

/-- How a call ended. -/
inductive Signal where
  | returned (answer : Answer)
  /-- A start or a script failed. -/
  | failed (error : BackendError)
  /-- A unit of work ended without touching its slot, since its request was cancelled. -/
  | declined
  | panicked (message : String)
  deriving DecidableEq, Repr

/-- Something that a thread is about to do. Each call is one indivisible step: it changes
the state once and says what comes next. -/
inductive Call where
  /-- Carry out an action, inside a script or outside of all scripts. -/
  | act (scope : Option Scope) (action : Action)
  /-- Carry out what is left of a script. -/
  | script (scope : Scope) (rest : Script)
  /-- Bind the oldest unit of work to the first idle slot, in order of priority. -/
  | schedule
  /-- Look for an idle slot on the remaining devices; `handedBack` tells whether a slot
  was found before, when the queue was empty. -/
  | walk (devices : List String) (handedBack : Bool)
  /-- Look for a unit of work for an idle slot that was found. -/
  | offer (slot : SlotId) (devices : List String)
  /-- Mark the slot as owned by a unit of work. -/
  | bind (slot : SlotId) (work : Work)
  /-- Run a unit of work. -/
  | perform (slot : SlotId) (work : Work)
  /-- Start a slot. -/
  | start (slot : SlotId)
  /-- Let the execution on a slot come to its end. -/
  | complete (slot : SlotId) (status : Status)
  /-- Tell the dispatcher that a slot completed. -/
  | notify (slot : SlotId) (status : Status)
  /-- Run the continuation that a completed slot holds. -/
  | followUp (slot : SlotId) (status : Status)
  /-- Hand a slot back: destroy its continuation, then make it idle. -/
  | discard (slot : SlotId)
  /-- Mark the slot as owned by nobody. -/
  | markIdle (slot : SlotId)
  /-- Return the slot to the idle ones of its device. -/
  | pushIdle (slot : SlotId)

/-- Something that a thread does once the call above it has ended. -/
inductive Frame where
  /-- Report the action and go on with the script. -/
  | script (scope : Scope) (action : String) (rest : Script)
  /-- Give this answer. -/
  | answer (answer : Answer)
  /-- Turn the failure of a start into an answer. -/
  | attempt
  /-- Fail although the call succeeded. -/
  | refuse (error : BackendError)
  /-- Keep the outcome of a request that was started. -/
  | keep (id : String) (number : Nat)
  /-- Look at the outcome of an inference that was started. -/
  | firstLook (id : String) (number : Nat)
  /-- Go on with the remaining devices, a slot having been handed back. -/
  | walk (devices : List String)
  /-- A unit runs on the slot, which is handed back unless the unit succeeds. -/
  | bound (slot : SlotId)
  /-- A slot has become idle: schedule. -/
  | reschedule
  /-- A slot has been handed back: go on panicking. -/
  | rethrow (message : String)
  /-- The first hook of a request runs on the slot. -/
  | preparing (slot : SlotId) (id : String) (number : Nat) (complete : Script)
  /-- A request starts the slot. -/
  | starting (slot : SlotId) (number : Nat)
  /-- A continuation runs; the slot is then made idle, whatever the continuation does. -/
  | completing (slot : SlotId)
  /-- A continuation runs although the dispatcher is gone; `held` tells whether nothing
  else keeps the slot known to its device. -/
  | parting (slot : SlotId) (held : Bool)
  /-- The last hook of a request runs on the slot. -/
  | collecting (slot : SlotId) (number : Nat)

/-- What a thread does next. -/
inductive Control where
  | call (call : Call)
  | signal (signal : Signal)

/-- A thread: what it does next, above the frames that wait for it. -/
structure Thread where
  control : Control
  frames : List Frame

/-- The effect of one step: the new state, what comes next, and the frames that are put
on the stack before it. -/
structure Move where
  state : State
  control : Control
  frames : List Frame

namespace Move

/-- Go on with a call. -/
def call (s : State) (call : Call) : Move := ⟨s, .call call, []⟩

/-- Go on with a call, for which a frame waits. -/
def await (s : State) (call : Call) (frame : Frame) : Move := ⟨s, .call call, [frame]⟩

/-- Hand a signal back. -/
def signal (s : State) (signal : Signal) : Move := ⟨s, .signal signal, []⟩

/-- Hand an answer back. -/
def answer (s : State) (answer : Answer) : Move := .signal s (.returned answer)

/-- Hand back that all is done. -/
def done (s : State) : Move := .answer s .done

end Move

end SlotDispatch
