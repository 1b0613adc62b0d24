import SlotDispatch.Answer
import SlotDispatch.Script

/-!
The state of a dispatcher together with its devices, their slots and the requests made
of it, and the elementary changes of that state.
-/

namespace SlotDispatch

/-- An execution slot. -/
structure Slot where
  id : SlotId
  /-- Whether the device is executing on the slot. -/
  running : Bool
  /-- The value that the next completion turns into the output. -/
  input : Option String
  output : Option String
  /-- The status of the most recent completion. -/
  last : Status
  /-- What to run when the slot completes. -/
  continuation : Option Continuation
  /-- Set while a unit of work owns the slot. -/
  bound : Bool
  /-- Whether the slot keeps itself known to its device even if the dispatcher is dropped. -/
  pinned : Bool
  /-- Whether a completion of the slot still reaches anyone. -/
  attached : Bool

namespace Slot

/-- A slot that was just created. -/
def fresh (id : SlotId) : Slot :=
  { id, running := false, input := none, output := none, last := .ok, continuation := none,
    bound := false, pinned := false, attached := true }

end Slot

/-- A device and its idle slots. -/
structure Device where
  backend : Backend
  /-- The positions of the idle slots, the most recently returned first. -/
  idle : List Nat

namespace Device

def name (device : Device) : String := device.backend.name

end Device

/-- How far the life of a dispatcher has come. -/
inductive Phase where
  | serving
  /-- No unit is bound any more; executions that were started still come to their end. -/
  | shutDown
  /-- The dispatcher is gone. -/
  | dropped
  deriving DecidableEq, Repr

/-- A dispatcher, its devices and the requests made of it. -/
structure State where
  phase : Phase
  /-- The devices, by ascending name. -/
  devices : List Device
  /-- The slots of every device, by ascending name of the device and position. -/
  slots : List Slot
  /-- The devices that are offered work, the most preferred first. -/
  priorities : List Preference
  /-- The text stored under `prioritiesKey`. -/
  configText : String
  /-- The units of work that wait for a slot, the oldest first. -/
  queue : List Work
  /-- Every request made so far, in the order of their numbers. -/
  requests : List Request
  /-- The outcomes that callers keep for later. -/
  pending : List (String × Pending)
  /-- The numbers of the requests that can be cancelled by name. -/
  handles : List (String × Nat)
  /-- The completions that are due from threads of the devices. -/
  due : List (SlotId × Status)
  /-- What happened, the most recent first. -/
  log : List Event

namespace State

/-! ### Looking things up -/

/-- The device of a name. -/
def device? (s : State) (name : String) : Option Device :=
  s.devices.find? fun device => device.name == name

/-- Whether there is a slot of the given identity. -/
def hasSlot (s : State) (slot : SlotId) : Bool :=
  s.slots.any fun candidate => candidate.id == slot

/-- The slot of the given identity; one that was never used if there is none. -/
def slot (s : State) (slot : SlotId) : Slot :=
  (s.slots.find? fun candidate => candidate.id == slot).getD (.fresh slot)

/-- The idle slots of a device, the most recently returned first. -/
def idle (s : State) (name : String) : List Nat :=
  match s.device? name with
  | none => []
  | some device => device.idle

/-- How the slots of a device answer a start. -/
def conduct (s : State) (name : String) : Conduct :=
  match s.device? name with
  | none => ⟨.manual, .ok, none⟩
  | some device => device.backend.conduct

/-- Whether jobs can reach the buffers of the slots of a device. -/
def reachable (s : State) (name : String) : Bool :=
  match s.device? name with
  | none => false
  | some device => !device.backend.foreign

/-- The slots that are executing. -/
def running (s : State) : List SlotId :=
  (s.slots.filter Slot.running).map Slot.id

/-- The number of slots of a device, idle or not. -/
def slotCount (s : State) (name : String) : Nat :=
  s.slots.countP fun slot => slot.id.device == name

/-- Whether the dispatcher still binds units of work. -/
def serving (s : State) : Bool := s.phase == .serving

/-! ### Elementary changes -/

/-- Note an event. -/
def note (s : State) (event : Event) : State := { s with log := event :: s.log }

/-- Change one slot. -/
def modifySlot (s : State) (slot : SlotId) (change : Slot → Slot) : State :=
  { s with
    slots := s.slots.map fun candidate =>
      if candidate.id = slot then change candidate else candidate }

/-- Change one device. -/
def modifyDevice (s : State) (name : String) (change : Device → Device) : State :=
  { s with
    devices := s.devices.map fun device =>
      if device.name = name then change device else device }

/-- Change one request. -/
def modifyRequest (s : State) (number : Nat) (change : Request → Request) : State :=
  { s with requests := s.requests.modify number change }

/-- Take the most recently returned idle slot of a device. -/
def popIdle (s : State) (name : String) : Option (Nat × State) :=
  match s.idle name with
  | [] => none
  | index :: rest =>
      some (index, s.modifyDevice name fun device => { device with idle := rest })

/-- Add a slot to the idle ones of its device. -/
def pushIdle (s : State) (slot : SlotId) : State :=
  s.modifyDevice slot.device fun device => { device with idle := slot.index :: device.idle }

/-! ### Requests and what holds their replies -/

/-- Report the outcome of a request. -/
def settle (s : State) (number : Nat) (outcome : Outcome) : State :=
  s.modifyRequest number (Request.settle outcome)

/-- Let a holder of a request's reply go. -/
def release (s : State) (number : Nat) (holder : Holder) : State :=
  s.modifyRequest number (Request.release holder)

/-- Destroy a unit of work that will not run. -/
def dropWork (s : State) : Work → State
  | .scripted _ _ => s
  | .request _ number _ => s.release number .unit

/-- Destroy a continuation that will not run. -/
def dropContinuation (s : State) : Option Continuation → State
  | some (.request _ number _) => s.release number .continuation
  | _ => s

/-- Take the continuation off a slot and destroy it. -/
def clearContinuation (s : State) (slot : SlotId) : State :=
  let stale := (s.slot slot).continuation
  (s.modifySlot slot fun slot => { slot with continuation := none }).dropContinuation stale

/-- Leave a continuation on a slot; one that was there is destroyed. -/
def setContinuation (s : State) (slot : SlotId) (continuation : Continuation) : State :=
  let stale := (s.slot slot).continuation
  (s.modifySlot slot fun slot =>
    { slot with continuation := some continuation }).dropContinuation stale

/-- Whether a request has been cancelled. -/
def isCancelled (s : State) (number : Nat) : Bool :=
  match s.requests[number]? with
  | none => false
  | some request => request.cancelled

/-- The outcome of a request, once it is there. -/
def outcome? (s : State) (number : Nat) : Option Outcome :=
  match s.requests[number]? with
  | none => none
  | some request => request.outcome

/-! ### Views -/

/-- A slot as the work bound to it sees it. -/
def slotView (s : State) (slot : SlotId) : SlotView :=
  ⟨slot, (s.slot slot).last, s.reachable slot.device, (s.slot slot).bound⟩

/-- The dispatcher as an observer sees it. -/
def dispatcherView (s : State) : DispatcherView where
  pending := s.queue.length
  terminated := !s.serving
  priorities := s.priorities.map Preference.text
  idle := s.devices.map fun device => (device.name, device.idle.length)
  configText := s.configText

/-- What can be seen of the state. -/
def snapshot (s : State) : Snapshot where
  dispatcher := if s.phase = .dropped then none else some s.dispatcherView
  running := s.running

end State

end SlotDispatch
