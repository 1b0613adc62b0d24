import SlotDispatch.Error

/-!
Devices as the dispatcher meets them: the network loaded on a device, the number of
execution slots it runs best with, and how its slots answer when they are started.
-/

namespace SlotDispatch

/-- An execution slot, by the name of its device and its position there. -/
structure SlotId where
  device : String
  index : Nat
  deriving DecidableEq, Repr

/-- The slot as reports name it. -/
def SlotId.text (slot : SlotId) : String := slot.device ++ "#" ++ Nat.repr slot.index

/-- When an execution that was started comes to its end. -/
inductive Mode where
  /-- Later, when something outside completes it. -/
  | manual
  /-- Before the start returns. -/
  | immediate
  /-- Before the start returns, and the start then fails all the same. -/
  | immediateThenFail
  /-- Later, in a thread of the device's own. -/
  | background
  deriving DecidableEq, Repr

/-- How the slots of a device answer a start. -/
structure Conduct where
  mode : Mode
  /-- The status with which a device that completes on its own does so. -/
  status : Status
  /-- The message with which every start is refused, if it is. -/
  refusal : Option String
  deriving DecidableEq, Repr

/-- A network loaded on one device. -/
structure Backend where
  name : String
  network : String
  /-- The number of slots the device runs best with, or why it cannot tell. -/
  optimal : Except BackendError Nat
  /-- How many slots can be created, where there is a limit. -/
  capacity : Option Nat
  /-- Whether the slots are of a type whose buffers jobs cannot reach. -/
  foreign : Bool
  conduct : Conduct

namespace Backend

/-- Whether one more slot can be created when `made` of them exist. -/
def canCreate (backend : Backend) (made : Nat) : Bool :=
  match backend.capacity with
  | none => true
  | some capacity => made < capacity

/-- The failure of a device that can create no more slots. -/
def outOfMemory : BackendError := .ofMessage "out of device memory"

/-- The failure of a start that came while the slot was running. -/
def busy : BackendError := .ofStatus .requestBusy

/-- The failure of a start whose execution has already come to its end. -/
def failedLate : BackendError := .ofMessage "failed after completing"

/-- The failure of a job that cannot reach the buffers of its slot. -/
def unreachable : BackendError := .ofMessage "not a mock slot"

/-- The failure of a job that finds no output in its slot. -/
def noOutput : BackendError := .ofMessage "no output"

end Backend

end SlotDispatch
