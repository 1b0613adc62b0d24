import SlotDispatch.State.Settings

/-!
Building a dispatcher. The lists of devices and of priorities are checked before any
device is called. Then the devices are taken in ascending order of name: each is asked
for its optimal number of slots, and its slots are created one after another. The first
failure ends the construction.
-/

namespace SlotDispatch

/-- The calls made on devices, and what came of them. -/
structure Trial (α : Type) where
  events : List Event
  result : Except DispatchError α

namespace Trial

/-- A trial that makes no call. -/
def ofExcept {α : Type} (result : Except DispatchError α) : Trial α := ⟨[], result⟩

/-- Go on with the result of a trial, if there is one. -/
def andThen {α β : Type} (trial : Trial α) (next : α → Trial β) : Trial β :=
  match trial.result with
  | .error error => ⟨trial.events, .error error⟩
  | .ok value => ⟨trial.events ++ (next value).events, (next value).result⟩

end Trial

namespace Backend

/-- Create slots until `wanted` more of them exist, `made` of them existing. -/
def createSlots (backend : Backend) : (wanted made : Nat) → Trial Unit
  | 0, _ => .ofExcept (.ok ())
  | wanted + 1, made =>
      if backend.canCreate made then
        Trial.andThen ⟨[.created backend.name], .ok ()⟩ fun _ =>
          backend.createSlots wanted (made + 1)
      else ⟨[.created backend.name], .error (.slotCreation backend.name outOfMemory)⟩

/-- The number of slots a device is asked for: the one its priority entry asks for, if
there is one, else its optimum. -/
def wantedSlots (backend : Backend) (priorities : List Preference) (optimal : Nat) : Nat :=
  match (priorities.find? fun entry => entry.name == backend.name).bind Preference.count with
  | none => optimal
  | some count => count.toNat

/-- Ask a device for its optimum, then create its slots; the result is their number. -/
def configure (backend : Backend) (priorities : List Preference) : Trial Nat :=
  match backend.optimal with
  | .error error => ⟨[.queried backend.name], .error (.backendMetric backend.name error)⟩
  | .ok optimal =>
      let wanted := backend.wantedSlots priorities optimal
      Trial.andThen ⟨[.queried backend.name], .ok ()⟩ fun _ =>
        (backend.createSlots wanted 0).andThen fun _ => .ofExcept (.ok wanted)

/-- The device with `count` idle slots, the last of which is offered first. -/
def deviceWith (backend : Backend) (count : Nat) : Device :=
  ⟨backend, (List.range count).reverse⟩

/-- The slots of a device. -/
def slotsOf (backend : Backend) (count : Nat) : List Slot :=
  (List.range count).map fun index => .fresh ⟨backend.name, index⟩

end Backend

/-- Configure devices one after another; the result has the number of slots of each. -/
def configureAll (priorities : List Preference) : List Backend → Trial (List (Backend × Nat))
  | [] => .ofExcept (.ok [])
  | backend :: rest =>
      (backend.configure priorities).andThen fun count =>
        (configureAll priorities rest).andThen fun configured =>
          .ofExcept (.ok ((backend, count) :: configured))

/-- What has to hold before any device is called: there are devices, no two of one name;
the priority list names no device twice, and names only devices that are there. -/
def checkLists (backends : List Backend) (priorities : List Preference) :
    Except DispatchError Unit :=
  let names := backends.map Backend.name
  if backends.isEmpty then
    .error (Malformed.noDevices.reject (prioritiesText priorities))
  else
    match checkDistinct names, checkDistinct (priorities.map Preference.name) with
    | .error error, _ => .error error
    | .ok (), .error error => .error error
    | .ok (), .ok () => checkKnown names priorities

/-- A device put before the first of a later name. -/
def insertByName (backend : Backend) : List Backend → List Backend
  | [] => [backend]
  | first :: rest =>
      if backend.name < first.name then backend :: first :: rest
      else first :: insertByName backend rest

/-- The devices by ascending name. -/
def byName (backends : List Backend) : List Backend := backends.foldr insertByName []

namespace State

/-- A dispatcher that was just built over configured devices. -/
def ofConfigured (configured : List (Backend × Nat)) (priorities : List Preference) :
    State where
  phase := .serving
  devices := configured.map fun entry => entry.1.deviceWith entry.2
  slots := configured.flatMap fun entry => entry.1.slotsOf entry.2
  priorities
  configText := prioritiesText priorities
  queue := []
  requests := []
  pending := []
  handles := []
  due := []
  log := []

/-- The event of each slot that is told whom to notify. -/
def adoptions (s : State) : List Event := s.slots.map fun slot => .adopted slot.id

end State

/-- Build a dispatcher over devices, with the given priority list. -/
def construct (backends : List Backend) (priorities : List Preference) : Trial State :=
  (Trial.ofExcept (checkLists backends priorities)).andThen fun _ =>
    (configureAll priorities (byName backends)).andThen fun configured =>
      let s := State.ofConfigured configured priorities
      ⟨s.adoptions, .ok s⟩

/-- A priority list, or the text of one. -/
inductive PrioritySource where
  | list (entries : List Preference)
  | text (value : String)

/-- The priority list of a source. -/
def PrioritySource.read : PrioritySource → Except DispatchError (List Preference)
  | .list entries => .ok entries
  | .text value => parsePriorities value

/-- Build a dispatcher with the priority list of a source, which is read first. -/
def constructFrom (backends : List Backend) (source : PrioritySource) : Trial State :=
  (Trial.ofExcept source.read).andThen (construct backends)

end SlotDispatch
