import SlotDispatch.State
import SlotDispatch.Priority.Parser

/-!
The settings of a dispatcher: its priority list with the text stored for it, what can be
read about it, and its end by shutdown or drop.
-/

namespace SlotDispatch.State

/-! ### Priorities -/

/-- Install a priority list and the text stored for it, if the list is legal: no entry
asks for a slot count, no device is named twice, the dispatcher is not shut down, and
every device named is known. -/
def setPriorities (s : State) (entries : List Preference) (text : String) :
    Except DispatchError State :=
  match checkUncounted entries, checkDistinct (entries.map Preference.name) with
  | .error error, _ => .error error
  | .ok (), .error error => .error error
  | .ok (), .ok () =>
      if s.serving then
        match checkKnown (s.devices.map Device.name) entries with
        | .error error => .error error
        | .ok () => .ok { s with priorities := entries, configText := text }
      else .error .terminated

/-- Why a configuration other than a priority list is refused. -/
def onlyPriorities : DispatchError :=
  .unsupportedConfig ("the only config supported by the dispatcher is " ++ prioritiesKey)

/-- Install the priority list that a configuration holds as its only entry; the text is
stored as given. -/
def setConfig (s : State) (config : List (String × String)) : Except DispatchError State :=
  match config with
  | [(key, value)] =>
      if key = prioritiesKey then
        match parsePriorities value with
        | .error error => .error error
        | .ok entries => s.setPriorities entries value
      else .error onlyPriorities
  | _ => .error onlyPriorities

/-- The text stored under a configuration key. -/
def config (s : State) (key : String) : Except DispatchError String :=
  if key = prioritiesKey then .ok s.configText else .error (.unknownConfigKey key)

/-! ### Metrics -/

/-- The value of a metric; the network is the one of the first device. -/
def metricValue (s : State) : Metric → Option MetricValue
  | .totalSlots => some (.unsigned s.slots.length)
  | .metricKeys => some (.keys (Metric.all.map Metric.key))
  | .networkName => s.devices.head?.map fun device => .text device.backend.network
  | .configKeys => some (.keys [prioritiesKey])

/-- The value of the metric of a key. -/
def metric (s : State) (key : String) : Except DispatchError MetricValue :=
  match (Metric.ofKey? key).bind s.metricValue with
  | none => .error (.unknownMetric key)
  | some value => .ok value

/-! ### The end -/

/-- Stop binding units of work: the priority list is emptied and every queued unit is
destroyed. A second shutdown changes nothing. -/
def shutdown (s : State) : State :=
  if s.serving then
    s.queue.foldl dropWork { s with phase := .shutDown, priorities := [], queue := [] }
  else s

/-- Forget a slot: its continuation is destroyed and a completion reaches no one. -/
def detach (s : State) (slot : SlotId) : State :=
  (s.clearContinuation slot).modifySlot slot fun slot => { slot with attached := false }

/-- Forget every slot that is not pinned. -/
def detachUnpinned (s : State) : State :=
  s.slots.foldl (fun s slot => if slot.pinned then s else s.detach slot.id) s

/-- Drop the dispatcher, if it is still there: inferences that are waited for are given
up, the dispatcher is shut down, and slots that are not executing a unit are forgotten. -/
def drop (s : State) : State × Bool :=
  let s := { s with pending := s.pending.filter fun entry => !entry.2.awaited }
  match s.phase with
  | .dropped => (s, false)
  | _ => (detachUnpinned { s.shutdown with phase := .dropped }, true)

end SlotDispatch.State
