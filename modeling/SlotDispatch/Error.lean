import SlotDispatch.Status

/-!
What can go wrong. A `BackendError` is a device's own failure, or that of a job running
on it; a `DispatchError` is what a caller of the dispatcher sees.
-/

namespace SlotDispatch

/-- A failure reported by a device or by a job running on one. -/
structure BackendError where
  message : String
  status : Option Status
  deriving DecidableEq, Repr

namespace BackendError

/-- A failure known by its description alone. -/
def ofMessage (message : String) : BackendError := ⟨message, none⟩

/-- The failure of an execution that ended with the given status. -/
def ofStatus (status : Status) : BackendError :=
  ⟨"execution finished with status " ++ status.text, some status⟩

end BackendError

/-- The reasons for which the dispatcher refuses a call or a request fails. -/
inductive DispatchError where
  | backendMetric (device : String) (source : BackendError)
  | slotCreation (device : String) (source : BackendError)
  | unknownDevice (device : String)
  | slotCountChange (device : String)
  | duplicateDevice (device : String)
  | invalidPriorities (value reason : String)
  | unsupportedConfig (reason : String)
  | unknownMetric (name : String)
  | unknownConfigKey (name : String)
  | terminated
  | cancelled
  | abandoned
  | backend (device : String) (source : BackendError)
  deriving DecidableEq, Repr

namespace DispatchError

/-- The description shown to a caller. -/
def message : DispatchError → String
  | .backendMetric device source =>
      "every device must report its optimal number of infer requests; failed to query it for "
        ++ device ++ ": " ++ source.message
  | .slotCreation device source =>
      "device " ++ device ++ " failed to create an execution slot: " ++ source.message
  | .unknownDevice device =>
      "device " ++ device
        ++ " was not in the original device list; only priorities can be changed"
  | .slotCountChange device =>
      "device " ++ device ++ " requested a slot count; only priorities can be changed, "
        ++ "not the number of requests"
  | .duplicateDevice device =>
      "device " ++ device ++ " appears more than once in the priority list"
  | .invalidPriorities value reason =>
      "invalid device priorities '" ++ value ++ "': " ++ reason
  | .unsupportedConfig reason => "unsupported configuration: " ++ reason
  | .unknownMetric name => "unsupported metric: " ++ name
  | .unknownConfigKey name => name ++ " not found in the dispatcher config"
  | .terminated => "dispatcher is shut down; work was not accepted"
  | .cancelled => "request was cancelled before it reached a device"
  | .abandoned => "request was dropped before reporting a result"
  | .backend device source => "inference on " ++ device ++ " failed: " ++ source.message

/-- Whether the error rejected a change of configuration without applying it. -/
def isConfigRejection : DispatchError → Bool
  | .unknownDevice _ | .slotCountChange _ | .duplicateDevice _
  | .invalidPriorities _ _ | .unsupportedConfig _ => true
  | _ => false

/-- The device's failure behind the error, where there is one. -/
def source? : DispatchError → Option BackendError
  | .backendMetric _ source | .slotCreation _ source | .backend _ source => some source
  | _ => none

end DispatchError

end SlotDispatch
