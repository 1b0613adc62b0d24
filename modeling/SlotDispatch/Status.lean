/-!
The outcome that a device reports when one of its execution slots finishes.
-/

namespace SlotDispatch

/-- How an execution ended. -/
inductive Status where
  | ok
  | generalError
  | inferNotStarted
  | requestBusy
  | cancelled
  | unexpected
  deriving DecidableEq, Repr, Inhabited

namespace Status

/-- Every status, success first. -/
def all : List Status :=
  [.ok, .generalError, .inferNotStarted, .requestBusy, .cancelled, .unexpected]

/-- The status as reports spell it. -/
def text : Status → String
  | .ok => "OK"
  | .generalError => "GENERAL_ERROR"
  | .inferNotStarted => "INFER_NOT_STARTED"
  | .requestBusy => "REQUEST_BUSY"
  | .cancelled => "INFER_CANCELLED"
  | .unexpected => "UNEXPECTED"

/-- The status as the description of a slot names it. -/
def label : Status → String
  | .ok => "Ok"
  | .generalError => "GeneralError"
  | .inferNotStarted => "InferNotStarted"
  | .requestBusy => "RequestBusy"
  | .cancelled => "Cancelled"
  | .unexpected => "Unexpected"

/-- The status a report spells; anything that is no status counts as success. -/
def ofText (spelled : String) : Status :=
  (all.find? fun status => status.text == spelled).getD .ok

/-- Whether the execution succeeded. -/
def isOk (status : Status) : Bool := status == .ok

end Status

end SlotDispatch
