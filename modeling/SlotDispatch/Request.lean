import SlotDispatch.Error

/-!
Requests and their outcomes. The outcome of a request is settled at most once, by its
unit of work or by the continuation that the unit left on a slot; it is abandoned when
both are gone and neither has settled it.
-/

namespace SlotDispatch

/-- What a successful request reports. -/
structure Completed where
  /-- The number of the request. -/
  request : Nat
  device : String
  status : Status
  value : String
  deriving DecidableEq, Repr

/-- How a request ended. -/
abbrev Outcome := Except DispatchError Completed

/-- The two holders of a request's reply. -/
inductive Holder where
  | unit
  | continuation
  deriving DecidableEq, Repr

/-- The state of a request. -/
structure Request where
  cancelled : Bool
  /-- The holders that still exist. -/
  holders : List Holder
  outcome : Option Outcome

namespace Request

/-- A request that was just made; its unit of work holds the reply. -/
def new (cancelled : Bool) : Request := ⟨cancelled, [.unit], none⟩

/-- Report an outcome; only the first report has any effect. -/
def settle (outcome : Outcome) (request : Request) : Request :=
  match request.outcome with
  | none => { request with outcome := some outcome }
  | some _ => request

/-- One more holder of the reply. -/
def hold (holder : Holder) (request : Request) : Request :=
  { request with holders := holder :: request.holders }

/-- One holder less; the last to go abandons a request that is not settled. -/
def release (holder : Holder) (request : Request) : Request :=
  let rest := request.holders.erase holder
  let request := { request with holders := rest }
  if rest.isEmpty then request.settle (.error .abandoned) else request

/-! ### An outcome is settled once -/

/-- A report changes nothing once there is an outcome. -/
theorem outcome_settle_of_some {request : Request} {outcome : Outcome} (other : Outcome)
    (settled : request.outcome = some outcome) :
    (request.settle other).outcome = some outcome := by
  simp [settle, settled]

/-- The first report is the outcome. -/
theorem outcome_settle_of_none {request : Request} (outcome : Outcome)
    (unsettled : request.outcome = none) : (request.settle outcome).outcome = some outcome := by
  simp [settle, unsettled]

/-- A holder that goes changes nothing once there is an outcome. -/
theorem outcome_release_of_some {request : Request} {outcome : Outcome} (holder : Holder)
    (settled : request.outcome = some outcome) :
    (request.release holder).outcome = some outcome := by
  simp only [release]
  split
  · exact outcome_settle_of_some _ settled
  · exact settled

end Request

/-- An outcome that a caller keeps for later. -/
structure Pending where
  /-- The number of the request. -/
  request : Nat
  /-- Whether the caller waits for nothing but the end of an inference. -/
  awaited : Bool
  /-- Whether the outcome has been taken out already. -/
  taken : Bool
  deriving DecidableEq, Repr

/-- The entries with the one of the given key replaced, or added. -/
def assign {α : Type} (key : String) (value : α) (entries : List (String × α)) :
    List (String × α) :=
  (key, value) :: entries.filter fun entry => entry.1 ≠ key

/-- The entries without the one of the given key. -/
def unassign {α : Type} (key : String) (entries : List (String × α)) : List (String × α) :=
  entries.filter fun entry => entry.1 ≠ key

end SlotDispatch
