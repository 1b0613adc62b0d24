import SlotDispatch.State

/-!
The outcomes that callers keep: looking for them, taking them out, and cancelling the
requests they belong to.
-/

namespace SlotDispatch.State

/-- A request that was just made, under the next number. -/
def addRequest (s : State) (cancelled : Bool) : State × Nat :=
  ({ s with requests := s.requests ++ [.new cancelled] }, s.requests.length)

/-- Keep the outcome of a request under a name. -/
def keep (s : State) (id : String) (number : Nat) (awaited : Bool) : State :=
  { s with pending := assign id ⟨number, awaited, false⟩ s.pending }

/-- The answer that an outcome gives to a caller who asked for request `number`. -/
def outcomeAnswer (number : Nat) (awaited : Bool) : Outcome → Answer
  | .ok result => .completed result (if awaited then none else some (result.request == number))
  | .error error => .rejected error

/-- Look at the outcome of a request: its answer once it is there. -/
def look (s : State) (entry : Pending) : Option Answer :=
  (s.outcome? entry.request).map (outcomeAnswer entry.request entry.awaited)

/-- Look for an outcome, which is taken out but stays stored. -/
def tryOutcome (s : State) (id : String) : State × Answer :=
  match s.pending.lookup id with
  | none => (s, .misuse .noSuchRequest)
  | some entry =>
      if entry.awaited then (s, .misuse .notForInfer)
      else if entry.taken then (s, .rejected .abandoned)
      else match s.look entry with
        | none => (s, .waiting)
        | some answer =>
            ({ s with pending := assign id { entry with taken := true } s.pending }, answer)

/-- Look for an outcome, which is removed once it is there. -/
def poll (s : State) (id : String) : State × Answer :=
  match s.pending.lookup id with
  | none => (s, .misuse .noSuchRequest)
  | some entry =>
      let removed := { s with pending := unassign id s.pending }
      if entry.taken then (removed, .misuse .alreadyTaken)
      else match s.look entry with
        | none => (s, .waiting)
        | some answer => (removed, answer)

/-- Wait for an outcome, which is removed; an inference is not waited for this way. -/
def wait (s : State) (id : String) : State × Answer :=
  match s.pending.lookup id with
  | some ⟨_, true, _⟩ => (s, .misuse .notForInfer)
  | _ => s.poll id

/-- Set the cancel flag of a request. -/
def cancelRequest (s : State) (number : Nat) : State :=
  s.modifyRequest number fun request => { request with cancelled := true }

/-- Cancel a request through its handle. -/
def cancel (s : State) (id : String) : State × Answer :=
  match s.handles.lookup id with
  | none => (s, .misuse .noSuchRequest)
  | some number => (s.cancelRequest number, .cancelled (some (s.isCancelled number)) true)

/-- Cancel a request through its stored outcome. -/
def cancelPending (s : State) (id : String) : State × Answer :=
  match s.pending.lookup id with
  | some ⟨number, false, _⟩ => (s.cancelRequest number, .cancelled none true)
  | _ => (s, .misuse .noSuchRequest)

/-- Remove a stored outcome. -/
def forget (s : State) (id : String) : State × Answer :=
  ({ s with pending := unassign id s.pending },
    .removed (s.pending.lookup id).isSome)

end SlotDispatch.State
