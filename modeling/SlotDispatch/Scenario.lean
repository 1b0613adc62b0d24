import SlotDispatch.Construction
import SlotDispatch.Execution.Run

/-!
Scenarios: a dispatcher is built, operations are carried out one after another, and each
is recorded with its result, the events during it, and the state after it.
-/

namespace SlotDispatch

/-- Something that is done outside of all scripts. -/
inductive Operation where
  | act (action : Action)
  /-- Drop the dispatcher. -/
  | drop

/-- What is recorded of an operation. -/
structure Record where
  /-- The signal that the operation handed back, if it came to its end. -/
  result : Option Signal
  events : List Event
  state : Snapshot

namespace State

/-- Carry out an operation. -/
def operate (s : State) : Operation → State × Option Signal
  | .act action => s.runCall (.act none action)
  | .drop => ((s.drop).1, some (.returned (.removed s.drop.2)))

/-- Carry out an operation and record it. -/
def record (s : State) (operation : Operation) : State × Record :=
  let last := { s with log := [] }.operate operation
  (last.1, ⟨last.2, last.1.log.reverse, last.1.snapshot⟩)

/-- Carry out operations and record them. -/
def recordAll (s : State) : List Operation → List Record
  | [] => []
  | operation :: rest =>
      let step := s.record operation
      step.2 :: step.1.recordAll rest

end State

/-- What is recorded of a scenario: the construction, and if it succeeded the state after
it and the operations that followed. -/
structure Transcript where
  events : List Event
  result : Except DispatchError (Snapshot × List Record)

/-- Play a scenario. -/
def playScenario (backends : List Backend) (source : PrioritySource)
    (operations : List Operation) : Transcript :=
  let trial := constructFrom backends source
  ⟨trial.events, trial.result.map fun s => (s.snapshot, s.recordAll operations)⟩

end SlotDispatch
