import SlotDispatch.Scenario

/-!
A workload of many producers. Each submits a number of units of work; a unit leaves a
continuation on its slot and starts it, and the device completes the slot later, in a
thread of its own. What is counted at the end does not depend on how the threads take
turns, so the turns are taken in the plainest order: the producers one after another,
then the completions as they fall due.
-/

namespace SlotDispatch

/-- What is counted at the end of a workload. -/
structure Tally where
  /-- The units that ran exactly once. -/
  once : Nat
  /-- The units that never ran. -/
  never : Nat
  /-- The continuations that ran. -/
  completed : Nat
  /-- The starts of a slot that was running. -/
  overlaps : Nat
  state : Snapshot

namespace Workload

/-- The name of a unit, by its number. -/
def unitName (number : Nat) : String := Nat.repr number

/-- What every unit does. -/
def unitScript : Script := [.andThen [], .start]

/-- The submission of a unit. -/
def submission (number : Nat) : Action := .submit (unitName number) unitScript

/-- Carry out actions in order. -/
def actAll (s : State) (actions : List Action) : State :=
  actions.foldl (fun s action => (s.operate (.act action)).1) s

/-- Carry out the oldest completion that is due, at most `fuel` times. -/
def settle : Nat → State → State
  | 0, s => s
  | fuel + 1, s =>
      match s.due with
      | [] => s
      | (slot, status) :: due =>
          settle fuel ({ s with due }.runCall (.complete slot status)).1

/-- How often a unit began to run. -/
def runCount (log : List Event) (name : String) : Nat :=
  log.countP fun event =>
    match event with
    | .entered .work id _ _ => id == name
    | _ => false

/-- How often a continuation began to run. -/
def followUpCount (log : List Event) : Nat :=
  log.countP fun event =>
    match event with
    | .entered (.followUp _) _ _ _ => true
    | _ => false

/-- How often a start was refused because the slot was running. -/
def overlapCount (log : List Event) : Nat :=
  log.countP fun event =>
    match event with
    | .failed _ _ error => error == Backend.busy
    | _ => false

/-- The system after `total` units were submitted and everything due has completed. -/
def run (s : State) (total : Nat) : State :=
  settle total (actAll s ((List.range total).map submission))

/-- What is counted after a run of `total` units. -/
def tally (s : State) (total : Nat) : Tally :=
  let last := run s total
  let counts := (List.range total).map fun number => runCount last.log (unitName number)
  ⟨counts.countP (· == 1), counts.countP (· == 0), followUpCount last.log,
    overlapCount last.log, last.snapshot⟩

end Workload

/-- Build a dispatcher and run a workload of `producers` producers on it, with `each`
units of each. -/
def playWorkload (backends : List Backend) (source : PrioritySource) (producers each : Nat) :
    Trial Tally :=
  let trial := constructFrom backends source
  ⟨trial.events, trial.result.map fun s => Workload.tally s (producers * each)⟩

end SlotDispatch
