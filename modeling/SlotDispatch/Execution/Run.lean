import SlotDispatch.Execution.Step
import SlotDispatch.Execution.Weight

/-!
Running a thread to its end. The number of steps is bounded by the weight of the thread
and of the scripts that wait in the state.
-/

namespace SlotDispatch

namespace Thread

/-- At most `fuel` steps of a thread. -/
def run : Nat → State → Thread → State × Thread
  | 0, s, thread => (s, thread)
  | fuel + 1, s, thread =>
      match thread.step s with
      | none => (s, thread)
      | some (s, thread) => run fuel s thread

/-- The signal that a thread at its end has handed back. -/
def signal? : Thread → Option Signal
  | ⟨.signal signal, []⟩ => some signal
  | _ => none

end Thread

namespace State

/-- The steps that are enough for a thread to come to its end. -/
def fuel (s : State) (thread : Thread) : Nat :=
  s.weight s.devices.length + thread.weight s.devices.length

/-- Make a call and all that follows from it. -/
def runCall (s : State) (call : Call) : State × Option Signal :=
  let thread := Thread.ofCall call
  let last := thread.run (s.fuel thread) s
  (last.1, last.2.signal?)

end State

end SlotDispatch
