import Mathlib.Logic.Relation
import SlotDispatch.Workload

/-!
Many threads on one dispatcher. A crowd is a state and the threads that act on it in turns:
at every turn one of them takes a single step. A call is indivisible (`Call.step`), so the
turns interleave threads as finely as the dispatcher lets them be. A completion that is due
from a thread of a device comes in as a thread of its own.

A law of crowds holds of whatever a crowd can come to (`Crowd.Comes`), in any order of turns.
-/

namespace SlotDispatch

/-- A thread among others: the operations that it has yet to begin, and the one that is under
way. -/
structure Worker where
  todo : List Action
  thread : Thread

/-- The threads that act on one state. -/
structure Crowd where
  state : State
  workers : List Worker

theorem Thread.signal?_isSome_iff {thread : Thread} :
    thread.signal?.isSome = true ↔ ∃ signal, thread = ⟨.signal signal, []⟩ := by
  constructor
  · intro some
    simp only [Thread.signal?] at some
    split at some
    · next signal => exact ⟨signal, rfl⟩
    · cases some
  · rintro ⟨signal, rfl⟩
    rfl

namespace Crowd

/-- One turn. -/
inductive Step : Crowd → Crowd → Prop where
  /-- A thread takes a step of its operation. -/
  | advance {s t : State} {thread next : Thread} (earlier later : List Worker)
      (todo : List Action) : thread.step s = some (t, next) →
      Step ⟨s, earlier ++ ⟨todo, thread⟩ :: later⟩ ⟨t, earlier ++ ⟨todo, next⟩ :: later⟩
  /-- A thread begins its next operation. -/
  | begin (s : State) (earlier later : List Worker) (signal : Signal) (action : Action)
      (todo : List Action) :
      Step ⟨s, earlier ++ ⟨action :: todo, ⟨.signal signal, []⟩⟩ :: later⟩
        ⟨s, earlier ++ ⟨todo, .ofCall (.act none action)⟩ :: later⟩
  /-- A completion that is due comes in. -/
  | complete {s : State} {slot : SlotId} {status : Status} (workers : List Worker)
      (earlier later : List (SlotId × Status)) : s.due = earlier ++ (slot, status) :: later →
      Step ⟨s, workers⟩
        ⟨{ s with due := earlier ++ later },
          workers ++ [⟨[], .ofCall (.complete slot status)⟩]⟩

/-- What a crowd can come to. -/
abbrev Comes : Crowd → Crowd → Prop := Relation.ReflTransGen Step

/-- All threads have finished: each has done all of its operations, and no completion is due. -/
structure Finished (c : Crowd) : Prop where
  due : c.state.due = []
  workers : ∀ worker ∈ c.workers,
    worker.todo = [] ∧ ∃ signal, worker.thread = ⟨.signal signal, []⟩

/-- Whether all threads have finished. -/
def isFinished (c : Crowd) : Bool :=
  c.state.due.isEmpty
    && c.workers.all fun worker => worker.todo.isEmpty && worker.thread.signal?.isSome

theorem isFinished_iff {c : Crowd} : c.isFinished = true ↔ c.Finished := by
  simp only [isFinished, Bool.and_eq_true, List.isEmpty_iff, List.all_eq_true,
    Thread.signal?_isSome_iff]
  constructor
  · rintro ⟨due, workers⟩
    exact ⟨due, workers⟩
  · rintro ⟨due, workers⟩
    exact ⟨due, workers⟩

instance (c : Crowd) : Decidable c.Finished := decidable_of_iff _ isFinished_iff

/-- Producers that submit units of work, `each` of them as many. -/
def producing (s : State) (producers each : Nat) : Crowd where
  state := s
  workers := (List.range producers).map fun producer =>
    { todo := (List.range each).map fun index => Workload.submission (producer * each + index)
      thread := ⟨.signal (.returned .done), []⟩ }

/-! ### Turns in a given order -/

/-- Whose turn it is. -/
inductive Turn where
  /-- That of the thread at this position. -/
  | worker (position : Nat)
  /-- That of the completion at this position among those that are due. -/
  | due (position : Nat)

/-- A worker that takes its turn. -/
def Worker.turn (s : State) : Worker → Option (State × Worker)
  | ⟨todo, thread⟩ =>
      match thread.step s with
      | some (t, next) => some (t, ⟨todo, next⟩)
      | none =>
          match todo with
          | [] => none
          | action :: rest => some (s, ⟨rest, .ofCall (.act none action)⟩)

/-- One turn; nothing happens if there is nothing to do. -/
def turn (c : Crowd) : Turn → Crowd
  | .worker position =>
      match (c.workers[position]?).bind (Worker.turn c.state) with
      | none => c
      | some (t, worker) => ⟨t, c.workers.set position worker⟩
  | .due position =>
      match c.state.due[position]? with
      | none => c
      | some (slot, status) =>
          ⟨{ c.state with due := c.state.due.eraseIdx position },
            c.workers ++ [⟨[], .ofCall (.complete slot status)⟩]⟩

/-- A worker that takes its turn takes a step, or begins its next operation. -/
theorem step_of_turn {s t : State} {worker next : Worker} (earlier later : List Worker)
    (taken : Worker.turn s worker = some (t, next)) :
    Step ⟨s, earlier ++ worker :: later⟩ ⟨t, earlier ++ next :: later⟩ := by
  obtain ⟨todo, thread⟩ := worker
  simp only [Worker.turn] at taken
  cases stepped : thread.step s with
  | some result =>
      rw [stepped] at taken
      obtain ⟨rfl, rfl⟩ := Prod.mk.inj (Option.some.inj taken)
      exact .advance earlier later todo stepped
  | none =>
      obtain ⟨signal, rfl⟩ := Thread.step_eq_none_iff.mp stepped
      rw [stepped] at taken
      cases todo with
      | nil => cases taken
      | cons action rest =>
          obtain ⟨rfl, rfl⟩ := Prod.mk.inj (Option.some.inj taken)
          exact .begin s earlier later signal action rest

theorem comes_turn (c : Crowd) (turn : Turn) : c.Comes (c.turn turn) := by
  obtain ⟨s, workers⟩ := c
  cases turn with
  | worker position =>
      simp only [Crowd.turn]
      split
      · exact .refl
      · next t next taken =>
          obtain ⟨worker, found, taken⟩ := Option.bind_eq_some_iff.mp taken
          obtain ⟨there, rfl⟩ := List.getElem?_eq_some_iff.mp found
          have split : ∃ earlier later, workers = earlier ++ workers[position] :: later
              ∧ earlier.length = position ∧ workers.set position next = earlier ++ next :: later :=
            List.exists_of_set there
          obtain ⟨earlier, later, whole, -, set⟩ := split
          have step := step_of_turn earlier later taken
          rw [← whole, ← set] at step
          exact .single step
  | due position =>
      simp only [Crowd.turn]
      split
      · exact .refl
      · next slot status found =>
          obtain ⟨there, same⟩ := List.getElem?_eq_some_iff.mp found
          have whole : s.due
              = s.due.take position ++ (slot, status) :: s.due.drop (position + 1) := by
            rw [← same, List.getElem_cons_drop there, List.take_append_drop]
          rw [List.eraseIdx_eq_take_drop_succ]
          exact .single (.complete workers _ _ whole)

/-- A crowd comes to what it is after turns in a given order. -/
theorem comes_turns (c : Crowd) (turns : List Turn) : c.Comes (turns.foldl turn c) := by
  induction turns generalizing c with
  | nil => exact .refl
  | cons first rest ih => exact (c.comes_turn first).trans (ih (c.turn first))

end Crowd

end SlotDispatch
