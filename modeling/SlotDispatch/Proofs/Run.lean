import SlotDispatch.Scenario

/-!
Runs of a dispatcher. A run is a sequence of moments, each of them a state and the thread
that acts on it. While an operation is under way the thread takes its steps one by one;
between operations the outside begins the next one, lets a completion come in that is
due, or drops the dispatcher.

A property of a run is proved by induction over the moments it has left behind, the
oldest of which stands first. `Run.thread_run` says that what `Thread.run` computes is a
run, so all that holds of runs holds of the scenarios that are played.
-/

namespace SlotDispatch

/-- A point of a run: the state, and the thread that acts on it. -/
structure Moment where
  state : State
  thread : Thread

/-- The moment after a move, above the frames that waited below. -/
def Move.onto (move : Move) (frames : List Frame) : Moment :=
  ⟨move.state, ⟨move.control, move.frames ++ frames⟩⟩

namespace Moment

/-- The moment at which a dispatcher was just built. -/
def initial (s : State) : Moment := ⟨s, ⟨.signal (.returned .done), []⟩⟩

/-- No operation is under way: the last one has handed its signal back. -/
def AtRest (m : Moment) : Prop := ∃ signal, m.thread = ⟨.signal signal, []⟩

/-- One step of a run. -/
inductive Step : Moment → Moment → Prop where
  /-- The thread makes its call. -/
  | call (s : State) (call : Call) (frames : List Frame) :
      Step ⟨s, ⟨.call call, frames⟩⟩ ((call.step s).onto frames)
  /-- The thread hands its signal to the first frame. -/
  | resume (s : State) (signal : Signal) (frame : Frame) (frames : List Frame) :
      Step ⟨s, ⟨.signal signal, frame :: frames⟩⟩ ((frame.resume s signal).onto frames)
  /-- An operation begins. -/
  | begin (s : State) (signal : Signal) (action : Action) :
      Step ⟨s, ⟨.signal signal, []⟩⟩ ⟨s, .ofCall (.act none action)⟩
  /-- A completion that is due comes in. -/
  | deliver {s : State} {slot : SlotId} {status : Status} (signal : Signal)
      (earlier later : List (SlotId × Status)) :
      s.due = earlier ++ (slot, status) :: later →
      Step ⟨s, ⟨.signal signal, []⟩⟩
        ⟨{ s with due := earlier ++ later }, .ofCall (.complete slot status)⟩
  /-- The dispatcher is dropped. -/
  | drop (s : State) (signal : Signal) :
      Step ⟨s, ⟨.signal signal, []⟩⟩ ⟨s.drop.1, ⟨.signal (.returned (.removed s.drop.2)), []⟩⟩

/-- A step of the thread is a step of the run. -/
theorem Step.of_thread {s t : State} {thread next : Thread}
    (stepped : thread.step s = some (t, next)) : Step ⟨s, thread⟩ ⟨t, next⟩ := by
  obtain ⟨control, frames⟩ := thread
  cases control with
  | call call =>
      simp only [Thread.step, Option.some.injEq, Prod.mk.injEq] at stepped
      obtain ⟨rfl, rfl⟩ := stepped
      exact .call s call frames
  | signal signal =>
      cases frames with
      | nil => simp [Thread.step] at stepped
      | cons frame frames =>
          simp only [Thread.step, Option.some.injEq, Prod.mk.injEq] at stepped
          obtain ⟨rfl, rfl⟩ := stepped
          exact .resume s signal frame frames

end Moment

/-- The moments that `Thread.run` leaves behind. -/
def Thread.passed : Nat → State → Thread → List Moment
  | 0, _, _ => []
  | fuel + 1, s, thread =>
      match thread.step s with
      | none => []
      | some (t, next) => ⟨s, thread⟩ :: passed fuel t next

/-- The moments left behind by operations that begin one after another, each after at most
`fuel` steps of the one before it, and the moment that they have come to. An operation that is
not over by then is the last. -/
def Moment.operations (fuel : Nat) (m : Moment) : List Action → List Moment × Moment
  | [] => ([], m)
  | action :: rest =>
      match m.thread with
      | ⟨.signal _, []⟩ =>
          let thread := Thread.ofCall (.act none action)
          let last := thread.run fuel m.state
          let later := operations fuel ⟨last.1, last.2⟩ rest
          (m :: thread.passed fuel m.state ++ later.1, later.2)
      | _ => ([], m)

/-- `Run first past now`: a run that began at `first` has left the moments `past` behind,
the oldest first, and has come to `now`. -/
inductive Run (first : Moment) : List Moment → Moment → Prop where
  | start : Run first [] first
  | next {past : List Moment} {now after : Moment} :
      Run first past now → now.Step after → Run first (past ++ [now]) after

namespace Run

/-- A run that has left nothing behind is where it began. -/
theorem eq_of_nil {first now : Moment} (run : Run first [] now) : now = first := by
  generalize none : [] = past at run
  cases run with
  | start => rfl
  | next => simp at none

/-- A single step is a run. -/
theorem single {first second : Moment} (step : first.Step second) :
    Run first [first] second := .next .start step

/-- A run can be continued by another. -/
theorem append {first middle last : Moment} {past later : List Moment}
    (run : Run first past middle) (rest : Run middle later last) :
    Run first (past ++ later) last := by
  induction rest with
  | start => simpa using run
  | next _ step ih =>
      rw [← List.append_assoc]
      exact .next ih step

/-- A run that has left a moment behind passed through it. -/
theorem split {first now m : Moment} {before after : List Moment}
    (run : Run first (before ++ m :: after) now) :
    Run first before m ∧ Run m (m :: after) now := by
  generalize whole : before ++ m :: after = past at run
  induction run generalizing after with
  | start => simp at whole
  | @next past last next run step ih =>
      rcases List.eq_nil_or_concat after with rfl | ⟨front, final, rfl⟩
      · obtain ⟨rfl, tail⟩ := List.append_inj' whole rfl
        obtain rfl : m = last := by simpa using tail
        exact ⟨run, single step⟩
      · rw [List.concat_eq_append, ← List.cons_append, ← List.append_assoc] at whole
        obtain ⟨same, tail⟩ := List.append_inj' whole rfl
        obtain rfl : final = last := by simpa using tail
        obtain ⟨upTo, onward⟩ := ih same
        refine ⟨upTo, ?_⟩
        rw [List.concat_eq_append, ← List.cons_append]
        exact .next onward step

/-- A run that has left a moment behind took a step from it. -/
theorem head {first now m : Moment} {past : List Moment} (run : Run first (m :: past) now) :
    first = m ∧ ∃ second, m.Step second ∧ Run second past now := by
  generalize whole : m :: past = passed at run
  induction run generalizing past with
  | start => simp at whole
  | @next passed last next run step ih =>
      cases passed with
      | nil =>
          obtain ⟨rfl, rfl⟩ : m = last ∧ past = [] := by simpa using whole
          exact ⟨run.eq_of_nil.symm, next, step, .start⟩
      | cons earlier passed =>
          obtain ⟨rfl, rfl⟩ : m = earlier ∧ past = passed ++ [last] := by simpa using whole
          obtain ⟨same, second, stepped, rest⟩ := ih rfl
          exact ⟨same, second, stepped, .next rest step⟩

/-- A run can be cut short at any moment that it has left behind. -/
theorem take {first now : Moment} {past : List Moment} (run : Run first past now) (count : Nat)
    (passed : count < past.length) : Run first (past.take count) past[count] := by
  have split : past = past.take count ++ past[count] :: past.drop (count + 1) := by
    rw [List.getElem_cons_drop, List.take_append_drop]
  generalize past[count] = m at split ⊢
  rw [split] at run
  exact run.split.1

/-- What `Thread.run` computes is a run. -/
theorem thread_run (fuel : Nat) (s : State) (thread : Thread) :
    Run ⟨s, thread⟩ (thread.passed fuel s)
      ⟨(thread.run fuel s).1, (thread.run fuel s).2⟩ := by
  induction fuel generalizing s thread with
  | zero => exact .start
  | succ fuel ih =>
      cases stepped : thread.step s with
      | none =>
          simp only [Thread.passed, Thread.run, stepped]
          exact .start
      | some result =>
          simp only [Thread.passed, Thread.run, stepped]
          exact (single (.of_thread stepped)).append (ih result.1 result.2)

/-- An operation that begins between operations, as far as it gets. -/
theorem operation (fuel : Nat) (s : State) (signal : Signal) (action : Action) :
    Run ⟨s, ⟨.signal signal, []⟩⟩
      (⟨s, ⟨.signal signal, []⟩⟩ :: (Thread.ofCall (.act none action)).passed fuel s)
      ⟨((Thread.ofCall (.act none action)).run fuel s).1,
        ((Thread.ofCall (.act none action)).run fuel s).2⟩ :=
  (single (.begin s signal action)).append (thread_run fuel s _)

/-- Operations that begin one after another are a run. -/
theorem operations (fuel : Nat) (m : Moment) (actions : List Action) :
    Run m (m.operations fuel actions).1 (m.operations fuel actions).2 := by
  induction actions generalizing m with
  | nil => exact .start
  | cons action rest ih =>
      obtain ⟨s, control, frames⟩ := m
      simp only [Moment.operations]
      split
      · next signal same =>
          obtain ⟨rfl, rfl⟩ : control = .signal signal ∧ frames = [] := by simpa using same
          exact (operation fuel s signal action).append (ih _)
      · exact .start

end Run

end SlotDispatch
