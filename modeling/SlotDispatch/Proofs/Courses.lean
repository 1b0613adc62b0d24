import SlotDispatch.Scenario
import SlotDispatch.Proofs.Extent

/-!
What comes in from outside, from its beginning to its end. Between operations nothing but the
state is left of the past; what an operation does, and that it comes to its end, depends on
little of it: the priority list names devices that are there, each once, and no two slots have
one identity (`State.Steady`). `Moment.course` are the moments that a thread passes through.
What is shown of an extent is shown of them, since there is only one extent from the beginning
of a thread (`Moment.Sturdy.finish_eq`), and there is one (`Moment.Sturdy.course_extent`).
-/

namespace SlotDispatch

/-- The priority list names only devices that are there, each once, and no two slots have one
identity. -/
structure State.Steady (s : State) : Prop where
  listed : s.Listed
  distinct : (s.slots.map Slot.id).Nodup

namespace Moment

/-- What lets a thread go on until it has come to its end. -/
structure Sturdy (m : Moment) : Prop where
  steady : m.state.Steady
  searching : m.Searching

variable {m after first last : Moment} {frames : List Frame} {passed : List Moment}
  {signal : Signal}

theorem Sturdy.step (sturdy : m.Sturdy) (step : m.Step after) : after.Sturdy := by
  refine ⟨⟨step.listed sturdy.steady.listed, ?_⟩, step.searching sturdy.searching⟩
  rw [step.keeps_slots]
  exact sturdy.steady.distinct

theorem Sturdy.run (sturdy : m.Sturdy) (run : Run m passed last) : last.Sturdy := by
  induction run with
  | start => exact sturdy
  | next run step ih => exact ih.step step

/-! ### One step at a time -/

/-- A thread that works above frames has one way to go on. -/
theorem Above.step_eq (above : m.Above frames) (step : m.Step after) :
    m.thread.step m.state = some (after.state, after.thread) := by
  rcases above.cases step with ⟨s, call, upper, rfl, rfl⟩ | ⟨s, signal, frame, upper, rfl, rfl⟩
  · rfl
  · rfl

/-- An extent has left nothing behind if the signal is at hand, and else one step. -/
theorem Extent.cases (extent : first.Extent frames passed signal last) :
    passed = [] ∧ last = first ∧ first.thread = ⟨.signal signal, frames⟩
      ∨ ∃ after rest, passed = first :: rest ∧ first.Above frames ∧ first.Step after
        ∧ after.Extent frames rest signal last := by
  cases passed with
  | nil =>
      obtain rfl := extent.run.eq_of_nil
      exact .inl ⟨rfl, rfl, extent.back⟩
  | cons m rest =>
      obtain ⟨rfl, after, step, run⟩ := extent.run.head
      refine .inr ⟨after, rest, rfl, extent.above first List.mem_cons_self,
        step, run, ?_, extent.back⟩
      exact fun m mem => extent.above m (List.mem_cons_of_mem _ mem)

/-- What `Thread.run` computes is the extent of an operation, if it goes on for long enough. -/
theorem Extent.run_eq (extent : first.Extent [] passed signal last) {fuel : Nat}
    (enough : passed.length ≤ fuel) :
    first.thread.run fuel first.state = (last.state, last.thread)
      ∧ first.thread.passed fuel first.state = passed := by
  induction passed generalizing first fuel with
  | nil =>
      rcases extent.cases with ⟨-, rfl, back⟩ | ⟨after, rest, same, -⟩
      · have ended : last.thread.step last.state = none :=
          Thread.step_eq_none_iff.mpr ⟨signal, back⟩
        cases fuel with
        | zero => exact ⟨rfl, rfl⟩
        | succ fuel => simp [Thread.run, Thread.passed, ended]
      · cases same
  | cons m rest ih =>
      rcases extent.cases with ⟨none, -⟩ | ⟨after, rest', same, above, step, onward⟩
      · cases none
      · obtain ⟨rfl, rfl⟩ := List.cons.inj same
        obtain ⟨fuel, rfl⟩ : ∃ more, fuel = more + 1 := by
          simp only [List.length_cons] at enough
          exact ⟨fuel - 1, by omega⟩
        obtain ⟨runs, passes⟩ := ih onward (by simpa using enough)
        have stepped := above.step_eq step
        simp only [Thread.run, Thread.passed, stepped]
        exact ⟨runs, by rw [passes]⟩

/-- A thread comes to its end, after no more steps than it weighs. -/
theorem Sturdy.extent (sturdy : m.Sturdy) (above : m.Above frames) :
    ∃ passed signal last, m.Extent frames passed signal last
      ∧ passed.length ≤ m.weight m.state.devices.length := by
  generalize weighs : m.weight m.state.devices.length = bound
  induction bound using Nat.strongRecOn generalizing m with
  | ind bound ih =>
      obtain ⟨after, step, lighter⟩ :=
        above.busy.goes_on sturdy.steady.listed sturdy.steady.distinct sturdy.searching
      rw [weighs] at lighter
      rcases above.step step with onward | ⟨signal, back⟩
      · obtain ⟨passed, signal, last, extent, short⟩ := ih _ lighter (sturdy.step step) onward rfl
        refine ⟨m :: passed, signal, last, extent.cons above step, ?_⟩
        simp only [List.length_cons]
        omega
      · refine ⟨[m], signal, after, ⟨.single step, ?_, back⟩, ?_⟩
        · intro other mem
          rw [List.mem_singleton.mp mem]
          exact above
        · simp only [List.length_singleton]
          omega

/-! ### From the beginning to the end -/

/-- Whether an operation is under way. -/
def isBusy (m : Moment) : Bool :=
  match m.thread with
  | ⟨.signal _, []⟩ => false
  | _ => true

theorem Above.isBusy (above : m.Above frames) : m.isBusy = true := by
  obtain ⟨s, control, waiting⟩ := m
  rcases above.busy with ⟨call, rfl⟩ | waits
  · rfl
  · cases waiting with
    | nil => exact absurd rfl waits
    | cons frame rest => cases control <;> rfl

/-- All that an extent passes through is busy. -/
theorem Extent.filter_isBusy (extent : first.Extent frames passed signal last) :
    passed.filter Moment.isBusy = passed :=
  List.filter_eq_self.mpr fun m mem => (extent.above m mem).isBusy

/-- The moments that a thread passes through until it has come to its end. -/
def course (m : Moment) : List Moment := m.thread.passed (m.state.fuel m.thread) m.state

/-- The state at its end, and the signal that it hands back. -/
def finish (m : Moment) : State × Option Signal :=
  let last := m.thread.run (m.state.fuel m.thread) m.state
  (last.1, last.2.signal?)

/-- There is only one extent from a moment on. -/
theorem Sturdy.finish_eq (sturdy : m.Sturdy) (above : m.Above [])
    (extent : m.Extent [] passed signal last) :
    m.finish = (last.state, some signal) ∧ m.course = passed := by
  obtain ⟨passed', signal', last', extent', short⟩ := sturdy.extent above
  obtain ⟨runs, passes⟩ := extent'.run_eq short
  have enough : passed.length ≤ max passed.length passed'.length := Nat.le_max_left ..
  obtain ⟨long, same⟩ := extent.run_eq enough
  obtain ⟨long', same'⟩ := extent'.run_eq (Nat.le_max_right passed.length passed'.length)
  obtain ⟨state, thread⟩ := Prod.mk.inj (long'.symm.trans long)
  have back : last'.thread = ⟨.signal signal, []⟩ := thread.trans extent.back
  have runs : m.thread.run (m.state.fuel m.thread) m.state = (last'.state, last'.thread) := runs
  refine ⟨?_, passes.trans (same'.symm.trans same)⟩
  simp only [finish, runs, back, state]
  rfl

/-- And there is one: every thread comes to its end. -/
theorem Sturdy.course_extent (sturdy : m.Sturdy) (above : m.Above []) :
    ∃ signal, m.finish.2 = some signal
      ∧ m.Extent [] m.course signal ⟨m.finish.1, ⟨.signal signal, []⟩⟩ := by
  obtain ⟨passed, signal, last, extent, -⟩ := sturdy.extent above
  obtain ⟨same, passes⟩ := sturdy.finish_eq above extent
  rw [same, passes]
  obtain ⟨t, thread⟩ := last
  obtain rfl : thread = ⟨.signal signal, []⟩ := extent.back
  exact ⟨signal, rfl, extent⟩

end Moment

/-! ### What comes in -/

/-- Something that comes in from outside between operations. -/
inductive Arrival where
  /-- An operation begins. -/
  | operation (action : Action)
  /-- A completion comes in: from a thread of the device's own if it is due, and else as an
  operation. -/
  | completion (slot : SlotId) (status : Status)

namespace State

variable {s : State} {arrival : Arrival}

/-- Where a thread begins that acts on what comes in. -/
def begins (s : State) : Arrival → Moment
  | .operation action => ⟨s, .ofCall (.act none action)⟩
  | .completion slot status =>
      if (slot, status) ∈ s.due then
        ⟨{ s with due := s.due.erase (slot, status) }, .ofCall (.complete slot status)⟩
      else ⟨s, .ofCall (.act none (.complete slot status))⟩

/-- The state after something has come in, and the signal that is handed back. -/
def arrive (s : State) (arrival : Arrival) : State × Option Signal := (s.begins arrival).finish

/-- The state after all of this has come in, and the signals. -/
def arriveAll (s : State) : List Arrival → State × List (Option Signal)
  | [] => (s, [])
  | arrival :: rest =>
      let once := s.arrive arrival
      let later := once.1.arriveAll rest
      (later.1, once.2 :: later.2)

/-- The moments that are passed through meanwhile. -/
def courses (s : State) : List Arrival → List Moment
  | [] => []
  | arrival :: rest => (s.begins arrival).course ++ (s.arrive arrival).1.courses rest

/-- Whatever comes in begins with a step of a run. -/
theorem step_begins (s : State) (signal : Signal) (arrival : Arrival) :
    Moment.Step ⟨s, ⟨.signal signal, []⟩⟩ (s.begins arrival) := by
  cases arrival with
  | operation action => exact .begin s signal action
  | completion slot status =>
      simp only [begins]
      split
      · next due =>
          obtain ⟨earlier, later, -, split, erased⟩ := List.exists_erase_eq due
          rw [erased]
          exact .deliver signal earlier later split
      · exact .begin s signal _

theorem above_begins (s : State) (arrival : Arrival) : (s.begins arrival).Above [] := by
  cases arrival with
  | operation action => exact Moment.above_of_call []
  | completion slot status =>
      simp only [begins]
      split <;> exact Moment.above_of_call []

theorem Steady.begins (steady : s.Steady) (arrival : Arrival) : (s.begins arrival).Sturdy := by
  have atRest : Moment.Sturdy ⟨s, ⟨.signal (.returned .done), []⟩⟩ :=
    ⟨steady, Moment.searching_of_no_frame (Moment.seeks_of_not rfl) rfl⟩
  exact atRest.step (s.step_begins _ arrival)

/-- Whatever comes in is acted on to its end. -/
theorem Steady.extent (steady : s.Steady) (arrival : Arrival) :
    ∃ signal, (s.arrive arrival).2 = some signal
      ∧ (s.begins arrival).Extent [] (s.begins arrival).course signal
        ⟨(s.arrive arrival).1, ⟨.signal signal, []⟩⟩ :=
  (steady.begins arrival).course_extent (s.above_begins arrival)

theorem Steady.arrive (steady : s.Steady) (arrival : Arrival) : (s.arrive arrival).1.Steady := by
  obtain ⟨signal, -, extent⟩ := steady.extent arrival
  exact ((steady.begins arrival).run extent.run).steady

end State

/-! ### Runs -/

/-- A run that is between operations is steady if a dispatcher was built. -/
theorem Run.steady {backends : List Backend} {priorities : List Preference} {s : State}
    {past : List Moment} {now : Moment}
    (built : (construct backends priorities).result = .ok s) (run : Run (.initial s) past now) :
    now.state.Steady := ⟨run.listed built, (run.grounded built).distinct⟩

end SlotDispatch
