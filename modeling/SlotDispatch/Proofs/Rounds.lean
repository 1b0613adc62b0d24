import SlotDispatch.Proofs.Attempts
import SlotDispatch.Proofs.Invisibility

/-!
Scheduling comes to an end. It begins anew only after a unit of work has failed, which has then
left the queue for good; the other way to begin anew, because a slot was handed back and work
waits, is never taken, since a walk that has handed a slot back has found the queue empty and
nobody else fills it (`Moment.Step.round`). What a unit, a hook or a continuation does in between
may fill the queue, return slots and schedule within this very schedule; all of it is counted by
the weight of the moment, which every step lowers.
-/

namespace SlotDispatch

/-! ### Rounds -/

/-- The first unit of `queue` was bound to a slot above the frames, and has failed. -/
def Spent (frames : List Frame) (queue : List Work) (past : List Moment) : Prop :=
  ∃ slot work,
    (∃ m ∈ past, m.thread = ⟨.call (.bind slot work), frames⟩ ∧ queue = work :: m.state.queue)
      ∧ ∃ m ∈ past, ∃ signal, m.thread = ⟨.signal signal, .bound slot :: frames⟩
        ∧ signal.fails = true

/-- How far one round of scheduling above the frames has come that began with this queue. -/
inductive Round (frames : List Frame) (queue : List Work) (past : List Moment) : Moment → Prop where
  /-- The walk has handed no slot back. -/
  | walks (s : State) (devices : List String) :
      s.queue = queue → Round frames queue past ⟨s, ⟨.call (.walk devices false), frames⟩⟩
  | offers (s : State) (slot : SlotId) (devices : List String) :
      s.queue = queue → Round frames queue past ⟨s, ⟨.call (.offer slot devices), frames⟩⟩
  | binds (s : State) (slot : SlotId) (work : Work) :
      queue = work :: s.queue → Round frames queue past ⟨s, ⟨.call (.bind slot work), frames⟩⟩
  /-- The first unit runs, or has just ended. -/
  | runs (m : Moment) (slot : SlotId) (work : Work) :
      (∃ b ∈ past, b.thread = ⟨.call (.bind slot work), frames⟩ ∧ queue = work :: b.state.queue) →
      (m.Above (.bound slot :: frames)
        ∨ ∃ signal, m.thread = ⟨.signal signal, .bound slot :: frames⟩) →
      Round frames queue past m
  /-- It has failed, and its slot is handed back. -/
  | fails (s : State) (control : Control) : control.hands = true → Spent frames queue past →
      Round frames queue past ⟨s, ⟨control, .reschedule :: frames⟩⟩
  /-- It panics, and its slot is handed back. -/
  | panics (s : State) (control : Control) (message : String) : control.hands = true →
      Round frames queue past ⟨s, ⟨control, .rethrow message :: frames⟩⟩
  /-- There is no unit, and the slot that was found is handed back. -/
  | unused (s : State) (control : Control) (devices : List String) : control.hands = true →
      queue = [] → s.queue = queue → Round frames queue past ⟨s, ⟨control, .walk devices :: frames⟩⟩
  /-- The walk goes on although it has handed a slot back. -/
  | passes (s : State) (devices : List String) :
      queue = [] → s.queue = queue →
        Round frames queue past ⟨s, ⟨.call (.walk devices true), frames⟩⟩

section Rounds

variable {frames : List Frame} {queue : List Work} {past : List Moment} {now after : Moment}

theorem Spent.later (spent : Spent frames queue past) (m : Moment) :
    Spent frames queue (past ++ [m]) := by
  obtain ⟨slot, work, ⟨b, mem, binds⟩, e, mem', ends⟩ := spent
  exact ⟨slot, work, ⟨b, List.mem_append_left _ mem, binds⟩, e, List.mem_append_left _ mem', ends⟩

/-- A thread that hands a signal to the frames is not above them. -/
theorem Moment.not_above {s : State} (signal : Signal) :
    ¬ Moment.Above frames ⟨s, ⟨.signal signal, frames⟩⟩ := by
  rintro ⟨upper, shape, calls⟩
  obtain rfl : upper = [] := by simpa using shape.symm
  obtain ⟨call, same⟩ := calls rfl
  cases same

/-- A slot on its way back goes on its way, and no unit of work moves. -/
theorem Call.hands_step (s : State) {call : Call} (returns : (Control.call call).hands = true) :
    (call.step s).control.hands = true ∧ (call.step s).frames = []
      ∧ (call.step s).state.queue = s.queue := by
  cases call with
  | discard slot => exact ⟨rfl, rfl, (Call.sameWork_step s rfl).sameQueue⟩
  | markIdle slot => exact ⟨rfl, rfl, rfl⟩
  | pushIdle slot => exact ⟨rfl, rfl, rfl⟩
  | _ => cases returns

/-- A frame that is handed a signal by a slot that has returned either goes on with a call, or
hands the signal down. -/
theorem Round.returned {s : State} {signal : Signal} {frame : Frame} (call : Call)
    (leads : ∀ answer, signal = .returned answer → frame.resume s signal = .call s call)
    (hands : (∀ answer, signal ≠ .returned answer) →
      ∃ signal', frame.resume s signal = .signal s signal')
    (above : ((frame.resume s signal).onto frames).Above frames) :
    (frame.resume s signal).onto frames = ⟨s, ⟨.call call, frames⟩⟩ := by
  by_cases returns : ∃ answer, signal = .returned answer
  · obtain ⟨answer, same⟩ := returns
    rw [leads answer same]
    rfl
  · obtain ⟨signal', same⟩ := hands fun answer same => returns ⟨answer, same⟩
    rw [same] at above
    exact absurd above (Moment.not_above signal')

/-- A walk goes on to the next device, or with the slot that it has found. -/
theorem Round.walk_cons {s : State} {rest : List String} {handedBack : Bool}
    (same : s.queue = queue)
    (onward : Round frames queue past ⟨s, ⟨.call (.walk rest handedBack), frames⟩⟩)
    (device : String) :
    Round frames queue past ((Call.step s (.walk (device :: rest) handedBack)).onto frames) := by
  cases idle : s.idle device with
  | nil =>
      rw [Call.step_walk_of_empty idle]
      exact onward
  | cons index left =>
      rw [Call.step_walk_of_idle idle]
      exact .offers _ _ rest same

/-- The first unit runs on, or its slot is handed back because it has failed. -/
theorem Round.runs_step {slot : SlotId} {work : Work} (step : now.Step after)
    (above : after.Above frames)
    (took : ∃ b ∈ past, b.thread = ⟨.call (.bind slot work), frames⟩
      ∧ queue = work :: b.state.queue)
    (inside : now.Above (.bound slot :: frames)
      ∨ ∃ signal, now.thread = ⟨.signal signal, .bound slot :: frames⟩) :
    Round frames queue (past ++ [now]) after := by
  obtain ⟨b, mem, binds⟩ := took
  have took : ∃ b ∈ past ++ [now], b.thread = ⟨.call (.bind slot work), frames⟩
      ∧ queue = work :: b.state.queue := ⟨b, List.mem_append_left _ mem, binds⟩
  rcases inside with inside | ⟨signal, ends⟩
  · exact .runs after slot work took (inside.step step)
  · obtain ⟨s, thread⟩ := now
    obtain rfl : thread = _ := ends
    cases step
    have ends : Spent frames queue (past ++ [⟨s, ⟨.signal signal, .bound slot :: frames⟩⟩])
        ∨ signal.fails = false := by
      cases fails : signal.fails with
      | false => exact .inr rfl
      | true =>
          exact .inl ⟨slot, work, took, _, List.mem_append_right _ List.mem_cons_self, signal,
            rfl, fails⟩
    cases signal with
    | returned answer => exact absurd above (Moment.not_above _)
    | panicked message => exact .panics s _ message rfl
    | _ => exact .fails s _ rfl (ends.resolve_right (by simp [Signal.fails]))

/-- A step goes on with the round, or begins the next one after the first unit has failed. -/
theorem Moment.Step.round (step : now.Step after) (above : after.Above frames)
    (round : Round frames queue past now) :
    Round frames queue (past ++ [now]) after
      ∨ after.thread = ⟨.call .schedule, frames⟩ ∧ Spent frames queue (past ++ [now]) := by
  cases round with
  | walks s devices same =>
      left
      cases step
      cases devices with
      | nil =>
          refine absurd above ?_
          simp only [Call.step, Bool.false_and, Bool.false_eq_true, if_false]
          exact Moment.not_above _
      | cons device rest => exact Round.walk_cons same (.walks s rest same) device
  | passes s devices empty same =>
      left
      cases step
      cases devices with
      | nil =>
          rw [Move.onto, Call.step_walk_nil (same.trans empty)] at above
          exact absurd above (Moment.not_above _)
      | cons device rest => exact Round.walk_cons same (.passes s rest empty same) device
  | offers s slot devices same =>
      left
      cases step
      simp only [Call.step]
      split
      · next empty => exact .unused s _ devices rfl (same ▸ empty) same
      · next work rest shape => exact .binds _ slot work (same ▸ shape)
  | binds s slot work took =>
      left
      cases step
      exact .runs _ slot work ⟨_, List.mem_append_right _ List.mem_cons_self, rfl, took⟩
        (.inl (Moment.above_of_call _))
  | runs m slot work took inside => exact .inl (Round.runs_step step above took inside)
  | fails s control hands spent =>
      cases control with
      | call call =>
          left
          cases step
          obtain ⟨hands, added, -⟩ := Call.hands_step s hands
          simp only [Move.onto, added]
          exact .fails _ _ hands (spent.later _)
      | signal signal =>
          cases step
          refine .inr ⟨?_, spent.later _⟩
          rw [Round.returned .schedule ?_ ?_ above]
          · rintro answer rfl
            rfl
          · intro other
            cases signal with
            | returned answer => exact absurd rfl (other answer)
            | _ => exact ⟨_, rfl⟩
  | panics s control message hands =>
      left
      cases control with
      | call call =>
          cases step
          obtain ⟨hands, added, -⟩ := Call.hands_step s hands
          simp only [Move.onto, added]
          exact .panics _ _ message hands
      | signal signal =>
          cases step
          exact absurd above (by cases signal <;> exact Moment.not_above _)
  | unused s control devices hands empty same =>
      left
      cases control with
      | call call =>
          cases step
          obtain ⟨hands, added, sameQueue⟩ := Call.hands_step s hands
          simp only [Move.onto, added]
          exact .unused _ _ devices hands empty (sameQueue.trans same)
      | signal signal =>
          cases step
          rw [Round.returned (.walk devices true) ?_ ?_ above]
          · exact .passes s devices empty same
          · rintro answer rfl
            rfl
          · intro other
            cases signal with
            | returned answer => exact absurd rfl (other answer)
            | _ => exact ⟨_, rfl⟩

/-- A round is over when scheduling begins anew. -/
theorem Round.not_schedule (round : Round frames queue past now) :
    now.thread ≠ ⟨.call .schedule, frames⟩ := by
  intro again
  cases round with
  | runs m slot work took inside =>
      rcases inside with ⟨upper, shape, -⟩ | ⟨signal, ends⟩
      · have lengths := congrArg List.length shape
        simp only [again, List.length_append, List.length_cons] at lengths
        omega
      · rw [ends] at again
        cases again
  | fails | panics | unused =>
      have lengths := congrArg (fun thread : Thread => thread.frames.length) again
      simp at lengths
  | _ => cases again

/-- Scheduling begins anew above the frames only after the first unit that waited when it began
has failed. -/
theorem Run.round {first : Moment} (run : Run first past now)
    (begins : first.thread = ⟨.call .schedule, frames⟩)
    (inside : ∀ m ∈ past.tail, m.Above frames ∧ m.thread ≠ ⟨.call .schedule, frames⟩)
    (above : now.Above frames) (moved : past ≠ []) :
    Round frames first.state.queue past now
      ∨ now.thread = ⟨.call .schedule, frames⟩ ∧ Spent frames first.state.queue past := by
  induction run with
  | start => exact absurd rfl moved
  | @next past now after run step ih =>
      cases past with
      | nil =>
          obtain rfl := run.eq_of_nil
          obtain ⟨s, thread⟩ := now
          obtain rfl : thread = _ := begins
          cases step
          by_cases serving : s.serving = true
          · left
            simp only [Call.step, serving, if_true]
            exact .walks s _ rfl
          · simp only [Call.step, serving, Bool.false_eq_true, if_false] at above
            exact absurd above (Moment.not_above _)
      | cons m past =>
          have here := inside now (by simp)
          have earlier : ∀ other ∈ (m :: past).tail,
              other.Above frames ∧ other.thread ≠ ⟨.call .schedule, frames⟩ :=
            fun other mem => inside other (List.mem_append_left _ mem)
          rcases ih earlier here.1 (List.cons_ne_nil _ _) with round | ⟨again, -⟩
          · exact step.round above round
          · exact absurd again here.2

end Rounds

/-! ### The law -/

/-- What comes in is acted on to its end, and scheduling does not go on for nothing meanwhile. -/
structure Moment.RunsDown (first : Moment) (passed : List Moment) : Prop where
  /-- Every step lowers the weight of all scripts in the queue, on slots and on the stack. -/
  lighter : ∀ m ∈ passed, ∀ next, m.Step next →
    next.weight next.state.devices.length < m.weight m.state.devices.length
  short : passed.length ≤ first.weight first.state.devices.length
  /-- Scheduling begins anew only after the unit at the head of the queue was taken from it, was
  bound to a slot, and has failed. -/
  repeats : ∀ frames before m middle again after,
    passed = before ++ m :: (middle ++ again :: after) →
      m.thread = ⟨.call .schedule, frames⟩ → again.thread = ⟨.call .schedule, frames⟩ →
        (∀ other ∈ middle, other.Above frames ∧ other.thread ≠ ⟨.call .schedule, frames⟩) →
          Spent frames m.state.queue (m :: middle)
  /-- It does not begin anew because a slot was handed back while work waits. -/
  waits : ∀ m ∈ passed, m.thread.control = .call (.walk [] true) → m.state.queue = []
  /-- The units that are run were queued before or were accepted meanwhile. -/
  units : (ran passed).length ≤ first.state.queue.length + (accepted passed).length

/-- A step runs a unit of work that is in hand; one that comes into the hand leaves the queue, and
one that comes into the queue is accepted. -/
theorem Moment.Step.counts_units {m after : Moment} (step : m.Step after) :
    m.begins.length + after.inHand.length + after.state.queue.length
      ≤ m.inHand.length + m.state.queue.length + m.accepts.length := by
  rcases step.passes_or_ends with passes | ends
  · have lengths := congrArg List.length passes.units
    simp only [List.length_append] at lengths
    omega
  · obtain ⟨begins, -, -, inHand'⟩ := ends.idle
    simp [begins, inHand', ends.emptied]

/-- So a run begins no more units than are in hand, wait, or are accepted. -/
theorem Run.length_ran_le {first now : Moment} {past : List Moment} (run : Run first past now) :
    (ran past).length + now.inHand.length + now.state.queue.length
      ≤ first.inHand.length + first.state.queue.length + (accepted past).length := by
  induction run with
  | start => simp [ran, accepted]
  | next run step ih =>
      have counts := step.counts_units
      simp only [ran_append, accepted_append, ran_singleton, accepted_singleton,
        List.length_append]
      omega

/-- Scheduling always comes to an end. Whatever comes in between operations of a run, whatever
scripts do, fail or panic, it is acted on to its end; the steps are bounded by what the scripts
weigh, scheduling begins anew only with one unit less in the queue, and no more units are run
than were queued before or are accepted meanwhile. -/
theorem scheduling_comes_to_an_end {backends : List Backend} {priorities : List Preference}
    {s : State} {past : List Moment} {now : Moment}
    (built : (construct backends priorities).result = .ok s) (run : Run (.initial s) past now)
    (atRest : now.AtRest) (arrival : Arrival) :
    ∃ passed signal last, now.Step (now.state.begins arrival)
      ∧ (now.state.begins arrival).Extent [] passed signal last
      ∧ now.state.arrive arrival = (last.state, some signal)
      ∧ (now.state.begins arrival).RunsDown passed := by
  obtain ⟨t, thread⟩ := now
  obtain ⟨handed, rfl⟩ : ∃ handed, thread = ⟨.signal handed, []⟩ := atRest
  have begins := t.step_begins handed arrival
  have sturdy := (run.steady built).begins arrival
  obtain ⟨passed, signal, last, extent, short⟩ := sturdy.extent (t.above_begins arrival)
  have sturdy' {m : Moment} (mem : m ∈ passed) : m.Sturdy := by
    obtain ⟨before, later, rfl⟩ := List.append_of_mem mem
    exact sturdy.run extent.run.split.1
  refine ⟨passed, signal, last, begins, extent,
    (sturdy.finish_eq (t.above_begins arrival) extent).1, ?_, short, ?_, ?_, ?_⟩
  · intro m mem next step
    have steady := (sturdy' mem).steady
    have above := extent.above m mem
    obtain ⟨after, step', lighter⟩ :=
      above.busy.goes_on steady.listed steady.distinct (sturdy' mem).searching
    have same := (above.step_eq step).symm.trans (above.step_eq step')
    obtain ⟨state, thread⟩ : next.state = after.state ∧ next.thread = after.thread := by
      simpa using same
    rwa [Moment.weight, state, thread]
  · rintro frames before m middle again after rfl starts' again' inside
    have onward := extent.run.split.2
    rw [← List.cons_append] at onward
    refine ((onward.split.1.round starts' inside ?_ (List.cons_ne_nil _ _)).resolve_left ?_).2
    · obtain ⟨u, thread⟩ := again
      obtain rfl : thread = _ := again'
      exact Moment.above_of_call frames
    · exact fun round => round.not_schedule again'
  · intro m mem walks
    have seeks := (sturdy' mem).searching.seeks
    simpa only [Moment.Seeks, walks] using seeks
  · have units := extent.run.length_ran_le
    rw [t.inHand_begins, List.length_nil, Nat.zero_add] at units
    exact (Nat.le_add_right _ _).trans ((Nat.le_add_right _ _).trans units)

/-- One slot and three units of work, of which the second fails: as the slot completes, it is handed
back, bound to the second, handed back again, and bound to the third. -/
theorem scheduling_comes_to_an_end_single :
    let (_, now) := (Moment.initial (.single ⟨.manual, .ok, none⟩)).operations 60
      [.submit "u" [.start], .submit "v" [.fail (.ofMessage "v")], .submit "w" [.start]]
    ∃ passed signal last,
      (now.state.begins (.completion ⟨"A", 0⟩ .ok)).Extent [] passed signal last
        ∧ now.state.arrive (.completion ⟨"A", 0⟩ .ok) = (last.state, some signal)
        ∧ last.state.queue = [] ∧ (ran passed).length ≤ 2 + (accepted passed).length := by
  have run := Run.operations 60 (.initial (.single ⟨.manual, .ok, none⟩))
    [.submit "u" [.start], .submit "v" [.fail (.ofMessage "v")], .submit "w" [.start]]
  generalize played : Moment.operations 60 _ _ = outcome at run
  have atRest : outcome.2.AtRest := by
    subst played
    exact ⟨_, rfl⟩
  obtain ⟨passed, signal, last, -, extent, ends, down⟩ := scheduling_comes_to_an_end
    (State.construct_single _) run atRest (.completion ⟨"A", 0⟩ .ok)
  have queue : last.state.queue = [] := by
    have left : _ = last.state := congrArg Prod.fst ends
    rw [← left]
    subst played
    rfl
  have waiting : (outcome.2.state.begins (.completion ⟨"A", 0⟩ .ok)).state.queue.length = 2 := by
    subst played
    rfl
  have units := down.units
  rw [waiting] at units
  exact ⟨passed, signal, last, extent, ends, queue, units⟩

end SlotDispatch
