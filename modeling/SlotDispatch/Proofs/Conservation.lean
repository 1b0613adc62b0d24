import SlotDispatch.Proofs.Built
import SlotDispatch.Proofs.Flow
import SlotDispatch.Proofs.Run
import SlotDispatch.Proofs.Steps

/-!
No unit of work is lost, run twice, retried or overtaken. A run accepts units of work and
begins to run them; both are read off the moments it leaves behind (`accepted`, `ran`).
As long as the dispatcher serves, the units accepted so far are those that have begun to
run, then the one on its way from the queue to its slot, then the queue. The end of service
destroys the queue of that moment, and neither list grows any more. A single step passes
units on or ends the service (`Moment.Step.passes_or_ends`); `Run.conserves` is what follows
for a run.
-/

namespace SlotDispatch

/-- The unit of work on its way from the queue to its slot. -/
def Control.inHand : Control → List Work
  | .call (.bind _ work) | .call (.perform _ work) => [work]
  | _ => []

theorem Control.inHand_eq_nil {control : Control}
    (elsewhere : ∀ slot work, control ≠ .call (.bind slot work)
      ∧ control ≠ .call (.perform slot work)) : control.inHand = [] := by
  unfold inHand
  split
  · next slot work => exact absurd rfl (elsewhere slot work).1
  · next slot work => exact absurd rfl (elsewhere slot work).2
  · rfl

namespace Moment

/-- The unit of work that the next step accepts, if it accepts one. -/
def accepts (m : Moment) : List Work :=
  match m.thread.control with
  | .call (.act _ action) => (m.state.acceptedUnit? action).toList
  | _ => []

/-- The unit of work that begins to run with the next step, if one does. -/
def begins (m : Moment) : List Work :=
  match m.thread.control with
  | .call (.perform _ work) => [work]
  | _ => []

/-- The unit of work on its way from the queue to its slot. -/
def inHand (m : Moment) : List Work := m.thread.control.inHand

/-- The next step may end the service: the thread is about to shut the dispatcher down, or
no operation is under way and the dispatcher may be dropped. -/
def MayEnd (m : Moment) : Prop :=
  (∃ scope frames, m.thread = ⟨.call (.act scope .shutdown), frames⟩) ∨ m.AtRest

end Moment

/-- The units of work accepted in a run, in the order of acceptance. -/
def accepted (past : List Moment) : List Work := past.flatMap Moment.accepts

/-- The units of work that a run began to run, in that order. -/
def ran (past : List Moment) : List Work := past.flatMap Moment.begins

/-! ### What a step does to the queue -/

/-- A step in which units of work only move on: from acceptance to the end of the queue,
from its head into the hand, and from there into a run. -/
structure Moment.Passes (m after : Moment) : Prop where
  serving : after.state.serving = m.state.serving
  units : m.begins ++ after.inHand ++ after.state.queue = m.inHand ++ m.state.queue ++ m.accepts

/-- A step that ends the service and empties the queue. -/
structure Moment.Ends (m after : Moment) : Prop where
  before : m.state.serving = true
  closed : after.state.serving = false
  cause : m.MayEnd
  emptied : after.state.queue = []
  idle : m.begins = [] ∧ m.accepts = [] ∧ m.inHand = [] ∧ after.inHand = []

/-- No signal that is handed back lays hands on a unit of work. -/
theorem Frame.Flows.inHand {frame : Frame} {move : Move} (flows : frame.Flows move) :
    move.control.inHand = [] := by
  cases flows <;> rfl

/-- Only an offer and a binding hand a unit of work on. -/
theorem Call.Flows.inHand {call : Call} {move : Move} (flows : call.Flows move)
    (offers : ∀ slot devices, call ≠ .offer slot devices)
    (binds : ∀ slot work, call ≠ .bind slot work) : move.control.inHand = [] := by
  cases flows with
  | used slot devices work t => exact absurd rfl (offers slot devices)
  | bind slot work t => exact absurd rfl (binds slot work)
  | _ => rfl

namespace Moment

/-- A step that leaves the work alone and hands no unit on. -/
theorem Passes.of_sameWork {m after : Moment} (same : m.state.SameWork after.state)
    (begins : m.begins = []) (accepts : m.accepts = []) (inHand : m.inHand = [])
    (inHand' : after.inHand = []) : m.Passes after :=
  ⟨same.serving, by simp [begins, accepts, inHand, inHand', same.sameQueue]⟩

/-- An action accepts the unit of work it submits, or shuts down. -/
theorem passes_or_ends_of_acts {s : State} {scope : Option Scope} {action : Action} {move : Move}
    {frames : List Frame} (acts : s.Acts scope action move) :
    Passes ⟨s, ⟨.call (.act scope action), frames⟩⟩ (move.onto frames)
      ∨ Ends ⟨s, ⟨.call (.act scope action), frames⟩⟩ (move.onto frames) := by
  cases acts with
  | submitted id script serving same =>
      subst same
      refine .inl ⟨rfl, ?_⟩
      simp [begins, inHand, accepts, Control.inHand, Move.onto, Move.await, State.acceptedUnit?,
        Action.unit?, serving]
  | requested id job cancelled handles frame serving unit waits =>
      refine .inl ⟨rfl, ?_⟩
      simp [begins, inHand, accepts, Control.inHand, Move.onto, Move.await, State.acceptedUnit?,
        unit, serving]
  | refused cancelled handles answer ended =>
      have none : s.acceptedUnit? action = none := by simp [State.acceptedUnit?, ended]
      exact .inl (.of_sameWork ⟨rfl, rfl, rfl⟩ rfl (by simp [accepts, none]) rfl rfl)
  | continued scope' id script at' none =>
      exact .inl (.of_sameWork (State.undisturbed_setContinuation _ _ _).toSameWork rfl
        (by simp [accepts, none]) rfl rfl)
  | reordered entries text none =>
      refine .inl ⟨rfl, ?_⟩
      simp [begins, inHand, accepts, Control.inHand, Move.onto, Move.await, none]
  | shutDown same =>
      subst same
      have none : s.acceptedUnit? .shutdown = none := by simp [State.acceptedUnit?, Action.unit?]
      rcases s.shutdown_eq with ⟨ended, eq⟩ | ⟨serving, requests, eq⟩
      · refine .inl (.of_sameWork ?_ rfl (by simp [accepts, none]) rfl rfl)
        simp only [Move.onto, Move.done, Move.answer, Move.signal, eq]
        exact ⟨rfl, rfl, rfl⟩
      · refine .inr ⟨serving, s.serving_shutdown, .inl ⟨_, _, rfl⟩, ?_, rfl,
          by simp [accepts, none], rfl, rfl⟩
        simp [Move.onto, Move.done, Move.answer, Move.signal, eq]
  | answered _ _ _ none | cancelled _ _ none | started _ _ none | tried _ _ none
  | failed _ none | panicked _ none | completed _ _ none | finished _ _ none =>
      exact .inl (.of_sameWork ⟨rfl, rfl, rfl⟩ rfl (by simp [accepts, none]) rfl rfl)

/-- Every step passes units of work on, or ends the service. -/
theorem Step.passes_or_ends {m after : Moment} (step : m.Step after) :
    m.Passes after ∨ m.Ends after := by
  cases step with
  | call s call frames =>
      cases call with
      | act scope action => exact passes_or_ends_of_acts (s.acts scope action)
      | offer slot devices =>
          refine .inl ?_
          simp only [Call.step]
          split
          · exact .of_sameWork ⟨rfl, rfl, rfl⟩ rfl rfl rfl rfl
          · next work rest shape =>
              refine ⟨rfl, ?_⟩
              simp [begins, inHand, accepts, Control.inHand, Move.onto, Move.call, shape]
      | bind slot work =>
          refine .inl ⟨rfl, ?_⟩
          simp [begins, inHand, accepts, Control.inHand, Move.onto, Move.await, Call.step,
            State.modifySlot]
      | perform slot work =>
          have same := (Call.undisturbed_perform s slot work).toSameWork
          have empty : (Call.step s (.perform slot work)).control.inHand = [] :=
            (Call.flows s _).inHand (by simp) (by simp)
          refine .inl ⟨same.serving, ?_⟩
          change [work] ++ (s.perform slot work).control.inHand ++ (s.perform slot work).state.queue
            = [work] ++ s.queue ++ []
          rw [show (s.perform slot work).control.inHand = [] from empty, same.sameQueue]
          simp
      | _ =>
          exact .inl (.of_sameWork (Call.sameWork_step s rfl) rfl rfl rfl
            ((Call.flows s _).inHand (by simp) (by simp)))
  | resume s signal frame frames =>
      exact .inl (.of_sameWork (Frame.undisturbed_resume s frame signal).toSameWork rfl rfl rfl
        (frame.flows s signal).inHand)
  | begin s signal action => exact .inl (.of_sameWork ⟨rfl, rfl, rfl⟩ rfl rfl rfl rfl)
  | deliver signal earlier later due =>
      exact .inl (.of_sameWork ⟨rfl, rfl, rfl⟩ rfl rfl rfl rfl)
  | drop s signal =>
      have closed : s.drop.1.serving = false := by simp [State.serving, s.phase_drop]
      cases serving : s.serving with
      | true =>
          exact .inr ⟨serving, closed, .inr ⟨signal, rfl⟩, by simp [s.queue_drop, serving],
            rfl, rfl, rfl, rfl⟩
      | false =>
          refine .inl ⟨closed.trans serving.symm, ?_⟩
          simp [begins, inHand, accepts, Control.inHand, s.queue_drop, serving]

end Moment

/-! ### What a run does to the queue -/

section Run

variable {first now : Moment} {past : List Moment}

@[simp] theorem accepted_append (past later : List Moment) :
    accepted (past ++ later) = accepted past ++ accepted later := List.flatMap_append

@[simp] theorem ran_append (past later : List Moment) :
    ran (past ++ later) = ran past ++ ran later := List.flatMap_append

@[simp] theorem accepted_singleton (m : Moment) : accepted [m] = m.accepts := by simp [accepted]

@[simp] theorem ran_singleton (m : Moment) : ran [m] = m.begins := by simp [ran]

/-- Once the service is over, with no unit of work left, it stays so, and no unit is
accepted or run. -/
theorem Moment.Step.ended {m after : Moment} (step : m.Step after)
    (closed : m.state.serving = false) (emptied : m.state.queue = []) (idle : m.inHand = []) :
    after.state.serving = false ∧ after.state.queue = [] ∧ after.inHand = []
      ∧ m.accepts = [] ∧ m.begins = [] := by
  have accepts : m.accepts = [] := by
    simp only [Moment.accepts]
    split
    · simp [State.acceptedUnit?, closed]
    · rfl
  rcases step.passes_or_ends with passes | ends
  · have units := passes.units
    simp only [idle, emptied, accepts, List.append_nil, List.append_eq_nil_iff] at units
    exact ⟨passes.serving.trans closed, units.2, units.1.2, accepts, units.1.1⟩
  · exact absurd ends.before (by simp [closed])

/-- What a run has come to: while the dispatcher serves, every unit of work accepted has run,
is in hand or waits; afterwards, one moment ended the service, and nothing has moved since. -/
theorem Run.conserves (run : Run first past now) (serving : first.state.serving = true)
    (queue : first.state.queue = []) (idle : first.inHand = []) :
    (now.state.serving = true ∧ accepted past = ran past ++ now.inHand ++ now.state.queue)
      ∨ (now.state.serving = false ∧ now.state.queue = [] ∧ now.inHand = []
        ∧ ∃ before last after, past = before ++ last :: after ∧ last.MayEnd
          ∧ last.state.serving = true ∧ (∀ m ∈ after, m.state.serving = false)
          ∧ accepted past = accepted before ∧ ran past = ran before
          ∧ accepted before = ran before ++ last.state.queue) := by
  induction run with
  | start => exact .inl ⟨serving, by simp [accepted, ran, queue, idle]⟩
  | @next past now after run step ih =>
      rcases ih with ⟨open', units⟩ | ⟨closed, emptied, still, before, last, later, split, ending⟩
      · rcases step.passes_or_ends with passes | ends
        · refine .inl ⟨passes.serving.trans open', ?_⟩
          rw [accepted_append, ran_append, accepted_singleton, ran_singleton, units,
            List.append_assoc (ran past), List.append_assoc (ran past), ← passes.units]
          simp only [List.append_assoc]
        · obtain ⟨begins, accepts, inHand, inHand'⟩ := ends.idle
          refine .inr ⟨ends.closed, ends.emptied, inHand', past, now, [], rfl, ends.cause, open',
            by simp, ?_, ?_, ?_⟩
          · simp [accepts]
          · simp [begins]
          · simpa [inHand] using units
      · obtain ⟨closed', emptied', still', accepts, begins⟩ := step.ended closed emptied still
        obtain ⟨cause, open', ended, sameAccepted, sameRan, units⟩ := ending
        refine .inr ⟨closed', emptied', still', before, last, later ++ [now],
          by simp [split], cause, open', ?_, ?_, ?_, units⟩
        · intro m mem
          rcases List.mem_append.mp mem with mem | mem
          · exact ended m mem
          · rw [List.mem_singleton.mp mem]
            exact closed
        · simpa [accepts] using sameAccepted
        · simpa [begins] using sameRan

variable {backends : List Backend} {priorities : List Preference} {s : State}

/-- While a dispatcher that was built serves, every unit of work accepted has begun to run,
is in hand or waits. -/
theorem Run.accepted_eq (built : (construct backends priorities).result = .ok s)
    (run : Run (.initial s) past now) (serving : now.state.serving = true) :
    accepted past = ran past ++ now.inHand ++ now.state.queue := by
  obtain ⟨configured, -, rfl⟩ := construct_ok built
  rcases run.conserves rfl rfl rfl with ⟨-, units⟩ | ⟨closed, -⟩
  · exact units
  · simp [closed] at serving

/-- Once it serves no more none waits, and none is in hand. -/
theorem Run.emptied (built : (construct backends priorities).result = .ok s)
    (run : Run (.initial s) past now) (ended : now.state.serving = false) :
    now.state.queue = [] ∧ now.inHand = [] := by
  obtain ⟨configured, -, rfl⟩ := construct_ok built
  rcases run.conserves rfl rfl rfl with ⟨serving, -⟩ | ⟨-, emptied, idle, -⟩
  · simp [serving] at ended
  · exact ⟨emptied, idle⟩

/-- A unit of work that is in hand or waits was accepted. -/
theorem Run.accepted_of_mem {work : Work}
    (built : (construct backends priorities).result = .ok s) (run : Run (.initial s) past now)
    (mem : work ∈ now.inHand ++ now.state.queue) : work ∈ accepted past := by
  cases serving : now.state.serving with
  | true =>
      rw [run.accepted_eq built serving, List.append_assoc]
      exact List.mem_append_right _ mem
  | false =>
      obtain ⟨emptied, idle⟩ := run.emptied built serving
      simp [emptied, idle] at mem

end Run

/-! ### The law -/

/-- Units of work are conserved in every run of a dispatcher that was built. While it serves,
the units accepted are those that have begun to run followed by the queue, except that in
the two steps that bind a unit to its slot this unit stands between them. If it serves no
more, one moment ended the service: the units accepted until then are those that had begun
to run followed by the queue of that moment, and since then no unit was accepted, none has
begun to run and none waits. -/
theorem units_are_conserved {backends : List Backend} {priorities : List Preference} {s : State}
    {past : List Moment} {now : Moment}
    (built : (construct backends priorities).result = .ok s) (run : Run (.initial s) past now) :
    (now.state.serving = true →
      accepted past = ran past ++ now.inHand ++ now.state.queue
        ∧ ((∀ slot work, now.thread.control ≠ .call (.bind slot work)
            ∧ now.thread.control ≠ .call (.perform slot work)) →
          accepted past = ran past ++ now.state.queue))
      ∧ (now.state.serving = false →
        now.state.queue = [] ∧ now.inHand = []
          ∧ ∃ before last after, past = before ++ last :: after ∧ last.MayEnd
            ∧ last.state.serving = true ∧ (∀ m ∈ after, m.state.serving = false)
            ∧ accepted past = accepted before ∧ ran past = ran before
            ∧ accepted before = ran before ++ last.state.queue) := by
  obtain ⟨configured, -, rfl⟩ := construct_ok built
  rcases run.conserves rfl rfl rfl with ⟨serving, units⟩ | ⟨closed, emptied, still, ending⟩
  · refine ⟨fun _ => ⟨units, fun elsewhere => ?_⟩, fun closed => ?_⟩
    · have still : now.inHand = [] := Control.inHand_eq_nil elsewhere
      simpa [still] using units
    · simp [serving] at closed
  · refine ⟨fun serving => ?_, fun _ => ⟨emptied, still, ending⟩⟩
    simp [serving] at closed

/-- One slot, and a unit of work that submits another before it starts the slot. -/
theorem units_are_conserved_single :
    let manual : Conduct := ⟨.manual, .ok, none⟩
    let script : Script := [.submit "v" [], .start]
    let start := Moment.initial (.single manual)
    let thread := Thread.ofCall (.act none (.submit "u" script))
    let past := start :: thread.passed 40 (.single manual)
    let last := (thread.run 40 (.single manual)).1
    ran past = [.scripted "u" script] ∧ last.queue = [.scripted "v" []]
      ∧ accepted past = ran past ++ last.queue :=
  ⟨rfl, rfl,
    ((units_are_conserved (State.construct_single ⟨.manual, .ok, none⟩)
      (Run.operation 40 _ _ (.submit "u" [.submit "v" [], .start]))).1 rfl).1⟩

end SlotDispatch
