import SlotDispatch.Proofs.Liveness
import SlotDispatch.Proofs.Surplus

/-!
The end of the service. A shutdown, or the drop of the dispatcher, empties priority list and
queue and leaves the text that is stored for the list; from then on the dispatcher is closed
at every moment, and no unit of work begins to run (`Run.closed`, `Run.closed_by_shutdown`).
-/

namespace SlotDispatch

/-! ### The text stored for the priority list -/

section Text

variable {s : State}

theorem State.configText_dropContinuation (s : State) (continuation : Option Continuation) :
    (s.dropContinuation continuation).configText = s.configText := by
  obtain ⟨requests, eq⟩ := s.dropContinuation_eq continuation
  rw [eq]

theorem State.configText_shutdown (s : State) : s.shutdown.configText = s.configText := by
  obtain ⟨_, _, _, _, eq⟩ := s.shutdown_leaves
  rw [eq]

theorem State.Acts.configText {scope : Option Scope} {action : Action} {move : Move}
    (acts : s.Acts scope action move) (none : s.reconfigured? action = none) :
    move.state.configText = s.configText := by
  cases acts with
  | continued scope' id script => exact State.configText_dropContinuation _ _
  | reordered entries text _ installs => simp [installs] at none
  | shutDown => exact s.configText_shutdown
  | _ => rfl

theorem Call.configText_step (s : State) {call : Call}
    (none : ∀ scope action, call = .act scope action → s.reconfigured? action = none) :
    (call.step s).state.configText = s.configText := by
  have changes := call.changes s
  generalize (call.step s).state = t at changes ⊢
  cases changes with
  | acted scope action => exact (s.acts scope action).configText (none scope action rfl)
  | discarded slot => exact State.configText_dropContinuation _ _
  | _ => rfl

theorem Frame.configText_resume (s : State) (frame : Frame) (signal : Signal) :
    (frame.resume s signal).state.configText = s.configText := by
  have changes := frame.changes s signal
  generalize (frame.resume s signal).state = t at changes ⊢
  cases changes with
  | registered => exact State.configText_dropContinuation _ _
  | detached => exact State.configText_dropContinuation _ _
  | _ => rfl

theorem State.configText_drop (s : State) : s.drop.1.configText = s.configText := by
  have detached (t : State) : t.detachUnpinned.configText = t.configText := by
    refine @detachUnpinned_induction (fun u => u.configText = t.configText) t rfl ?_
    intro u slot same
    exact (State.configText_dropContinuation _ _).trans same
  simp only [drop]
  split
  · rfl
  · rw [detached]
    exact configText_shutdown _

/-- The text changes only when a list is installed. -/
theorem Moment.Step.keeps_text {m after : Moment} (step : m.Step after)
    (none : m.installs = none) : after.state.configText = m.state.configText := by
  cases step with
  | call s call frames =>
      refine Call.configText_step s ?_
      rintro scope action rfl
      exact none
  | resume s signal frame frames => exact frame.configText_resume s signal
  | begin s signal action => rfl
  | deliver signal earlier later due => rfl
  | drop s signal => exact s.configText_drop

end Text

/-! ### The end of the service -/

/-- The service is over: nothing is listed and nothing waits, and the text stored for the
priority list is the given one. -/
structure State.Closed (text : String) (s : State) : Prop where
  terminated : s.serving = false
  unlisted : s.priorities = []
  emptied : s.queue = []
  sameText : s.configText = text

/-- Who serves no more never serves again. -/
theorem Run.terminated {first now : Moment} {passed : List Moment} (run : Run first passed now)
    (ended : first.state.serving = false) : now.state.serving = false := by
  induction run with
  | start => exact ended
  | next run step ih =>
      rw [Bool.eq_false_iff]
      intro serving
      have before := step.serving_before serving
      rw [ih] at before
      cases before

/-- Nothing is installed once the service is over. -/
theorem Moment.installs_of_terminated {m : Moment} (terminated : m.state.serving = false) :
    m.installs = none := by
  simp only [installs]
  split
  · next scope action asks =>
      cases set : m.state.reconfigured? action with
      | none => rfl
      | some t =>
          have serving := (State.of_reconfigured? set).1
          rw [terminated] at serving
          cases serving
  · rfl

/-- The service stays over, and no unit of work is accepted or begins to run. -/
theorem Moment.Step.closed {m after : Moment} {text : String} (step : m.Step after)
    (closed : m.state.Closed text) (idle : m.inHand = []) :
    after.state.Closed text ∧ after.inHand = [] ∧ m.accepts = [] ∧ m.begins = [] := by
  obtain ⟨terminated, emptied, still, accepts, begins⟩ :=
    step.ended closed.terminated closed.emptied idle
  have none := installs_of_terminated closed.terminated
  refine ⟨⟨terminated, ?_, emptied, ?_⟩, still, accepts, begins⟩
  · rcases step.priorities_cases none with same | ⟨empty, -⟩
    · exact same.trans closed.unlisted
    · exact empty
  · exact (step.keeps_text none).trans closed.sameText

/-- So it stays in a whole run. -/
theorem Run.closed {first now : Moment} {passed : List Moment} {text : String}
    (run : Run first passed now) (closed : first.state.Closed text) (idle : first.inHand = []) :
    now.state.Closed text ∧ now.inHand = [] ∧ accepted passed = [] ∧ ran passed = [] := by
  induction run with
  | start => exact ⟨closed, idle, rfl, rfl⟩
  | next run step ih =>
      obtain ⟨closed, idle, noneAccepted, noneRan⟩ := ih
      obtain ⟨closed, idle, accepts, begins⟩ := step.closed closed idle
      refine ⟨closed, idle, ?_, ?_⟩
      · rw [accepted_append, noneAccepted, accepted_singleton, accepts]
        rfl
      · rw [ran_append, noneRan, ran_singleton, begins]
        rfl

theorem State.priorities_shutdown {s : State} (serving : s.serving = true) :
    s.shutdown.priorities = [] := by
  rcases s.shutdown_eq with ⟨ended, -⟩ | ⟨-, requests, eq⟩
  · rw [ended] at serving
    cases serving
  · rw [eq]

theorem State.priorities_drop {s : State} (serving : s.serving = true) :
    s.drop.1.priorities = [] := by
  simp only [drop]
  split
  · next dropped =>
      have dropped : s.phase = .dropped := dropped
      simp [State.serving, dropped] at serving
  · rw [(undisturbed_detachUnpinned _).samePriorities]
    exact priorities_shutdown
      (s := { s with pending := s.pending.filter fun entry => !entry.2.awaited })
      serving

/-- What a shutdown leaves, while the dispatcher is there. -/
theorem State.act_shutdown {s : State} (there : s.phase ≠ .dropped) (scope : Option Scope) :
    s.act scope .shutdown = .done s.shutdown := by
  simp [act, Move.onDispatcher, there]

/-- Who serves no more has an empty list. -/
theorem Moment.Step.unlisted {m after : Moment} (step : m.Step after)
    (before : m.state.serving = false → m.state.priorities = [])
    (terminated : after.state.serving = false) : after.state.priorities = [] := by
  rcases step.passes_or_ends with passes | ends
  · rw [passes.serving] at terminated
    rcases step.priorities_cases (installs_of_terminated terminated) with same | ⟨empty, -⟩
    · exact same.trans (before terminated)
    · exact empty
  · have serving := ends.before
    cases step with
    | call s call frames =>
        rcases ends.cause with ⟨scope, below, same⟩ | ⟨signal, same⟩
        · obtain rfl : call = .act scope .shutdown := by simpa using congrArg Thread.control same
          simp only [Call.step, State.act_shutdown (State.phase_of_serving serving)]
          exact State.priorities_shutdown serving
        · cases congrArg Thread.control same
    | resume s signal frame frames =>
        rcases ends.cause with ⟨scope, below, same⟩ | ⟨signal, same⟩
        · cases congrArg Thread.control same
        · cases congrArg Thread.frames same
    | begin s signal action =>
        rw [show s.serving = true from serving] at terminated
        cases terminated
    | deliver signal earlier later due =>
        have serves : _ = true := serving
        have ended : _ = false := terminated
        cases serves.symm.trans ended
    | drop s signal => exact State.priorities_drop serving

section Runs

variable {backends : List Backend} {priorities : List Preference} {s : State}
  {past : List Moment} {now : Moment}

/-- At every moment of a run the service is either going on or over for good. -/
theorem Run.closed_of_terminated (built : (construct backends priorities).result = .ok s)
    (run : Run (.initial s) past now) (terminated : now.state.serving = false) :
    now.state.Closed now.state.configText ∧ now.inHand = [] := by
  obtain ⟨emptied, idle⟩ := run.emptied built terminated
  have unlisted : now.state.serving = false → now.state.priorities = [] := by
    obtain ⟨configured, -, rfl⟩ := construct_ok built
    clear terminated emptied idle
    induction run with
    | start => exact nofun
    | next run step ih => exact step.unlisted ih
  exact ⟨⟨terminated, unlisted terminated, emptied, rfl⟩, idle⟩

/-- A shutdown closes the dispatcher, or finds it closed. -/
theorem Run.closed_by_shutdown {m after : Moment} {scope : Option Scope}
    (built : (construct backends priorities).result = .ok s) (run : Run (.initial s) past m)
    (asks : m.thread.control = .call (.act scope .shutdown)) (step : m.Step after) :
    after.state.Closed m.state.configText ∧ after.inHand = [] ∧ m.accepts = [] ∧ m.begins = [] := by
  cases serving : m.state.serving with
  | false =>
      obtain ⟨closed, idle⟩ := run.closed_of_terminated built serving
      exact step.closed closed idle
  | true =>
      have reached := (run.next step).closed_of_terminated built
      have accepts : m.accepts = [] := by
        simp [Moment.accepts, asks, State.acceptedUnit?, Action.unit?]
      have begins : m.begins = [] := by simp [Moment.begins, asks]
      obtain ⟨t, ⟨control, frames⟩⟩ := m
      obtain rfl : control = .call (.act scope .shutdown) := asks
      cases step with
      | call _ _ _ =>
          have shuts := State.act_shutdown (State.phase_of_serving serving) scope
          have same : (Call.step t (.act scope .shutdown)).state = t.shutdown := by
            simp only [Call.step, shuts]
            rfl
          obtain ⟨closed, idle⟩ := reached (by
            change (Call.step t (.act scope .shutdown)).state.serving = false
            rw [same, t.serving_shutdown])
          refine ⟨⟨closed.terminated, closed.unlisted, closed.emptied, ?_⟩, idle, accepts, begins⟩
          change (Call.step t (.act scope .shutdown)).state.configText = t.configText
          rw [same, t.configText_shutdown]

end Runs

end SlotDispatch
