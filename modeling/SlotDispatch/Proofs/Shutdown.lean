import SlotDispatch.Proofs.Delivery

/-!
Shutdown is final. From the moment at which the dispatcher is shut down, at whatever depth,
nothing is listed, nothing waits and no unit of work begins to run (`Moment.Step.closed`), no
matter how many scheduling attempts were under way. Work that is submitted later is destroyed
at once. Completions still come in: each stores its status and runs the continuation of its
slot once, and no slot returns to its pool unless a panic hands it back (`Halted`).
-/

namespace SlotDispatch

/-! ### Submissions -/

/-- The answer to an action that submits a unit of work, once the unit is accepted. -/
def Action.acceptance? : Action → Option Answer
  | .submit _ _ => some .accepted
  | .request _ _ _ _ _ => some .started
  | _ => none

/-- What a submission leaves that is refused: of a request, its number under the name of its
handle, and that it was abandoned. -/
def State.turnedAway (s : State) : Action → State
  | .request id _ cancelled _ _ =>
      { s with
        requests := s.requests ++ [⟨cancelled, [], some (.error .abandoned)⟩]
        handles := assign id s.requests.length s.handles }
  | _ => s

section Submissions

variable {s t : State} {scope : Option Scope} {action : Action} {answer : Answer}

/-- A request whose unit of work is destroyed at once is abandoned. -/
theorem abandoned_of_release (requests : List Request) (cancelled : Bool) :
    (requests ++ [Request.new cancelled]).modify requests.length (Request.release .unit)
      = requests ++ [⟨cancelled, [], some (.error .abandoned)⟩] := by
  induction requests with
  | nil => rfl
  | cons request rest ih => simpa using ih

/-- After the end a submission is refused, and its unit of work is destroyed. -/
theorem State.act_terminated (there : s.phase ≠ .dropped) (terminated : s.serving = false)
    (submits : action.acceptance? = some answer) :
    s.act scope action = .answer (s.turnedAway action) (.rejected .terminated) := by
  cases action with
  | submit id script =>
      simp [act, Move.onDispatcher, there, accept, terminated, dropWork, turnedAway]
  | request id value cancelled prepare complete =>
      have ended : { s with
          requests := s.requests ++ [Request.new cancelled]
          handles := assign id s.requests.length s.handles }.serving = false := terminated
      simp only [act, Move.onDispatcher, there, if_false, startRequest, addRequest, accept, ended,
        Bool.false_eq_true, dropWork, release, modifyRequest, abandoned_of_release, turnedAway]
  | _ => cases submits

/-- Until then it triggers scheduling, and its answer is given when that has returned. -/
theorem State.act_serving (scope : Option Scope) (serving : s.serving = true)
    (submits : action.acceptance? = some answer) :
    ∃ u frame, s.act scope action = .await u .schedule frame
      ∧ (∀ t result, ∃ kept, frame.resume t (.returned result) = .answer kept answer)
      ∧ ∀ t message, frame.resume t (.panicked message) = .signal t (.panicked message) := by
  have there := phase_of_serving serving
  cases action with
  | submit id script =>
      obtain rfl : Answer.accepted = answer := by simpa [Action.acceptance?] using submits
      refine ⟨{ s with queue := s.queue ++ [.scripted id script] }, .answer .accepted, ?_,
        fun t result => ⟨t, rfl⟩, fun t message => rfl⟩
      simp only [act, Move.onDispatcher, there, if_false, accept, serving, if_true]
  | request id value cancelled prepare complete =>
      obtain rfl : Answer.started = answer := by simpa [Action.acceptance?] using submits
      have serves : { s with
          requests := s.requests ++ [Request.new cancelled]
          handles := assign id s.requests.length s.handles }.serving = true := serving
      refine ⟨{ s with
        requests := s.requests ++ [Request.new cancelled]
        handles := assign id s.requests.length s.handles
        queue := s.queue ++ [.request id s.requests.length ⟨value, prepare, complete⟩] },
        .keep id s.requests.length, ?_, fun t result => ⟨_, rfl⟩, fun t message => rfl⟩
      simp only [act, Move.onDispatcher, there, if_false, startRequest, addRequest, accept, serves,
        if_true]
  | _ => cases submits

/-- A submission to a dispatcher that serves returns its answer, unless a panic escapes from
it, whatever becomes of the units of work that it runs. -/
theorem Run.submission {backends : List Backend} {priorities : List Preference}
    {past : List Moment} {frames : List Frame}
    (built : (construct backends priorities).result = .ok s)
    (run : Run (.initial s) past ⟨t, ⟨.call (.act scope action), frames⟩⟩)
    (serving : t.serving = true) (submits : action.acceptance? = some answer) :
    ∃ passed signal last,
      Moment.Extent ⟨t, ⟨.call (.act scope action), frames⟩⟩ frames passed signal last
        ∧ (signal = .returned answer ∨ ∃ message, signal = .panicked message) := by
  obtain ⟨u, frame, acts, returns, panics⟩ := t.act_serving scope serving submits
  have step := Moment.Step.call t (.act scope action) frames
  rw [Call.step, acts] at step
  obtain ⟨passed, signal, last, extent⟩ :=
    (run.next step).extent built (Moment.above_of_call (frame :: frames))
  have whole {signal : Signal} {v : State}
      (resumes : frame.resume last.state _ = .signal v signal) :=
    (extent.resume resumes).cons (Moment.above_of_call frames) step
  rcases extent.settled [] rfl rfl with ⟨result, rfl⟩ | ⟨message, rfl⟩
  · obtain ⟨kept, resumes⟩ := returns last.state result
    exact ⟨_, _, _, whole resumes, .inl rfl⟩
  · exact ⟨_, _, _, whole (panics last.state message), .inr ⟨message, rfl⟩⟩

end Submissions

/-! ### The law -/

/-- Shutdown is final. Once the dispatcher was asked to shut down, at whatever depth of a run,
nothing is listed and nothing waits, the text stored for the priority list is that of the
moment at which it was asked, no unit of work is accepted or begins to run, and another
shutdown changes nothing. A submission is refused exactly if the dispatcher serves no more;
its unit is then destroyed, and else it returns its answer unless a panic escapes from it. A
completion that comes in after the end stores its status and runs the continuation of its
slot, once; no pool changes unless the continuation panics. Until the dispatcher is dropped,
the completion of every slot comes in. -/
theorem shutdown_is_final {backends : List Backend} {priorities : List Preference} {s : State}
    {past : List Moment} {now : Moment}
    (built : (construct backends priorities).result = .ok s) (run : Run (.initial s) past now) :
    (∀ before m after scope, past = before ++ m :: after →
        m.thread.control = .call (.act scope .shutdown) →
          now.state.Closed m.state.configText
            ∧ accepted past = accepted before ∧ ran past = ran before
            ∧ ∀ scope, (now.state.act scope .shutdown).state = now.state)
      ∧ (∀ scope action answer frames, now.thread = ⟨.call (.act scope action), frames⟩ →
        action.acceptance? = some answer → now.state.phase ≠ .dropped →
          (now.state.serving = false →
            now.Step ⟨now.state.turnedAway action,
              ⟨.signal (.returned (.rejected .terminated)), frames⟩⟩)
          ∧ (now.state.serving = true →
            ∃ passed signal last, now.Extent frames passed signal last
              ∧ (signal = .returned answer ∨ ∃ message, signal = .panicked message)))
      ∧ (∀ slot status frames, now.thread = ⟨.call (.complete slot status), frames⟩ →
        now.state.serving = false → (now.state.slot slot).attached = true →
          ∃ frame followed rest handed last,
            now.Delivery slot status frame frames followed rest handed last
              ∧ ((∀ message, handed ≠ .panicked message) →
                (∀ m ∈ followed :: rest, m.state.pools = now.state.pools)
                  ∧ ∃ t, last.Step ⟨t, ⟨.signal (.returned .done), frames⟩⟩
                    ∧ t.pools = now.state.pools)
              ∧ ∀ message, handed = .panicked message →
                ∃ passed escaped final, last.Extent frames passed (.panicked escaped) final
                  ∧ ∀ m ∈ passed, ∀ other status',
                    m.thread.control ≠ .call (.followUp other status'))
      ∧ (now.state.phase ≠ .dropped → now.state.Attached) := by
  refine ⟨?_, ?_, ?_, (run.linked built).attached⟩
  · rintro before m after scope rfl asks
    obtain ⟨upTo, onward⟩ := run.split
    obtain ⟨-, second, step, rest⟩ := onward.head
    obtain ⟨closed, idle, accepts, begins⟩ := upTo.closed_by_shutdown built asks step
    obtain ⟨closed, -, noneAccepted, noneRan⟩ := rest.closed closed idle
    refine ⟨closed, ?_, ?_, fun scope => ?_⟩
    · rw [accepted_append]
      simp only [accepted, List.flatMap_cons, accepts] at noneAccepted ⊢
      simp [noneAccepted]
    · rw [ran_append]
      simp only [ran, List.flatMap_cons, begins] at noneRan ⊢
      simp [noneRan]
    · simp only [State.act, Move.onDispatcher]
      split
      · rfl
      · simp [Move.done, Move.answer, Move.signal, State.shutdown, closed.terminated]
  · obtain ⟨t, thread⟩ := now
    rintro scope action answer frames rfl submits there
    refine ⟨fun ended => ?_, fun serving => run.submission built serving submits⟩
    have step := Moment.Step.call t (.act scope action) frames
    rw [Call.step, State.act_terminated there ended submits] at step
    exact step
  · obtain ⟨t, thread⟩ := now
    rintro slot status frames rfl ended attached
    exact run.delivery built ended attached

/-- One slot, and a unit of work that shuts the dispatcher down before it starts the slot and
submits another unit. -/
theorem shutdown_is_final_single :
    let s := State.single ⟨.immediate, .ok, none⟩
    let script : Script := [.andThen [], .shutdown, .submit "v" [], .start]
    let thread := Thread.ofCall (.act none (.submit "u" script))
    let past := Moment.initial s :: thread.passed 60 s
    let last := (thread.run 60 s).1
    last.Closed "A" ∧ ran past = [.scripted "u" script] ∧ last.running = [] := by
  have run := Run.operation 60 (State.single ⟨.immediate, .ok, none⟩) (.returned .done)
    (.submit "u" [.andThen [], .shutdown, .submit "v" [], .start])
  generalize passed : (_ :: Thread.passed 60 _ _) = past at run
  have asked : 11 < past.length := by
    rw [← passed]
    decide +kernel
  have split : past = past.take 11 ++ past[11] :: past.drop 12 := by
    rw [List.getElem_cons_drop, List.take_append_drop]
  have asks : past[11].thread.control = .call (.act (some ⟨"u", ⟨"A", 0⟩⟩) .shutdown) := by
    subst passed
    rfl
  obtain ⟨closed, -, units, -⟩ :=
    (shutdown_is_final (State.construct_single _) run).1 _ _ _ _ split asks
  subst passed
  exact ⟨closed, units, by decide +kernel⟩

end SlotDispatch
