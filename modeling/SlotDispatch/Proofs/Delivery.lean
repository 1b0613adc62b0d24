import SlotDispatch.Proofs.Attachment
import SlotDispatch.Proofs.Closing
import SlotDispatch.Proofs.Extent

/-!
Completions that come in after the end of the service. Each stores its status and runs the
continuation that its slot holds, once, and is over when the continuation has returned
(`Run.delivery`). Slots stay out of their pools, unless a panic hands one back
(`Moment.Extent.halted`).
-/

namespace SlotDispatch

/-! ### What goes on after the end -/

/-- A control that neither binds a unit of work nor moves a slot, and does not panic. -/
def Control.stands : Control → Bool
  | .call (.walk _ _) | .call (.offer _ _) | .call (.bind _ _) | .call (.perform _ _)
  | .call (.discard _) | .call (.markIdle _) | .call (.pushIdle _)
  | .signal (.panicked _) => false
  | _ => true

/-- A frame that leads to no such thing once the service is over. -/
def Frame.stands : Frame → Bool
  | .walk _ | .bound _ | .reschedule | .rethrow _ | .preparing _ _ _ _ | .starting _ _ => false
  | _ => true

/-- The service is over, and since then no pool has changed, unless a panic is under way. -/
structure Halted (pools : List (String × List Nat)) (s : State) (control : Control)
    (upper : List Frame) : Prop where
  terminated : s.serving = false
  settled : (s.pools = pools ∧ control.stands = true ∧ ∀ frame ∈ upper, frame.stands = true)
    ∨ Unwinding control upper

section Halted

variable {pools : List (String × List Nat)} {s : State} {upper : List Frame}

/-- What a move adds stands, or it panics. -/
theorem Halted.of_move {move : Move} (terminated : move.state.serving = false)
    (same : move.state.pools = s.pools) (kept : s.pools = pools)
    (control : move.control.stands = true) (added : ∀ frame ∈ move.frames, frame.stands = true)
    (below : ∀ frame ∈ upper, frame.stands = true) :
    Halted pools move.state move.control (move.frames ++ upper) := by
  refine ⟨terminated, .inl ⟨same.trans kept, control, fun frame mem => ?_⟩⟩
  rcases List.mem_append.mp mem with mem | mem
  · exact added frame mem
  · exact below frame mem

/-- An action after the end starts a slot or lets one complete, but binds nothing. -/
theorem State.Acts.halted {scope : Option Scope} {action : Action} {move : Move}
    (acts : s.Acts scope action move) (terminated : s.serving = false) (kept : s.pools = pools)
    (below : ∀ frame ∈ upper, frame.stands = true) :
    Halted pools move.state move.control (move.frames ++ upper) := by
  have same := acts.sameSlots.samePools
  have none : ∀ frame ∈ ([] : List Frame), frame.stands = true := nofun
  cases acts with
  | submitted id script serving =>
      rw [terminated] at serving
      cases serving
  | requested id job cancelled handles frame serving =>
      rw [terminated] at serving
      cases serving
  | reordered entries text _ installs =>
      have serving := (State.of_reconfigured? installs).1
      rw [terminated] at serving
      cases serving
  | panicked message => exact ⟨terminated, .inr trivial⟩
  | tried scope' =>
      exact .of_move terminated same kept rfl (by simp [Move.await, Frame.stands]) below
  | finished slot status =>
      exact .of_move terminated same kept rfl (by simp [Move.await, Frame.stands]) below
  | shutDown => exact .of_move s.serving_shutdown same kept rfl none below
  | continued scope' id script =>
      exact .of_move ((undisturbed_setContinuation _ _ _).serving.trans terminated) same kept rfl
        none below
  | _ => exact .of_move terminated same kept rfl none below

theorem Call.halted_step {call : Call} (halted : Halted pools s (.call call) upper) :
    Halted pools (call.step s).state (call.step s).control ((call.step s).frames ++ upper) := by
  have terminated : (call.step s).state.serving = false := by
    rw [Bool.eq_false_iff]
    intro serving
    have before := (Moment.Step.call s call upper).serving_before serving
    rw [show s.serving = false from halted.terminated] at before
    cases before
  rcases halted.settled with ⟨kept, stands, below⟩ | unwinding
  · have none : ∀ frame ∈ ([] : List Frame), frame.stands = true := nofun
    have moved (move : Move) (eq : call.step s = move) (still : call.movesPools = false)
        (control : move.control.stands = true)
        (added : ∀ frame ∈ move.frames, frame.stands = true) :
        Halted pools (call.step s).state (call.step s).control
          ((call.step s).frames ++ upper) := by
      subst eq
      exact .of_move terminated (samePools_step s still) kept control added below
    cases call with
    | act scope action => exact (s.acts scope action).halted halted.terminated kept below
    | script scope rest =>
        cases rest with
        | nil => exact moved _ rfl rfl rfl none
        | cons action rest =>
            exact moved (.await s (.act (some scope) action) (.script scope action.name rest))
              rfl rfl rfl (by simp [Move.await, Frame.stands])
    | schedule =>
        refine moved (.done s) ?_ rfl rfl none
        simp [step, show s.serving = false from halted.terminated]
    | start slot =>
        rcases s.start_cases slot with ⟨error, -, eq⟩ | ⟨-, eq⟩
        · exact moved _ eq rfl rfl none
        · refine moved _ eq rfl ?_ ?_ <;> simp only [State.launch] <;> split <;>
            first | rfl | exact none | simp [Move.await, Frame.stands]
    | complete slot status =>
        refine moved (s.complete slot status) rfl rfl ?_ ?_ <;>
          simp only [State.complete] <;> split <;> first | rfl | exact none
    | notify slot status =>
        refine moved (s.notify slot status) rfl rfl rfl ?_
        simp only [State.notify, Move.await]
        split <;> simp [Frame.stands]
    | followUp slot status =>
        refine moved (s.followUp slot status) rfl rfl ?_ ?_ <;>
          simp only [State.followUp] <;> repeat' split
        all_goals first | rfl | exact none | simp [Move.await, Frame.stands]
    | _ => cases stands
  · exact ⟨terminated, .inr (call.unwinding_step s unwinding)⟩

theorem Frame.halted_resume {frame : Frame} {signal : Signal}
    (halted : Halted pools s (.signal signal) (frame :: upper)) :
    Halted pools (frame.resume s signal).state (frame.resume s signal).control
      ((frame.resume s signal).frames ++ upper) := by
  have same := frame.undisturbed_resume s signal
  have terminated := same.serving.trans halted.terminated
  rcases halted.settled with ⟨kept, calm, below⟩ | unwinding
  · have stands := below frame List.mem_cons_self
    have moved (control : (frame.resume s signal).control.stands = true)
        (added : (frame.resume s signal).frames = []) :
        Halted pools (frame.resume s signal).state (frame.resume s signal).control
          ((frame.resume s signal).frames ++ upper) :=
      .of_move terminated same.samePools kept control (by simp [added])
        fun other mem => below other (List.mem_cons_of_mem _ mem)
    cases signal with
    | panicked message => cases calm
    | _ =>
        cases frame with
        | completing slot =>
            have ended : s.serving = false := halted.terminated
            apply moved <;> simp [resume, ended] <;> rfl
        | firstLook id number =>
            apply moved <;> simp only [resume] <;> first | rfl | (split <;> rfl)
        | walk | bound | reschedule | rethrow | preparing | starting => cases stands
        | _ => exact moved rfl rfl
  · exact ⟨terminated, .inr (frame.unwinding_resume s unwinding)⟩

/-- After the end, pools change only by a panic. -/
theorem Moment.Extent.halted {first last : Moment} {frames : List Frame} {passed : List Moment}
    {signal : Signal} (extent : first.Extent frames passed signal last)
    (shape : first.thread.frames = frames) (terminated : first.state.serving = false)
    (stands : first.thread.control.stands = true) (calm : ∀ message, signal ≠ .panicked message) :
    (∀ m ∈ passed, m.state.pools = first.state.pools) ∧ last.state.pools = first.state.pools := by
  obtain ⟨all, final⟩ := extent.induction (Halted first.state.pools)
    (fun s call upper => Call.halted_step) (fun s signal frame upper => Frame.halted_resume)
    [] shape ⟨terminated, .inl ⟨rfl, stands, nofun⟩⟩
  refine ⟨fun m mem => ?_, ?_⟩
  · obtain ⟨upper, shape, halted⟩ := all m mem
    rcases halted.settled with ⟨kept, -⟩ | unwinding
    · exact kept
    · -- A panic that was under way would have come out at the end.
      obtain ⟨before, later, rfl⟩ := List.append_of_mem mem
      obtain ⟨message, same⟩ := extent.split.panics upper shape unwinding
      exact absurd same (calm message)
  · rcases final.settled with ⟨kept, -⟩ | unwinding
    · exact kept
    · cases signal with
      | panicked message => exact absurd rfl (calm message)
      | _ => exact unwinding.elim

end Halted

/-! ### Completions after the end -/

/-- The code with which a continuation begins once its slot has completed. That of a request
whose execution failed begins with none. -/
def Continuation.code? (slot : SlotId) (status : Status) : Continuation → Option (Scope × Script)
  | .scripted id script => some (⟨id, slot⟩, script)
  | .request id _ complete => if status.isOk then some (⟨id, slot⟩, complete) else none

/-- A completion from its delivery to the end of the continuation that its slot held: the
status is stored, the continuation is taken off the slot and runs, and is not run again. -/
structure Moment.Delivery (now : Moment) (slot : SlotId) (status : Status) (frame : Frame)
    (frames : List Frame) (followed : Moment) (rest : List Moment) (handed : Signal)
    (last : Moment) : Prop where
  told : ∃ middle, now.Step middle ∧ middle.Step followed
  follows : followed.thread = ⟨.call (.followUp slot status), frame :: frames⟩
  stored : (followed.state.slot slot).last = status
  held : (followed.state.slot slot).continuation = (now.state.slot slot).continuation
  taken : ∀ next ∈ (rest ++ [last]).head?, (next.state.slot slot).continuation = none
    ∧ ∀ continuation scope script, (now.state.slot slot).continuation = some continuation →
      continuation.code? slot status = some (scope, script) →
        next.thread.control = .call (.script scope script)
  extent : followed.Extent (frame :: frames) (followed :: rest) handed last
  once : ∀ m ∈ rest, ∀ other status',
    m.thread ≠ ⟨.call (.followUp other status'), frame :: frames⟩

/-- The frame in which the continuation of a completion runs. -/
def Frame.awaitsFollowUp : Frame → Bool
  | .completing _ | .parting _ _ => true
  | _ => false

/-- A continuation is run only in a frame that waits for it. -/
theorem Call.Flows.frames_ne_nil {call : Call} {move : Move} {slot : SlotId} {status : Status}
    (flows : call.Flows move) (follows : move.control = .call (.followUp slot status)) :
    move.frames ≠ [] := by
  cases flows with
  | completing | parting => exact List.cons_ne_nil _ _
  | _ => cases follows

theorem Frame.Flows.not_followUp {frame : Frame} {move : Move} (flows : frame.Flows move)
    (slot : SlotId) (status : Status) : move.control ≠ .call (.followUp slot status) := by
  cases flows <;> nofun

/-- No panic runs a continuation. -/
theorem Unwinding.not_followUp {control : Control} {upper : List Frame}
    (unwinding : Unwinding control upper) (slot : SlotId) (status : Status) :
    control ≠ .call (.followUp slot status) := by
  rintro rfl
  exact unwinding

section Deliveries

variable {s t : State} {frames : List Frame} {slot : SlotId} {status : Status}

/-- The continuation that a slot holds is taken off it, and its code begins. -/
theorem State.followUp_begins (status : Status) (present : s.hasSlot slot = true) :
    ((s.followUp slot status).state.slot slot).continuation = none
      ∧ ∀ continuation scope script, (s.slot slot).continuation = some continuation →
        continuation.code? slot status = some (scope, script) →
          (s.followUp slot status).control = .call (.script scope script) := by
  have taken : ((s.modifySlot slot fun slot => { slot with continuation := none }).slot
      slot).continuation = none := by
    rw [slot_modifySlot_self present (by intro; rfl)]
  simp only [followUp]
  split
  · next held =>
      refine ⟨taken, fun continuation scope script same => ?_⟩
      rw [held] at same
      cases same
  · next id code held =>
      refine ⟨taken, fun continuation scope script same begins => ?_⟩
      obtain rfl : Continuation.scripted id code = continuation := by simpa [held] using same
      obtain ⟨rfl, rfl⟩ : Scope.mk id slot = scope ∧ code = script := by
        simpa [Continuation.code?] using begins
      rfl
  · next id number complete held =>
      by_cases ok : status.isOk = true
      · simp only [ok, if_true]
        refine ⟨taken, fun continuation scope script same begins => ?_⟩
        obtain rfl : Continuation.request id number complete = continuation := by
          simpa [held] using same
        obtain ⟨rfl, rfl⟩ : Scope.mk id slot = scope ∧ complete = script := by
          simpa [Continuation.code?, ok] using begins
        rfl
      · simp only [ok, Bool.false_eq_true, if_false]
        refine ⟨taken, fun continuation scope script same begins => ?_⟩
        obtain rfl : Continuation.request id number complete = continuation := by
          simpa [held] using same
        simp [Continuation.code?, ok] at begins

/-- A completion stores its status, and leaves the continuation of its slot to be run next. -/
theorem Moment.delivery_begins (status : Status) (frames : List Frame)
    (present : t.hasSlot slot = true) (attached : (t.slot slot).attached = true) :
    ∃ u v frame,
      Step ⟨t, ⟨.call (.complete slot status), frames⟩⟩ ⟨u, ⟨.call (.notify slot status), frames⟩⟩
      ∧ Step ⟨u, ⟨.call (.notify slot status), frames⟩⟩
        ⟨v, ⟨.call (.followUp slot status), frame :: frames⟩⟩
      ∧ frame.awaitsFollowUp = true ∧ v.serving = t.serving ∧ v.pools = t.pools
      ∧ v.hasSlot slot = true ∧ (v.slot slot).last = status
      ∧ (v.slot slot).continuation = (t.slot slot).continuation := by
  -- The slot stops executing, and the dispatcher is told.
  generalize stopped : (t.modifySlot slot fun slot =>
    { slot with output := slot.input, running := false }) = u
  have found : u.slot slot
      = { t.slot slot with output := (t.slot slot).input, running := false } := by
    rw [← stopped, State.slot_modifySlot_self present (by intro; rfl)]
  have there : u.hasSlot slot = true := by
    rw [← stopped, State.hasSlot_modifySlot t (by intro; rfl)]
    exact present
  have first := Step.call t (.complete slot status) frames
  simp only [Call.step, State.complete, stopped, found, attached, if_true] at first
  refine ⟨u, (u.notify slot status).state,
    if u.phase = .dropped then .parting slot (u.slot slot).pinned else .completing slot,
    first, Step.call u (.notify slot status) frames, ?_, ?_, ?_, ?_, ?_, ?_⟩
  · split <;> rfl
  · rw [State.notify, ← stopped]
    rfl
  · rw [State.notify, ← stopped]
    rfl
  · exact (State.hasSlot_modifySlot u (by intro; rfl) slot slot).trans there
  · simp only [State.notify, Move.await]
    rw [State.slot_modifySlot_self there (by intro; rfl)]
  · simp only [State.notify, Move.await]
    rw [State.slot_modifySlot_self there (by intro; rfl), found]

/-- A continuation that has begun is not run again in the frame that waits for it. -/
theorem Moment.Extent.once {first last : Moment} {frames upper : List Frame}
    {passed : List Moment} {signal : Signal} (extent : first.Extent frames passed signal last)
    (shape : first.thread.frames = upper ++ frames)
    (other : upper = [] → ∀ slot status, first.thread.control ≠ .call (.followUp slot status)) :
    ∀ m ∈ passed, ∀ slot status, m.thread ≠ ⟨.call (.followUp slot status), frames⟩ := by
  have all := (extent.induction
    (fun _ control upper =>
      upper = [] → ∀ slot status, control ≠ .call (.followUp slot status))
    ?_ ?_ upper shape other).1
  · intro m mem slot status same
    obtain ⟨upper, shape, never⟩ := all m mem
    rw [same] at shape never
    exact never (by simpa using shape.symm) slot status rfl
  · intro s call upper _ none slot status follows
    exact (call.flows s).frames_ne_nil follows (List.append_eq_nil_iff.mp none).1
  · intro s signal frame upper _ _
    exact (frame.flows s signal).not_followUp

/-- A run passes first through the moment at which it began. -/
theorem Run.head?_eq {first now : Moment} {past : List Moment} (run : Run first past now) :
    (past ++ [now]).head? = some first := by
  cases past with
  | nil =>
      rw [run.eq_of_nil]
      rfl
  | cons m past =>
      rw [run.head.1]
      rfl

/-- What has returned after the end comes out of the completion, which leaves the slot away. -/
theorem Frame.resume_awaitsFollowUp {frame : Frame} {signal : Signal}
    (waits : frame.awaitsFollowUp = true) (ended : s.serving = false)
    (calm : ∀ message, signal ≠ .panicked message) :
    ∃ u, frame.resume s signal = .done u := by
  cases frame with
  | completing slot =>
      cases signal with
      | panicked message => exact absurd rfl (calm message)
      | _ => exact ⟨s, by simp [resume, ended]⟩
  | parting slot kept =>
      cases signal with
      | panicked message => exact absurd rfl (calm message)
      | _ => exact ⟨_, rfl⟩
  | _ => cases waits

/-- A completion that comes in after the end stores its status and runs the continuation that
its slot holds, and is over when the continuation has returned. -/
theorem Run.delivery {backends : List Backend} {priorities : List Preference} {past : List Moment}
    (built : (construct backends priorities).result = .ok s)
    (run : Run (.initial s) past ⟨t, ⟨.call (.complete slot status), frames⟩⟩)
    (ended : t.serving = false) (attached : (t.slot slot).attached = true) :
    ∃ frame followed rest handed last,
      Moment.Delivery ⟨t, ⟨.call (.complete slot status), frames⟩⟩ slot status frame frames
          followed rest handed last
        ∧ ((∀ message, handed ≠ .panicked message) →
          (∀ m ∈ followed :: rest, m.state.pools = t.pools)
            ∧ ∃ u, last.Step ⟨u, ⟨.signal (.returned .done), frames⟩⟩ ∧ u.pools = t.pools)
        ∧ ∀ message, handed = .panicked message →
          ∃ passed escaped final, last.Extent frames passed (.panicked escaped) final
            ∧ ∀ m ∈ passed, ∀ other status',
              m.thread.control ≠ .call (.followUp other status') := by
  have present : t.hasSlot slot = true :=
    State.hasSlot_iff.mpr ((run.grounded built).known.control slot List.mem_cons_self)
  obtain ⟨u, v, frame, told, stored, waits, serving, pools, there, last, held⟩ :=
    Moment.delivery_begins status frames present attached
  have run := (run.next told).next stored
  obtain ⟨passed, handed, final, extent⟩ :=
    run.extent built (Moment.above_of_call (frame :: frames))
  obtain ⟨rest, rfl⟩ :
      ∃ rest, passed = ⟨v, ⟨.call (.followUp slot status), frame :: frames⟩⟩ :: rest := by
    cases passed with
    | nil =>
        have same := extent.run.eq_of_nil
        rw [same] at extent
        cases congrArg Thread.control extent.back
    | cons m rest =>
        obtain ⟨rfl, -⟩ := extent.run.head
        exact ⟨rest, rfl⟩
  obtain ⟨-, second, step, onward⟩ := extent.run.head
  obtain rfl : (v.followUp slot status).onto (frame :: frames) = second := by
    cases step
    rfl
  refine ⟨frame, _, rest, handed, final,
    ⟨⟨_, told, stored⟩, rfl, last, held, ?_, extent, ?_⟩, ?_, ?_⟩
  · rw [onward.head?_eq]
    rintro next ⟨⟩
    obtain ⟨taken, begins⟩ := State.followUp_begins status there
    rw [← held]
    exact ⟨taken, begins⟩
  · have later : ((v.followUp slot status).onto (frame :: frames)).Extent (frame :: frames) rest
        handed final :=
      ⟨onward, fun m mem => extent.above m (List.mem_cons_of_mem _ mem), extent.back⟩
    refine later.once rfl fun none other status' follows => ?_
    exact ((Call.followUp slot status).flows v).frames_ne_nil follows none
  · intro calm
    obtain ⟨all, same⟩ := extent.halted rfl (serving.trans ended) rfl calm
    refine ⟨fun m mem => (all m mem).trans pools, ?_⟩
    obtain ⟨w, thread⟩ := final
    obtain rfl : thread = ⟨.signal handed, frame :: frames⟩ := extent.back
    obtain ⟨x, returns⟩ :=
      Frame.resume_awaitsFollowUp waits (extent.run.terminated (serving.trans ended)) calm
    have step := Moment.Step.resume w handed frame frames
    have left := (frame.undisturbed_resume w handed).samePools
    rw [returns] at step left
    exact ⟨x, step, (left.trans same).trans pools⟩
  · rintro message rfl
    obtain ⟨w, thread⟩ := final
    obtain rfl : thread = ⟨.signal (.panicked message), frame :: frames⟩ := extent.back
    obtain ⟨passed, signal, escape, unwinds⟩ := (run.append extent.run).extent built
      (show Moment.Above frames _ from ⟨[frame], rfl, by simp⟩)
    obtain ⟨escaped, rfl⟩ := unwinds.panics [frame] rfl trivial
    refine ⟨passed, escaped, escape, unwinds, fun m mem => ?_⟩
    obtain ⟨upper, -, unwinding⟩ := (unwinds.induction (fun _ => Unwinding)
      (fun s call upper => Call.unwinding_step s)
      (fun s signal frame upper => Frame.unwinding_resume s) [frame] rfl trivial).1 m mem
    exact unwinding.not_followUp

end Deliveries

end SlotDispatch
