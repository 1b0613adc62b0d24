import SlotDispatch.Proofs.Termination

/-!
The extent of a call: from the moment at which a thread is about to make the call to the
moment at which its signal is handed to the frames that waited for it. In between the thread
works above these frames and touches none of them. Every extent comes to its end
(`Run.extent`), and what each step of a thread keeps holds until then (`Extent.induction`).
-/

namespace SlotDispatch

namespace Moment

/-- The thread works above these frames, and none of them has been handed a signal. -/
def Above (frames : List Frame) (m : Moment) : Prop :=
  ∃ above, m.thread.frames = above ++ frames
    ∧ (above = [] → ∃ call, m.thread.control = .call call)

/-- From `first` on the thread works above the frames, through the moments `passed`, until
it hands them its signal at `last`. -/
structure Extent (first : Moment) (frames : List Frame) (passed : List Moment) (signal : Signal)
    (last : Moment) : Prop where
  run : Run first passed last
  above : ∀ m ∈ passed, m.Above frames
  back : last.thread = ⟨.signal signal, frames⟩

variable {m first last after : Moment} {frames : List Frame} {passed : List Moment}
  {signal : Signal}

/-- A thread that works above frames takes a step of its own. -/
theorem Above.cases (above : m.Above frames) (step : m.Step after) :
    (∃ s call upper, m = ⟨s, ⟨.call call, upper ++ frames⟩⟩
        ∧ after = (call.step s).onto (upper ++ frames))
      ∨ ∃ s signal frame upper, m = ⟨s, ⟨.signal signal, frame :: (upper ++ frames)⟩⟩
        ∧ after = (frame.resume s signal).onto (upper ++ frames) := by
  obtain ⟨upper, shape, calls⟩ := above
  cases step with
  | call s call below =>
      obtain rfl : below = upper ++ frames := shape
      exact .inl ⟨s, call, upper, rfl, rfl⟩
  | resume s signal frame below =>
      cases upper with
      | nil =>
          obtain ⟨call, same⟩ := calls rfl
          cases same
      | cons first upper =>
          obtain ⟨rfl, rfl⟩ : frame = first ∧ below = upper ++ frames := by simpa using shape
          exact .inr ⟨s, signal, frame, upper, rfl, rfl⟩
  | begin s signal action =>
      obtain ⟨rfl, rfl⟩ := List.append_eq_nil_iff.mp shape.symm
      obtain ⟨call, same⟩ := calls rfl
      cases same
  | deliver signal earlier later due =>
      obtain ⟨rfl, rfl⟩ := List.append_eq_nil_iff.mp shape.symm
      obtain ⟨call, same⟩ := calls rfl
      cases same
  | drop s signal =>
      obtain ⟨rfl, rfl⟩ := List.append_eq_nil_iff.mp shape.symm
      obtain ⟨call, same⟩ := calls rfl
      cases same

/-- It goes on above them, or hands them its signal. -/
theorem above_or_back (m : Moment) (upper : List Frame)
    (shape : m.thread.frames = upper ++ frames) :
    m.Above frames ∨ ∃ signal, m.thread = ⟨.signal signal, frames⟩ := by
  obtain ⟨s, ⟨control, below⟩⟩ := m
  obtain rfl : below = upper ++ frames := shape
  cases upper with
  | cons frame upper => exact .inl ⟨frame :: upper, rfl, nofun⟩
  | nil =>
      cases control with
      | call call => exact .inl ⟨[], rfl, fun _ => ⟨call, rfl⟩⟩
      | signal signal => exact .inr ⟨signal, rfl⟩

theorem Above.step (above : m.Above frames) (step : m.Step after) :
    after.Above frames ∨ ∃ signal, after.thread = ⟨.signal signal, frames⟩ := by
  rcases above.cases step with ⟨s, call, upper, rfl, rfl⟩ | ⟨s, signal, frame, upper, rfl, rfl⟩
  · exact above_or_back _ ((call.step s).frames ++ upper) (List.append_assoc _ _ _).symm
  · exact above_or_back _ ((frame.resume s signal).frames ++ upper) (List.append_assoc _ _ _).symm

/-- A thread that works above frames is busy. -/
theorem Above.busy (above : m.Above frames) : m.Busy := by
  obtain ⟨upper, shape, calls⟩ := above
  cases upper with
  | nil => exact .inl (calls rfl)
  | cons frame upper => exact .inr (by simp [shape])

/-! ### Extents that are put together -/

/-- A call that is about to be made works above the frames that wait for it. -/
theorem above_of_call {s : State} {call : Call} (frames : List Frame) :
    Above frames ⟨s, ⟨.call call, frames⟩⟩ := ⟨[], rfl, fun _ => ⟨call, rfl⟩⟩

/-- A step before an extent belongs to it. -/
theorem Extent.cons (extent : after.Extent frames passed signal last) (above : m.Above frames)
    (step : m.Step after) : m.Extent frames (m :: passed) signal last := by
  refine ⟨(Run.single step).append extent.run, ?_, extent.back⟩
  intro other mem
  rcases List.mem_cons.mp mem with rfl | mem
  · exact above
  · exact extent.above other mem

/-- An extent above a frame is followed by what the frame makes of the signal. -/
theorem Extent.resume {frame : Frame} {handed : Signal} {t : State}
    (extent : first.Extent (frame :: frames) passed handed last)
    (resumes : frame.resume last.state handed = .signal t signal) :
    first.Extent frames (passed ++ [last]) signal ⟨t, ⟨.signal signal, frames⟩⟩ := by
  obtain ⟨u, thread⟩ := last
  obtain rfl : thread = ⟨.signal handed, frame :: frames⟩ := extent.back
  have step : Step ⟨u, ⟨.signal handed, frame :: frames⟩⟩ ⟨t, ⟨.signal signal, frames⟩⟩ := by
    have step := Step.resume u handed frame frames
    rw [resumes] at step
    exact step
  refine ⟨.next extent.run step, ?_, rfl⟩
  intro m mem
  rcases List.mem_append.mp mem with mem | mem
  · obtain ⟨upper, shape, -⟩ := extent.above m mem
    exact ⟨upper ++ [frame], by simp [shape], by simp⟩
  · rw [List.mem_singleton.mp mem]
    exact ⟨[frame], rfl, by simp⟩

/-! ### What every step of a thread keeps -/

/-- What holds of the state, the control and the frames above those that wait holds at every
moment of an extent and at its end, if every step of a thread keeps it. -/
theorem Extent.induction (holds : State → Control → List Frame → Prop)
    (extent : first.Extent frames passed signal last)
    (calls : ∀ s call upper, holds s (.call call) upper →
      holds (call.step s).state (call.step s).control ((call.step s).frames ++ upper))
    (resumes : ∀ s signal frame upper, holds s (.signal signal) (frame :: upper) →
      holds (frame.resume s signal).state (frame.resume s signal).control
        ((frame.resume s signal).frames ++ upper))
    (upper : List Frame) (shape : first.thread.frames = upper ++ frames)
    (start : holds first.state first.thread.control upper) :
    (∀ m ∈ passed, ∃ upper, m.thread.frames = upper ++ frames
        ∧ holds m.state m.thread.control upper)
      ∧ holds last.state (.signal signal) [] := by
  -- The last moment has the property as well, whether or not the extent is over.
  suffices ∀ {passed : List Moment} {now : Moment}, Run first passed now →
      (∀ m ∈ passed, m.Above frames) →
        (∀ m ∈ passed, ∃ upper, m.thread.frames = upper ++ frames
          ∧ holds m.state m.thread.control upper)
        ∧ ∃ upper, now.thread.frames = upper ++ frames
          ∧ holds now.state now.thread.control upper by
    obtain ⟨all, upper, shape, final⟩ := this extent.run extent.above
    refine ⟨all, ?_⟩
    rw [extent.back] at shape final
    obtain rfl : upper = [] := by simpa using shape.symm
    exact final
  intro passed now run
  induction run with
  | start => exact fun _ => ⟨List.forall_mem_nil _, upper, shape, start⟩
  | @next passed now after run step ih =>
      intro above
      obtain ⟨all, upper, shape, here⟩ := ih fun m mem => above m (List.mem_append_left _ mem)
      refine ⟨?_, ?_⟩
      · intro m mem
        rcases List.mem_append.mp mem with mem | mem
        · exact all m mem
        · rw [List.mem_singleton.mp mem]
          exact ⟨upper, shape, here⟩
      · rcases (above now (by simp)).cases step with
          ⟨s, call, upper', rfl, rfl⟩ | ⟨s, signal, frame, upper', rfl, rfl⟩
        · obtain rfl : upper' = upper := List.append_cancel_right shape
          exact ⟨_, (List.append_assoc _ _ _).symm, calls s call _ here⟩
        · obtain rfl : frame :: upper' = upper := List.append_cancel_right shape
          exact ⟨_, (List.append_assoc _ _ _).symm, resumes s signal frame _ here⟩

end Moment

/-! ### Every extent comes to its end -/

/-- What a thread does above frames comes to its end, at any moment of a run. -/
theorem Run.extent {backends : List Backend} {priorities : List Preference} {s : State}
    {past : List Moment} {now : Moment} {frames : List Frame}
    (built : (construct backends priorities).result = .ok s) (run : Run (.initial s) past now)
    (above : now.Above frames) : ∃ passed signal last, now.Extent frames passed signal last := by
  -- The induction is on what the moment weighs, which every step lowers.
  generalize weighs : now.weight now.state.devices.length = bound
  induction bound using Nat.strongRecOn generalizing past now with
  | ind bound ih =>
      obtain ⟨after, step, lighter⟩ := above.busy.goes_on (run.listed built)
        (run.grounded built).distinct run.searching
      rcases above.step step with onward | ⟨signal, back⟩
      · rw [weighs] at lighter
        obtain ⟨passed, signal, last, extent⟩ := ih _ lighter (.next run step) onward rfl
        exact ⟨now :: passed, signal, last, extent.cons above step⟩
      · refine ⟨[now], signal, after, .single step, ?_, back⟩
        intro m mem
        rw [List.mem_singleton.mp mem]
        exact above

/-! ### Calls that return or panic -/

/-- A call has returned or panicked. -/
def Signal.settled : Signal → Bool
  | .returned _ | .panicked _ => true
  | _ => false

/-- The call is one of the dispatcher's own, which ends by returning or panicking whatever
becomes of the code that it runs. -/
def Control.settled : Control → Bool
  | .call (.schedule) | .call (.walk _ _) | .call (.offer _ _) | .call (.bind _ _)
  | .call (.complete _ _) | .call (.notify _ _) | .call (.discard _) | .call (.markIdle _)
  | .call (.pushIdle _) => true
  | .call _ => false
  | .signal handed => handed.settled

/-- A frame that turns every signal into one that returns or panics. -/
def Frame.settles : Frame → Bool
  | .bound _ | .completing _ | .parting _ _ | .rethrow _ => true
  | _ => false

/-- A frame that returns or panics if it is handed a signal that does. -/
def Frame.keepsSettled : Frame → Bool
  | .answer _ | .attempt | .keep _ _ | .firstLook _ _ | .walk _ | .reschedule
  | .collecting _ _ => true
  | _ => false

/-- Whether what comes out below the frames returns or panics. -/
def settledBelow (settled : Bool) : List Frame → Bool
  | [] => settled
  | frame :: below => settledBelow (frame.settles || settled && frame.keepsSettled) below

theorem settledBelow_append (settled : Bool) (upper below : List Frame) :
    settledBelow settled (upper ++ below) = settledBelow (settledBelow settled upper) below := by
  induction upper generalizing settled with
  | nil => rfl
  | cons frame upper ih => exact ih _

theorem settledBelow_true_of_false {below : List Frame}
    (settled : settledBelow false below = true) :
    settledBelow true below = true := by
  induction below with
  | nil => cases settled
  | cons frame below ih =>
      simp only [settledBelow, Bool.false_and, Bool.or_false, Bool.true_and] at settled ⊢
      generalize frame.settles = settles at settled ⊢
      generalize frame.keepsSettled = keeps
      cases settles with
      | true => exact settled
      | false =>
          cases keeps with
          | true => exact ih settled
          | false => exact settled

/-- What is settled above is so below. -/
theorem settledBelow_mono {settled better : Bool} {below : List Frame}
    (more : settled = true → better = true) (holds : settledBelow settled below = true) :
    settledBelow better below = true := by
  cases settled with
  | true => rwa [more rfl]
  | false =>
      cases better with
      | true => exact settledBelow_true_of_false holds
      | false => exact holds

theorem Call.settled_step (s : State) {call : Call} (settled : (Control.call call).settled = true) :
    settledBelow (call.step s).control.settled (call.step s).frames = true := by
  cases call with
  | walk devices handedBack => cases devices <;> simp only [step] <;> split <;> rfl
  | notify slot status =>
      simp only [step, State.notify]
      split <;> rfl
  | schedule | offer | complete =>
      simp only [step, State.complete]
      split <;> rfl
  | bind | discard | markIdle | pushIdle => rfl
  | _ => simp [Control.settled] at settled

theorem Frame.settled_resume (s : State) (frame : Frame) (signal : Signal)
    (settled : (frame.settles || signal.settled && frame.keepsSettled) = true) :
    settledBelow (frame.resume s signal).control.settled (frame.resume s signal).frames = true := by
  cases frame with
  | completing slot =>
      cases signal <;> simp only [resume] <;> try split
      all_goals rfl
  | firstLook id number =>
      cases signal <;> simp only [resume] <;> try split
      all_goals first | rfl | cases settled
  | _ => cases signal <;> first | rfl | cases settled

/-- What a thread comes to is settled from the start if it is one of the dispatcher's own
calls, or waits for nothing else. -/
theorem Moment.Extent.settled {first last : Moment} {frames : List Frame}
    {passed : List Moment} {signal : Signal} (extent : first.Extent frames passed signal last)
    (upper : List Frame) (shape : first.thread.frames = upper ++ frames)
    (settled : settledBelow first.thread.control.settled upper = true) :
    (∃ answer, signal = .returned answer) ∨ ∃ message, signal = .panicked message := by
  have final := (extent.induction
    (fun _ control upper => settledBelow control.settled upper = true) ?_ ?_ upper shape settled).2
  · change signal.settled = true at final
    cases signal with
    | returned answer => exact .inl ⟨answer, rfl⟩
    | panicked message => exact .inr ⟨message, rfl⟩
    | _ => cases final
  · intro s call upper settled
    rw [settledBelow_append]
    exact settledBelow_mono (call.settled_step s) settled
  · intro s signal frame upper settled
    rw [settledBelow_append]
    exact settledBelow_mono (frame.settled_resume s signal) settled

/-! ### Panics -/

/-- A panic is under way: it is handed down, or a slot is handed back on its way. -/
def Unwinding : Control → List Frame → Prop
  | .signal (.panicked _), _ => True
  | .signal (.returned _), .rethrow _ :: _ => True
  | .call (.discard _), .rethrow _ :: _ | .call (.markIdle _), .rethrow _ :: _
  | .call (.pushIdle _), .rethrow _ :: _ => True
  | _, _ => False

theorem Call.unwinding_step (s : State) {call : Call} {upper : List Frame}
    (unwinding : Unwinding (.call call) upper) :
    Unwinding (call.step s).control ((call.step s).frames ++ upper) := by
  unfold Unwinding at unwinding
  split at unwinding
  · next same => cases same
  · next same => cases same
  · next same =>
      cases same
      trivial
  · next same =>
      cases same
      trivial
  · next same =>
      cases same
      trivial
  · exact unwinding.elim

theorem Frame.unwinding_resume (s : State) {frame : Frame} {signal : Signal} {upper : List Frame}
    (unwinding : Unwinding (.signal signal) (frame :: upper)) :
    Unwinding (frame.resume s signal).control ((frame.resume s signal).frames ++ upper) := by
  cases signal with
  | panicked message => cases frame <;> trivial
  | returned answer =>
      cases frame with
      | rethrow message => trivial
      | _ => exact unwinding.elim
  | _ => exact unwinding.elim

namespace Moment

variable {first last m : Moment} {frames : List Frame} {before later : List Moment}
  {signal : Signal}

/-- From any moment on, an extent is one. -/
theorem Extent.split (extent : first.Extent frames (before ++ m :: later) signal last) :
    m.Extent frames (m :: later) signal last :=
  ⟨extent.run.split.2, fun other mem => extent.above other (List.mem_append_right _ mem),
    extent.back⟩

/-- Nothing catches a panic. -/
theorem Extent.panics {passed : List Moment}
    (extent : first.Extent frames passed signal last) (upper : List Frame)
    (shape : first.thread.frames = upper ++ frames)
    (unwinding : Unwinding first.thread.control upper) : ∃ message, signal = .panicked message := by
  have final := (extent.induction (fun _ => Unwinding)
    (fun s call upper => Call.unwinding_step s)
    (fun s signal frame upper => Frame.unwinding_resume s)
    upper shape unwinding).2
  cases signal with
  | panicked message => exact ⟨message, rfl⟩
  | _ => exact final.elim

end Moment

end SlotDispatch
