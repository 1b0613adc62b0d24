import SlotDispatch.Proofs.Ownership

/-!
The shape of a thread: what lies on its stack when. A slot that is handed back returns to a
frame that schedules next, a frame that waits for a parting continuation is there only once
the dispatcher is dropped, and units of work are counted one by one.
-/

namespace SlotDispatch

/-- The slot at hand returns to its pool. -/
def Control.returns : Control → Bool
  | .call (.discard _) | .call (.markIdle _) | .call (.pushIdle _) => true
  | _ => false

/-- Scheduling goes on once a slot has returned to its pool. -/
def Frame.awaitsSlot : Frame → Bool
  | .walk _ | .reschedule => true
  | _ => false

def Frame.isParting : Frame → Bool
  | .parting _ _ => true
  | _ => false

def Frame.isBound : Frame → Bool
  | .bound _ => true
  | _ => false

/-- A thread is built the way the dispatcher builds it. -/
structure Moment.Shaped (counts : List Nat) (m : Moment) : Prop where
  parting : ∀ frame ∈ m.thread.frames, frame.isParting = true → m.state.phase = .dropped
  returning : m.thread.control.returns = true →
    ∃ frame ∈ m.thread.frames.head?, frame.awaitsSlot = true
  counted : counts.length = m.thread.frames.countP Frame.isBound

/-! ### Phases -/

/-- A dispatcher that is gone stays so. -/
theorem Moment.Step.keeps_dropped {m after : Moment} (step : m.Step after)
    (dropped : m.state.phase = .dropped) : after.state.phase = .dropped := by
  cases step with
  | call s call frames =>
      have dropped : s.phase = .dropped := dropped
      cases call with
      | act scope action => exact (s.acts scope action).keeps_dropped dropped
      | offer slot devices =>
          simp only [Call.step]
          split <;> exact dropped
      | _ => exact (Call.sameWork_step s rfl).samePhase.trans dropped
  | resume s signal frame frames =>
      exact (frame.undisturbed_resume s signal).samePhase.trans dropped
  | begin s signal action => exact dropped
  | deliver signal earlier later due => exact dropped
  | drop s signal => exact s.phase_drop

/-! ### Steps -/

section Steps

variable {s : State} {frames : List Frame} {counts : List Nat}

/-- A frame that no code stands for is neither that of a unit nor of a parting continuation. -/
theorem Frame.not_bound_of_waits {frame : Frame} (waits : frame.activation? = none) :
    frame.isBound = false ∧ frame.isParting = false := by
  cases frame <;> simp_all [activation?, isBound, isParting]

/-- The slot that returns is on its way to its pool. -/
theorem Control.carries_of_returns {control : Control} (returns : control.returns = true) :
    control.carries ≠ [] := by
  unfold Control.returns at returns
  split at returns
  · simp [carries]
  · simp [carries]
  · simp [carries]
  · simp at returns

theorem Moment.Shaped.below {control : Control} {frame : Frame}
    (shaped : Moment.Shaped counts ⟨s, ⟨control, frame :: frames⟩⟩) :
    (∀ frame ∈ frames, frame.isParting = true → s.phase = .dropped)
      ∧ counts.length = frames.countP Frame.isBound + frame.isBound.toNat := by
  refine ⟨fun other mem => shaped.parting other (List.mem_cons_of_mem _ mem), ?_⟩
  have counted := shaped.counted
  rw [List.countP_cons] at counted
  rw [counted]
  cases frame.isBound <;> rfl

/-- Control that hands no slot back asks nothing of the frames below it. -/
theorem Moment.Shaped.of_keeps {m : Moment} (keeps : m.thread.control.returns = false)
    (parting : ∀ frame ∈ m.thread.frames, frame.isParting = true → m.state.phase = .dropped)
    (counted : counts.length = m.thread.frames.countP Frame.isBound) : m.Shaped counts :=
  ⟨parting, by simp [keeps], counted⟩

/-- A plain move changes nothing about the shape below. -/
theorem Move.Plain.shaped {move : Move} (plain : move.Plain)
    (dropped : s.phase = .dropped → move.state.phase = .dropped)
    (parting : ∀ frame ∈ frames, frame.isParting = true → s.phase = .dropped)
    (counted : counts.length = frames.countP Frame.isBound) :
    (move.onto frames).Shaped counts := by
  refine ⟨?_, ?_, ?_⟩
  · intro frame mem isParting
    rcases List.mem_append.mp mem with mem | mem
    · simp [(Frame.not_bound_of_waits (plain.waits frame mem)).2] at isParting
    · exact dropped (parting frame mem isParting)
  · intro returns
    exact absurd plain.carries (Control.carries_of_returns returns)
  · have none : move.frames.countP Frame.isBound = 0 :=
      List.countP_eq_zero.mpr fun frame mem => by
        simp [(Frame.not_bound_of_waits (plain.waits frame mem)).1]
    simp only [onto, List.countP_append, none, Nat.zero_add]
    exact counted

theorem Call.shaped_step {call : Call} (shaped : Moment.Shaped counts ⟨s, ⟨.call call, frames⟩⟩) :
    ((call.step s).onto frames).Shaped (Moment.tally counts ⟨s, ⟨.call call, frames⟩⟩) := by
  have parting : ∀ frame ∈ frames, frame.isParting = true → s.phase = .dropped := shaped.parting
  have counted : counts.length = frames.countP Frame.isBound := shaped.counted
  have dropped : s.phase = .dropped → (call.step s).state.phase = .dropped :=
    fun gone => (Moment.Step.call s call frames).keeps_dropped gone
  cases call with
  | walk devices handedBack =>
      cases devices with
      | nil => exact (plain_step s rfl).shaped dropped parting counted
      | cons device rest =>
          simp only [step]
          split
          · exact .of_keeps rfl parting counted
          · next index t popped =>
              obtain ⟨rest, -, rfl⟩ := State.popIdle_eq_some popped
              exact .of_keeps rfl parting counted
  | offer slot devices =>
      simp only [step]
      split
      · refine ⟨?_, fun _ => ⟨.walk devices, rfl, rfl⟩, counted⟩
        intro frame mem isParting
        rcases List.mem_cons.mp mem with rfl | mem
        · simp [Frame.isParting] at isParting
        · exact parting frame mem isParting
      · exact .of_keeps rfl parting counted
  | bind slot work =>
      refine .of_keeps rfl ?_ ?_
      · intro frame mem isParting
        rcases List.mem_cons.mp mem with rfl | mem
        · simp [Frame.isParting] at isParting
        · exact parting frame mem isParting
      · change counts.length + 1 = (Frame.bound slot :: frames).countP Frame.isBound
        rw [List.countP_cons, counted]
        rfl
  | start slot =>
      refine (plain_step s rfl).shaped dropped parting ?_
      simp only [Moment.tally]
      split
      · rw [List.length_modifyHead]
        exact counted
      · exact counted
  | complete slot status =>
      simp only [step, State.complete]
      split
      · exact .of_keeps rfl parting counted
      · exact .of_keeps rfl parting counted
  | notify slot status =>
      refine .of_keeps rfl ?_ ?_
      · intro frame mem isParting
        rcases List.mem_cons.mp mem with rfl | mem
        · by_cases gone : s.phase = .dropped
          · exact gone
          · simp [gone, Frame.isParting] at isParting
        · exact parting frame mem isParting
      · simp only [step, State.notify]
        split <;> exact counted
  | discard slot =>
      refine ⟨?_, fun _ => shaped.returning rfl, counted⟩
      exact fun frame mem isParting => dropped (parting frame mem isParting)
  | markIdle slot => exact ⟨parting, fun _ => shaped.returning rfl, counted⟩
  | pushIdle slot => exact .of_keeps rfl parting counted
  | act scope action => exact (plain_step s rfl).shaped dropped parting counted
  | script scope rest => exact (plain_step s rfl).shaped dropped parting counted
  | schedule => exact (plain_step s rfl).shaped dropped parting counted
  | perform slot work => exact (plain_step s rfl).shaped dropped parting counted
  | followUp slot status => exact (plain_step s rfl).shaped dropped parting counted

theorem Frame.shaped_resume {signal : Signal} {frame : Frame}
    (calm : ∀ message, signal ≠ .panicked message)
    (shaped : Moment.Shaped counts ⟨s, ⟨.signal signal, frame :: frames⟩⟩) :
    ((frame.resume s signal).onto frames).Shaped
      (Moment.tally counts ⟨s, ⟨.signal signal, frame :: frames⟩⟩) := by
  obtain ⟨parting, counted⟩ := shaped.below
  have dropped : s.phase = .dropped → (frame.resume s signal).state.phase = .dropped :=
    (frame.undisturbed_resume s signal).samePhase.trans
  have handed : ∀ other ∈ .reschedule :: frames, isParting other = true → s.phase = .dropped := by
    intro other mem isParting
    rcases List.mem_cons.mp mem with rfl | mem
    · simp [Frame.isParting] at isParting
    · exact parting other mem isParting
  cases frame with
  | bound slot =>
      have counted : counts.tail.length = frames.countP Frame.isBound := by
        rw [List.length_tail, counted]
        rfl
      cases signal with
      | returned answer => exact .of_keeps rfl parting counted
      | panicked message => exact absurd rfl (calm message)
      | _ => exact ⟨handed, fun _ => ⟨.reschedule, rfl, rfl⟩, counted⟩
  | completing slot =>
      cases signal with
      | panicked message => exact absurd rfl (calm message)
      | _ =>
          simp only [resume]
          split
          · exact ⟨handed, fun _ => ⟨.reschedule, rfl, rfl⟩, counted⟩
          · exact .of_keeps rfl parting counted
  | parting slot kept =>
      cases signal with
      | panicked message => exact absurd rfl (calm message)
      | _ =>
          refine .of_keeps rfl (fun other mem isParting => ?_) counted
          exact dropped (parting other mem isParting)
  | _ => exact (plain_resume s rfl signal).shaped dropped parting counted

/-- Every step that does not panic keeps the shape of the thread. -/
theorem Moment.Step.shaped {m after : Moment} (step : m.Step after)
    (calm : ∀ message, m.thread.control ≠ .signal (.panicked message))
    (shaped : m.Shaped counts) : after.Shaped (m.tally counts) := by
  cases step with
  | call s call frames => exact Call.shaped_step shaped
  | resume s signal frame frames =>
      exact Frame.shaped_resume (fun message same => calm message (congrArg Control.signal same))
        shaped
  | begin s signal action => exact ⟨nofun, nofun, shaped.counted⟩
  | deliver signal earlier later due => exact ⟨nofun, nofun, shaped.counted⟩
  | drop s signal => exact ⟨nofun, nofun, shaped.counted⟩

end Steps

end SlotDispatch
