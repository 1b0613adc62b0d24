import SlotDispatch.Proofs.Accounted
import SlotDispatch.Proofs.Conservation
import SlotDispatch.Proofs.Exclusivity
import SlotDispatch.Proofs.Shape

/-!
Why scheduling goes on by itself. As long as the dispatcher serves, either no unit of work
could be bound (`State.Quiet`), or somebody is bound to schedule: the owner of a slot, which
starts the slot or hands it back, or the thread itself, which has just triggered or is about
to. `Moment.Lively` is kept by every step in which code does what the dispatcher relies on.
-/

namespace SlotDispatch

/-- No unit of work waits, or no slot is idle that could be offered one, or a slot executes
whose completion will trigger scheduling. -/
def State.Quiet (s : State) : Prop :=
  s.queue = [] ∨ (∀ entry ∈ s.priorities, s.idle entry.name = []) ∨ s.running ≠ []

/-- The thread is about to schedule. On its walk over the devices it has passed no idle slot,
or it has handed one back and looks at the queue again. -/
def Moment.Heading (m : Moment) : Prop :=
  match m.thread with
  | ⟨.call .schedule, _⟩ => True
  | ⟨.call (.walk devices handedBack), _⟩ =>
      handedBack = true ∨ ∀ entry ∈ m.state.priorities, m.state.idle entry.name ≠ [] →
        entry.name ∈ devices
  | ⟨.signal (.returned _), frame :: _⟩ => frame.awaitsSlot = true
  | _ => False

/-- While the dispatcher serves, no slot goes astray and somebody schedules if it has to be. -/
structure Moment.Lively (counts : List Nat) (m : Moment) : Prop where
  attached : m.state.phase ≠ .dropped → m.state.Attached
  accounted : m.state.serving = true → m.state.Accounted (m.owners counts)
  stirred : m.state.serving = true → m.state.Quiet ∨ m.owners counts ≠ [] ∨ m.Heading

namespace State

theorem Undisturbed.quiet {s t : State} (same : Undisturbed s t) (quiet : s.Quiet) : t.Quiet := by
  unfold Quiet
  rw [same.sameQueue, same.samePriorities, same.running]
  exact quiet.imp_right (Or.imp_left fun idle entry mem =>
    (same.idle entry.name).trans (idle entry mem))

/-- Where no slot is owned and none executes, every slot is idle. -/
theorem Accounted.idle {s : State} (accounted : s.Accounted []) (still : s.running = [])
    (slot : SlotId) (present : s.hasSlot slot = true) : slot.index ∈ s.idle slot.device := by
  rcases accounted slot present with mem | running | mem
  · exact mem
  · have executes : slot ∈ s.running := mem_running running
    rw [still] at executes
    cases executes
  · cases mem

/-- Where every slot is idle and none could be offered a unit of work, none waits or no slot is
on a device of the list. -/
theorem Quiet.empty_or_unlisted {s : State} (quiet : s.Quiet) (still : s.running = [])
    (idle : ∀ slot : SlotId, s.hasSlot slot = true → slot.index ∈ s.idle slot.device) :
    s.queue = [] ∨ ∀ entry ∈ s.priorities, s.slotCount entry.name = 0 := by
  rcases quiet with empty | none | running
  · exact .inl empty
  · refine .inr fun entry mem => ?_
    rw [slotCount, List.countP_eq_zero]
    intro slot there at'
    have present : s.hasSlot slot.id = true := List.any_eq_true.mpr ⟨slot, there, by simp⟩
    have mem' := idle slot.id present
    rw [eq_of_beq at', none entry mem] at mem'
    cases mem'
  · exact absurd still running

theorem phase_of_serving {s : State} (serving : s.serving = true) : s.phase ≠ .dropped := by
  intro dropped
  simp [State.serving, dropped] at serving

end State

/-- The slots that a moment moves are there, each of them on a device. -/
structure Moment.Situated (m : Moment) : Prop where
  atHand : m.thread.Scoped
  moves : ∀ slot ∈ m.thread.control.holds, m.state.hasSlot slot = true
  starts : ∀ slot, m.thread.control = .call (.start slot) → m.state.hasSlot slot = true
  placed : ∀ slot : SlotId, m.state.hasSlot slot = true →
    (m.state.device? slot.device).isSome = true

theorem Moment.Sound.situated {first : State} {counts : List Nat} {m : Moment}
    (sound : m.Sound first counts) (careful : m.Careful counts) : m.Situated := by
  refine ⟨sound.atHand, fun slot mem => ?_, fun slot starts' => ?_, sound.exclusive.placed⟩
  · exact sound.exclusive.known slot (List.mem_append_left _ mem)
  · obtain ⟨-, -, own⟩ := careful.owns sound.atHand starts'
    exact sound.exclusive.known slot (List.mem_append_right _ own)

section Steps

variable {s : State} {frames : List Frame} {counts : List Nat}

/-- Who serves after a step has served before. -/
theorem Moment.Step.serving_before {m after : Moment} (step : m.Step after)
    (serving : after.state.serving = true) : m.state.serving = true := by
  rcases step.passes_or_ends with passes | ends
  · rw [← passes.serving]
    exact serving
  · simp [ends.closed] at serving

/-- A plain move in a state that is the same to scheduling. -/
theorem Move.Plain.stirred {move : Move} (plain : move.Plain) (same : s.Undisturbed move.state)
    (before : s.Quiet ∨ held frames counts ≠ []) :
    move.state.Quiet ∨ (move.onto frames).owners counts ≠ [] ∨ (move.onto frames).Heading := by
  rw [plain.owners]
  exact before.imp same.quiet .inl

theorem Move.Plain.accounted {move : Move} (plain : move.Plain) (same : s.SameSlots move.state)
    (before : s.Accounted (held frames counts)) :
    move.state.Accounted ((move.onto frames).owners counts) := by
  rw [plain.owners]
  exact before.of_sameSlots same (List.Subset.refl _)

/-- What an action leaves to be done is done at once. -/
theorem State.Acts.stirred {scope : Option Scope} {action : Action} {move : Move}
    (acts : s.Acts scope action move) (serving : move.state.serving = true)
    (before : s.Quiet ∨ held frames counts ≠ []) :
    move.state.Quiet ∨ (move.onto frames).owners counts ≠ [] ∨ (move.onto frames).Heading := by
  have plain := acts.flows.plain rfl
  cases acts with
  | submitted id script => exact .inr (.inr trivial)
  | requested id job cancelled handles frame => exact .inr (.inr trivial)
  | reordered entries text => exact .inr (.inr trivial)
  | shutDown => simp [Move.done, Move.answer, Move.signal, s.serving_shutdown] at serving
  | continued scope' id script => exact plain.stirred (undisturbed_setContinuation _ _ _) before
  | answered devices pending answer none pools =>
      exact plain.stirred ⟨⟨pools, rfl⟩, rfl, rfl, rfl⟩ before
  | _ => exact plain.stirred ⟨⟨rfl, rfl⟩, rfl, rfl, rfl⟩ before

/-- A start that is granted leaves its slot executing. -/
theorem State.quiet_started {slot : SlotId} (present : s.hasSlot slot = true) :
    (s.started slot).Quiet := by
  refine .inr (.inr fun none => ?_)
  have running : ((s.started slot).slot slot).running = true := by
    rw [started, slot_modifySlot (s := s.note (.started slot)) present (by intro; rfl), if_pos rfl]
  have mem := mem_running running
  simp [none] at mem

/-- A call leaves somebody to schedule, if a slot that is returned goes to a frame that does. -/
theorem Call.stirred_step {call : Call} (situated : Moment.Situated ⟨s, ⟨.call call, frames⟩⟩)
    (returning : (Control.call call).returns = true →
      ∃ frame ∈ frames.head?, frame.awaitsSlot = true)
    (attached : s.Attached) (serving : (call.step s).state.serving = true)
    (before : s.serving = true)
    (stirred : s.Quiet ∨ (Control.call call).holds ++ held frames counts ≠ []
      ∨ Moment.Heading ⟨s, ⟨.call call, frames⟩⟩) :
    (call.step s).state.Quiet
      ∨ ((call.step s).onto frames).owners (Moment.tally counts ⟨s, ⟨.call call, frames⟩⟩) ≠ []
      ∨ ((call.step s).onto frames).Heading := by
  have there := State.phase_of_serving before
  cases call with
  | act scope action =>
      exact (s.acts scope action).stirred serving
        (stirred.imp_right fun rest => rest.resolve_right not_false)
  | script scope rest =>
      cases rest with
      | nil =>
          exact (plain_step s rfl).stirred (.refl s)
            (stirred.imp_right fun rest => rest.resolve_right not_false)
      | cons action rest =>
          exact (plain_step s rfl).stirred (.refl s)
            (stirred.imp_right fun rest => rest.resolve_right not_false)
  | schedule =>
      simp only [step, before, if_true]
      exact .inr (.inr (.inr fun entry mem _ => List.mem_map_of_mem mem))
  | walk devices handedBack =>
      cases devices with
      | nil =>
          simp only [step]
          split
          · exact .inr (.inr trivial)
          · next settled =>
              rcases stirred with quiet | owned | back | passed
              · exact .inl quiet
              · exact .inr (.inl owned)
              · refine .inl (.inl ?_)
                change s.queue = []
                simpa [show handedBack = true from back] using settled
              · refine .inl (.inr (.inl fun entry mem => ?_))
                exact Classical.not_not.mp fun nonempty =>
                  List.not_mem_nil (passed entry mem nonempty)
      | cons device rest =>
          simp only [step]
          split
          · next none =>
              have none : s.idle device = [] := State.popIdle_eq_none_iff.mp none
              refine stirred.imp id (Or.imp id (Or.imp id fun idle entry mem nonempty => ?_))
              refine (List.mem_cons.mp (idle entry mem nonempty)).resolve_left
                fun same => nonempty ?_
              rw [same]
              exact none
          · exact .inr (.inl (List.cons_ne_nil _ _))
  | offer slot devices =>
      simp only [step]
      split <;> exact .inr (.inl (List.cons_ne_nil _ _))
  | bind slot work => exact .inr (.inl (List.cons_ne_nil _ _))
  | perform slot work =>
      exact (plain_step s rfl).stirred (undisturbed_perform s slot work)
        (stirred.imp_right fun rest => rest.resolve_right not_false)
  | start slot =>
      have present : s.hasSlot slot = true := situated.starts slot rfl
      rcases s.start_cases slot with ⟨error, refused, eq⟩ | ⟨granted, eq⟩
      · refine (plain_step s rfl).stirred (s := s) ?_ ?_
        · simp only [step, eq]
          exact ⟨⟨rfl, rfl⟩, rfl, rfl, rfl⟩
        · rw [Moment.tally_of_refused refused]
          exact stirred.imp_right fun rest => rest.resolve_right not_false
      · refine .inl ?_
        simp only [step, eq]
        exact (State.undisturbed_launch _ _ _).quiet (State.quiet_started present)
  | complete slot status =>
      have attached : ((s.modifySlot slot fun slot =>
          { slot with output := slot.input, running := false }).slot slot).attached = true :=
        (attached.modifySlot slot (by intro; rfl)).slot slot
      simp only [step, State.complete, attached, if_true]
      exact .inr (.inl (List.cons_ne_nil _ _))
  | notify slot status =>
      simp only [step, State.notify, there, if_false]
      exact .inr (.inl (List.cons_ne_nil _ _))
  | followUp slot status =>
      exact (plain_step s rfl).stirred (undisturbed_followUp s slot status)
        (stirred.imp_right fun rest => rest.resolve_right not_false)
  | discard slot => exact .inr (.inl (List.cons_ne_nil _ _))
  | markIdle slot => exact .inr (.inl (List.cons_ne_nil _ _))
  | pushIdle slot =>
      obtain ⟨frame, head, awaits⟩ := returning rfl
      obtain ⟨below, rfl⟩ : ∃ below, frames = frame :: below := by
        cases frames with
        | nil => simp at head
        | cons first below => exact ⟨below, by simpa using head⟩
      exact .inr (.inr awaits)

/-- No slot goes astray in a call. -/
theorem Call.accounted_step {call : Call} (situated : Moment.Situated ⟨s, ⟨.call call, frames⟩⟩)
    (careful : Moment.Careful counts ⟨s, ⟨.call call, frames⟩⟩) (attached : s.Attached)
    (there : s.phase ≠ .dropped)
    (accounted : s.Accounted (Moment.owners counts ⟨s, ⟨.call call, frames⟩⟩)) :
    (call.step s).state.Accounted
      (((call.step s).onto frames).owners (Moment.tally counts ⟨s, ⟨.call call, frames⟩⟩)) := by
  have own (slot : SlotId) (mem : slot ∈ (Control.call call).holds) : s.hasSlot slot = true :=
    situated.moves slot mem
  cases call with
  | walk devices handedBack =>
      cases devices with
      | nil =>
          have plain : (Call.step s (.walk [] handedBack)).Plain := plain_step s rfl
          refine plain.accounted ?_ accounted
          simp only [step]
          split <;> exact ⟨rfl, rfl⟩
      | cons device rest =>
          simp only [step]
          split
          · exact accounted
          · next index t popped =>
              obtain ⟨left, idle, rfl⟩ := State.popIdle_eq_some popped
              exact State.Accounted.popped accounted idle
  | offer slot devices =>
      simp only [step]
      split <;> exact accounted
  | bind slot work =>
      exact State.Accounted.modified accounted (own slot List.mem_cons_self)
        (by intro; rfl) (.inr List.mem_cons_self) fun other mem => .inr mem
  | start slot =>
      obtain ⟨runs, fresh, -⟩ := careful.owns situated.atHand rfl
      have present : s.hasSlot slot = true := situated.starts slot rfl
      have accounted : s.Accounted (held frames counts) := accounted
      rcases s.start_cases slot with ⟨error, refused, eq⟩ | ⟨granted, eq⟩
      · refine (plain_step s rfl).accounted (s := s) ?_ ?_
        · simp only [step, eq]
          exact ⟨rfl, rfl⟩
        · rw [Moment.tally_of_refused refused]
          exact accounted
      · have started : (s.started slot).Accounted (held frames (counts.modifyHead (· + 1))) := by
          rw [held_of_started runs fresh] at accounted
          exact State.Accounted.modified (s := s.note (.started slot)) accounted present
            (by intro; rfl) (.inl rfl) fun other mem => List.mem_cons.mp mem
        simp only [step, eq]
        rw [Moment.tally_of_granted granted]
        have plain := ((s.started slot).flows_launch slot (s.conduct slot.device)).plain rfl
        exact plain.accounted (State.undisturbed_launch _ _ _).toSameSlots started
  | complete slot status =>
      have running : (s.slot slot).running = true := careful.delivered slot status rfl
      have known : ((s.modifySlot slot fun slot =>
          { slot with output := slot.input, running := false }).slot slot).attached = true :=
        (attached.modifySlot slot (by intro; rfl)).slot slot
      simp only [step, State.complete, known, if_true]
      exact State.Accounted.modified accounted (State.hasSlot_of_running running) (by intro; rfl)
        (.inr List.mem_cons_self) fun other mem => .inr (List.mem_cons_of_mem _ mem)
  | notify slot status =>
      simp only [step, State.notify, there, if_false]
      exact State.Accounted.of_sameSlots accounted (undisturbed_notify s slot status).toSameSlots
        (List.Subset.refl _)
  | discard slot =>
      exact State.Accounted.of_sameSlots accounted
        (State.undisturbed_clearContinuation s slot).toSameSlots (List.Subset.refl _)
  | markIdle slot =>
      exact State.Accounted.modified accounted (own slot List.mem_cons_self)
        (by intro; rfl) (.inr List.mem_cons_self) fun other mem => .inr mem
  | pushIdle slot =>
      exact State.Accounted.pushed accounted
        (situated.placed slot (own slot List.mem_cons_self))
  | act scope action => exact (plain_step s rfl).accounted (sameSlots_step s rfl) accounted
  | script scope rest => exact (plain_step s rfl).accounted (sameSlots_step s rfl) accounted
  | schedule => exact (plain_step s rfl).accounted (sameSlots_step s rfl) accounted
  | perform slot work => exact (plain_step s rfl).accounted (sameSlots_step s rfl) accounted
  | followUp slot status => exact (plain_step s rfl).accounted (sameSlots_step s rfl) accounted

/-- No slot goes astray when a unit of work or a continuation ends, whether or not it panics,
as long as a unit that succeeds has started its slot. -/
theorem Frame.accounted_resume {signal : Signal} {frame : Frame}
    (thorough : Moment.Thorough counts ⟨s, ⟨.signal signal, frame :: frames⟩⟩)
    (there : frame.isParting = false) (before : s.serving = true)
    (accounted : s.Accounted (held (frame :: frames) counts)) :
    (frame.resume s signal).state.Accounted
      (((frame.resume s signal).onto frames).owners
        (Moment.tally counts ⟨s, ⟨.signal signal, frame :: frames⟩⟩)) := by
  have same := (frame.undisturbed_resume s signal).toSameSlots
  cases frame with
  | bound slot =>
      cases signal with
      | returned answer =>
          have spent : counts.head? ≠ some 0 := thorough answer slot frames rfl
          simp only [held, spent, if_false] at accounted
          have plain : Move.Plain (resume s (.bound slot) (.returned answer)) := .signal _ _
          exact plain.accounted same accounted
      | _ =>
          refine State.Accounted.of_sameSlots accounted same ?_
          simp only [held]
          split
          · exact List.Subset.refl _
          · exact List.subset_cons_self _ _
  | completing slot =>
      cases signal with
      | panicked message => exact accounted
      | _ =>
          simp only [resume, before, if_true]
          exact accounted
  | parting slot kept => cases there
  | _ =>
      rw [held_cons rfl] at accounted
      exact (plain_resume s rfl signal).accounted same accounted

/-- A frame leaves somebody to schedule, unless a panic ends the code that it stands for. -/
theorem Frame.stirred_resume {signal : Signal} {frame : Frame}
    (thorough : Moment.Thorough counts ⟨s, ⟨.signal signal, frame :: frames⟩⟩)
    (calm : frame.activation? ≠ none → ∀ message, signal ≠ .panicked message)
    (there : frame.isParting = false) (before : s.serving = true)
    (stirred : s.Quiet ∨ held (frame :: frames) counts ≠ []
      ∨ Moment.Heading ⟨s, ⟨.signal signal, frame :: frames⟩⟩) :
    (frame.resume s signal).state.Quiet
      ∨ ((frame.resume s signal).onto frames).owners
          (Moment.tally counts ⟨s, ⟨.signal signal, frame :: frames⟩⟩) ≠ []
      ∨ ((frame.resume s signal).onto frames).Heading := by
  have same := frame.undisturbed_resume s signal
  -- Frames that no code stands for pass on what is owned below them.
  have passes (waits : frame.activation? = none) (still : ¬ Moment.Heading
      ⟨s, ⟨.signal signal, frame :: frames⟩⟩) :
      (frame.resume s signal).state.Quiet
        ∨ ((frame.resume s signal).onto frames).owners counts ≠ []
        ∨ ((frame.resume s signal).onto frames).Heading := by
    rw [held_cons waits] at stirred
    exact (plain_resume s waits signal).stirred same
      (stirred.imp_right fun rest => rest.resolve_right still)
  cases frame with
  | walk devices =>
      cases signal with
      | returned answer => exact .inr (.inr (.inl rfl))
      | _ => exact passes rfl not_false
  | reschedule =>
      cases signal with
      | returned answer => exact .inr (.inr trivial)
      | _ => exact passes rfl not_false
  | bound slot =>
      cases signal with
      | returned answer =>
          have spent : counts.head? ≠ some 0 := thorough answer slot frames rfl
          simp only [held, spent, if_false] at stirred
          have plain : Move.Plain (resume s (.bound slot) (.returned answer)) := .signal _ _
          exact plain.stirred same
            (stirred.imp_right fun rest => rest.resolve_right
              (by simp [Moment.Heading, awaitsSlot]))
      | panicked message => exact absurd rfl (calm (Option.some_ne_none _) message)
      | _ => exact .inr (.inl (List.cons_ne_nil _ _))
  | completing slot =>
      cases signal with
      | panicked message => exact absurd rfl (calm (Option.some_ne_none _) message)
      | _ =>
          simp only [resume, before, if_true]
          exact .inr (.inl (List.cons_ne_nil _ _))
  | parting slot kept => cases there
  | _ => exact passes rfl (by cases signal <;> simp [Moment.Heading, awaitsSlot])

/-- Every step in which code does what the dispatcher relies on leaves it lively. -/
theorem Moment.Step.lively {m after : Moment} {first : State} (step : m.Step after)
    (sound : m.Sound first counts) (shaped : m.Shaped counts) (exact' : m.Exact counts)
    (lively : m.Lively counts) : after.Lively (m.tally counts) := by
  have there (stays : after.state.phase ≠ .dropped) : m.state.phase ≠ .dropped :=
    fun gone => stays (step.keeps_dropped gone)
  have before := step.serving_before
  cases step with
  | call s call frames =>
      have careful := exact'.tidy.toCareful
      have situated := sound.situated careful
      refine ⟨fun stays => (lively.attached (there stays)).call call, fun serving => ?_,
        fun serving => ?_⟩
      · have here := State.phase_of_serving (before serving)
        exact Call.accounted_step situated careful (lively.attached here) here
          (lively.accounted (before serving))
      · have here := State.phase_of_serving (before serving)
        exact Call.stirred_step situated shaped.returning (lively.attached here) serving
          (before serving) (lively.stirred (before serving))
  | resume s signal frame frames =>
      have parts (serving : s.serving = true) : frame.isParting = false :=
        Bool.eq_false_iff.mpr fun parts =>
          State.phase_of_serving serving (shaped.parting frame List.mem_cons_self parts)
      refine ⟨fun stays => (lively.attached (there stays)).resume signal fun slot kept same => ?_,
        fun serving => ?_, fun serving => ?_⟩
      · exact there stays (shaped.parting frame List.mem_cons_self (by rw [same]; rfl))
      · exact Frame.accounted_resume exact'.thorough (parts (before serving)) (before serving)
          (lively.accounted (before serving))
      · exact Frame.stirred_resume exact'.thorough
          (fun _ message same => exact'.calm message (congrArg Control.signal same))
          (parts (before serving)) (before serving) (lively.stirred (before serving))
  | begin s signal action =>
      refine ⟨lively.attached, lively.accounted, fun serving => ?_⟩
      exact .inl ((lively.stirred serving).resolve_right
        (by simp [owners, Control.holds, held, Heading]))
  | deliver signal earlier later due =>
      refine ⟨lively.attached, fun serving => ?_, fun serving => ?_⟩
      · exact State.Accounted.of_sameSlots (lively.accounted serving) ⟨rfl, rfl⟩
          (List.Subset.refl _)
      · have quiet := (lively.stirred serving).resolve_right
          (by simp [owners, Control.holds, held, Heading])
        exact .inl (State.Undisturbed.quiet ⟨⟨rfl, rfl⟩, rfl, rfl, rfl⟩ quiet)
  | drop s signal =>
      have gone := s.phase_drop
      refine ⟨fun stays => absurd gone stays, fun serving => ?_, fun serving => ?_⟩
      · exact absurd gone (State.phase_of_serving serving)
      · exact absurd gone (State.phase_of_serving serving)

end Steps

end SlotDispatch
