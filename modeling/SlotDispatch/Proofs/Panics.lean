import SlotDispatch.Proofs.Attachment
import SlotDispatch.Proofs.Progress
import SlotDispatch.Proofs.Mounting
import SlotDispatch.Proofs.Termination

/-!
What a panic does to slots and to queued work, where hooks of requests may panic. On its way
down the thread a panic takes from the code that it ends the slot that the code runs on, and
hands the slot back.

A unit of work whose start was granted has given its slot away by then. If the execution comes
to an end within the start and the last hook panics, the slot is handed back twice, by the
continuation and by the unit: `panics_can_return_slots_twice` is such a run. No slot is returned
twice as long as units end in this way only before their start is granted
(`slots_return_once`).

A slot that is handed back in a panic triggers no scheduling, unlike one that a unit of work
hands back when it fails. Work may be left waiting with nothing on its way
(`panics_can_strand_work`). But no slot is lost, and work is left waiting only if nobody has
scheduled since a panic handed a slot back (`work_waits_only_after_panics`).
-/

namespace SlotDispatch

/-! ### Slots return once -/

/-- At this moment no unit of work fails or panics that has started its slot. -/
def Moment.Unspent (counts : List Nat) (m : Moment) : Prop :=
  ∀ signal slot frames, m.thread = ⟨.signal signal, .bound slot :: frames⟩ →
    (∀ answer, signal ≠ .returned answer) → counts.head? = some 0

/-- `Moment.Unspent`, computed. -/
def Moment.isUnspent (counts : List Nat) (m : Moment) : Bool :=
  match m.thread with
  | ⟨.signal (.returned _), _⟩ => true
  | ⟨.signal _, .bound _ :: _⟩ => counts.head? == some 0
  | _ => true

theorem Moment.unspent_of_isUnspent {counts : List Nat} {m : Moment}
    (checked : m.isUnspent counts = true) : m.Unspent counts := by
  intro signal slot frames same fails
  cases signal with
  | returned answer => exact absurd rfl (fails answer)
  | _ => simpa [isUnspent, same] using checked

section Runs

variable {backends : List Backend} {priorities : List Preference} {s : State}
  {past : List Moment} {now : Moment}

/-- No slot is returned to its pool twice, whichever hooks of requests fail or panic, as long as
no unit of work does so that has started its slot. In every state each pool holds every slot at
most once and no more slots than its device has, and none of them executes. -/
theorem slots_return_once (built : (construct backends priorities).result = .ok s)
    (run : Run (.initial s) past now) (modest : ∀ m ∈ past, m.Modest)
    (unspent : Throughout Moment.Unspent past) (name : String) :
    (now.state.idle name).Nodup
      ∧ (now.state.idle name).length ≤ now.state.slotCount name
      ∧ ∀ index ∈ now.state.idle name, now.state.hasSlot ⟨name, index⟩ = true
        ∧ (now.state.slot ⟨name, index⟩).running = false := by
  obtain ⟨-, careful, -⟩ := run.mounted built modest
  have tidy : Throughout Moment.Tidy past := fun before m after split =>
    ⟨careful before m after split, unspent before m after split⟩
  have sound := run.sound_of_tidy built tidy
  have counted := sound.exclusive.idle_add_outside sound.distinct name
  refine ⟨sound.exclusive.pooled name, by omega, fun index idle => ?_⟩
  have resting := sound.exclusive.resting ⟨name, index⟩ idle
  exact ⟨resting.1, resting.2.1⟩

end Runs

/-- One slot, and a request whose first hook panics: its slot is back in the pool, once. -/
theorem slots_return_once_single :
    let (past, now) := (Moment.initial (.single ⟨.immediate, .ok, none⟩)).operations 60
      [.request "r" "v" false [.panic "boom"] []]
    (∀ m ∈ past, m.Modest) ∧ Throughout Moment.Unspent past
      ∧ now.thread = ⟨.signal (.panicked "boom"), []⟩ ∧ now.state.idle "A" = [0]
      ∧ (now.state.slot ⟨"A", 0⟩).running = false := by
  have run := Run.operations 60 (.initial (.single ⟨.immediate, .ok, none⟩))
    [.request "r" "v" false [.panic "boom"] []]
  generalize played : Moment.operations 60 _ _ = outcome at run
  have modest : ∀ m ∈ outcome.1, m.Modest := by
    subst played
    exact fun m mem => Moment.modest_of_isModest (List.all_eq_true.mp (by decide +kernel) m mem)
  have unspent : Throughout Moment.Unspent outcome.1 := by
    subst played
    exact throughout_of_passes (fun _ _ => Moment.unspent_of_isUnspent) (by decide +kernel)
  have idle : outcome.2.state.idle "A" = [0] := by
    subst played
    decide +kernel
  obtain ⟨-, -, resting⟩ := slots_return_once (State.construct_single _) run modest unspent "A"
  refine ⟨modest, unspent, ?_, idle, (resting 0 (by simp [idle])).2⟩
  subst played
  rfl

/-- A request whose execution ends within its start and whose last hook then panics has its
slot returned twice. -/
theorem panics_can_return_slots_twice :
    ¬ ∀ (backends : List Backend) (priorities : List Preference) (s : State)
        (past : List Moment) (now : Moment),
      (construct backends priorities).result = .ok s → Run (.initial s) past now →
        (∀ m ∈ past, m.Modest) → now.AtRest → ∀ name, (now.state.idle name).Nodup
          ∧ (now.state.idle name).length ≤ now.state.slotCount name
          ∧ ∀ index ∈ now.state.idle name, (now.state.slot ⟨name, index⟩).running = false := by
  intro claim
  have once := claim _ _ (.single ⟨.immediate, .ok, none⟩) _ _ (State.construct_single _)
    (Run.operations 60 _ [.request "r" "v" false [] [.panic "boom"]])
    (fun m mem => Moment.modest_of_isModest (List.all_eq_true.mp (by decide +kernel) m mem))
    ⟨.panicked "boom", rfl⟩ "A"
  exact absurd once.2.1 (by decide +kernel)

/-! ### Nobody schedules after a panic -/

/-- A panic ends the code that runs on a slot, which is then handed back. -/
def Moment.Evicts (m : Moment) : Prop :=
  ∃ message frame below, m.thread = ⟨.signal (.panicked message), frame :: below⟩
    ∧ frame.activation? ≠ none

/-- A panic has had a slot handed back, and nobody has scheduled since. -/
def Stalled (past : List Moment) : Prop :=
  ∃ before m after, past = before ++ m :: after ∧ m.Evicts
    ∧ ∀ other ∈ after, other.thread.control ≠ .call .schedule

/-- While the dispatcher serves, every slot is idle, executes or is owned, and somebody
schedules if it has to be, unless a panic has come in between. -/
structure Moment.Attended (past : List Moment) (counts : List Nat) (m : Moment) : Prop where
  returning : m.thread.control.returns = true →
    (∃ frame ∈ m.thread.frames.head?, frame.awaitsSlot = true) ∨ Stalled past
  accounted : m.state.serving = true → m.state.Accounted (m.owners counts)
  stirred : m.state.serving = true →
    (m.state.Quiet ∨ m.owners counts ≠ [] ∨ m.Heading) ∨ Stalled past

theorem Moment.Evicts.stalled {past : List Moment} {m : Moment} (evicts : m.Evicts) :
    Stalled (past ++ [m]) := ⟨past, m, [], rfl, evicts, List.forall_mem_nil _⟩

theorem Stalled.next {past : List Moment} {m : Moment} (stalled : Stalled past)
    (idles : m.thread.control ≠ .call .schedule) : Stalled (past ++ [m]) := by
  obtain ⟨before, first, after, rfl, evicts, none⟩ := stalled
  refine ⟨before, first, after ++ [m], by simp, evicts, fun other mem => ?_⟩
  rcases List.mem_append.mp mem with mem | mem
  · exact none other mem
  · rwa [List.mem_singleton.mp mem]

/-- A signal that is handed back schedules nothing. -/
theorem Stalled.signal {past : List Moment} (stalled : Stalled past) (s : State) (signal : Signal)
    (frames : List Frame) : Stalled (past ++ [⟨s, ⟨.signal signal, frames⟩⟩]) :=
  stalled.next (by simp)

section Steps

variable {s : State} {frames : List Frame} {counts : List Nat} {past : List Moment}

/-- Control that hands no slot back asks nothing of the frames below it. -/
theorem Moment.Attended.of_keeps {m : Moment} (keeps : m.thread.control.returns = false)
    (accounted : m.state.serving = true → m.state.Accounted (m.owners counts))
    (stirred : m.state.serving = true →
      (m.state.Quiet ∨ m.owners counts ≠ [] ∨ m.Heading) ∨ Stalled past) :
    m.Attended past counts :=
  ⟨by simp [keeps], accounted, stirred⟩

/-- A slot that a call puts on its way back goes to a frame that schedules next, or was on its
way already. -/
theorem Call.Flows.returning {call : Call} {move : Move} (flows : call.Flows move)
    (returns : move.control.returns = true) :
    (Control.call call).returns = true ∧ move.frames = []
      ∨ ∃ frame ∈ move.frames.head?, frame.awaitsSlot = true := by
  cases flows with
  | unused slot devices t => exact .inr ⟨.walk devices, rfl, rfl⟩
  | discard | markIdle => exact .inl ⟨rfl, rfl⟩
  | _ => cases returns

/-- A frame that puts a slot on its way back schedules next, unless a panic ends its code. -/
theorem Frame.returning_resume {frame : Frame} {signal : Signal}
    (calm : frame.activation? ≠ none → ∀ message, signal ≠ .panicked message)
    (returns : (frame.resume s signal).control.returns = true) :
    ∃ next ∈ (frame.resume s signal).frames.head?, next.awaitsSlot = true := by
  generalize eq : frame.resume s signal = move at returns ⊢
  have flows := frame.flows s signal
  rw [eq] at flows
  cases flows with
  | unbound | completed => exact ⟨.reschedule, rfl, rfl⟩
  | unboundInPanic slot message t =>
      cases signal with
      | panicked message => exact absurd rfl (calm (Option.some_ne_none _) message)
      | _ => cases congrArg Move.frames eq
  | completedInPanic slot message t =>
      cases signal with
      | panicked message => exact absurd rfl (calm (Option.some_ne_none _) message)
      | _ =>
          simp only [resume] at eq
          split at eq <;> cases congrArg Move.frames eq
  | _ => cases returns

theorem Call.attended_step {call : Call} (situated : Moment.Situated ⟨s, ⟨.call call, frames⟩⟩)
    (careful : Moment.Careful counts ⟨s, ⟨.call call, frames⟩⟩)
    (linked : Moment.Linked ⟨s, ⟨.call call, frames⟩⟩)
    (attended : Moment.Attended past counts ⟨s, ⟨.call call, frames⟩⟩) :
    ((call.step s).onto frames).Attended (past ++ [⟨s, ⟨.call call, frames⟩⟩])
      (Moment.tally counts ⟨s, ⟨.call call, frames⟩⟩) := by
  have before (serving : (call.step s).state.serving = true) : s.serving = true :=
    (Moment.Step.call s call frames).serving_before serving
  refine ⟨fun returns => ?_, fun serving => ?_, fun serving => ?_⟩
  · rcases (call.flows s).returning returns with ⟨returned, none⟩ | ⟨frame, head, awaits⟩
    · rcases attended.returning returned with awaits | stalled
      · simp only [Move.onto, none, List.nil_append]
        exact .inl awaits
      · refine .inr (stalled.next ?_)
        rintro ⟨⟩
        cases returned
    · simp only [Move.onto]
      cases added : (call.step s).frames with
      | nil =>
          rw [added] at head
          cases head
      | cons first rest =>
          rw [added] at head
          exact .inl ⟨frame, head, awaits⟩
  · have here := State.phase_of_serving (before serving)
    exact Call.accounted_step situated careful (linked.attached here) here
      (attended.accounted (before serving))
  · have here := State.phase_of_serving (before serving)
    by_cases schedules : call = .schedule
    · -- The walk that begins is over all devices of the list.
      subst schedules
      simp only [step, before serving, if_true]
      exact .inl (.inr (.inr (.inr fun entry mem _ => List.mem_map_of_mem mem)))
    · have stays (stalled : Stalled past) : Stalled (past ++ [⟨s, ⟨.call call, frames⟩⟩]) :=
        stalled.next fun same => schedules (Control.call.inj same)
      rcases attended.stirred (before serving) with stirred | stalled
      · by_cases awaits : (Control.call call).returns = true →
            ∃ frame ∈ frames.head?, frame.awaitsSlot = true
        · exact .inl (Call.stirred_step situated awaits (linked.attached here) serving
            (before serving) stirred)
        · obtain ⟨returns, none⟩ := Classical.not_imp.mp awaits
          exact .inr (stays ((attended.returning returns).resolve_left none))
      · exact .inr (stays stalled)

theorem Frame.attended_resume {frame : Frame} {signal : Signal}
    (thorough : Moment.Thorough counts ⟨s, ⟨.signal signal, frame :: frames⟩⟩)
    (linked : Moment.Linked ⟨s, ⟨.signal signal, frame :: frames⟩⟩)
    (attended : Moment.Attended past counts ⟨s, ⟨.signal signal, frame :: frames⟩⟩) :
    ((frame.resume s signal).onto frames).Attended
      (past ++ [⟨s, ⟨.signal signal, frame :: frames⟩⟩])
      (Moment.tally counts ⟨s, ⟨.signal signal, frame :: frames⟩⟩) := by
  have before (serving : (frame.resume s signal).state.serving = true) : s.serving = true :=
    (Moment.Step.resume s signal frame frames).serving_before serving
  have parts (serving : s.serving = true) : frame.isParting = false :=
    Bool.eq_false_iff.mpr fun parts =>
      State.phase_of_serving serving (linked.parting frame List.mem_cons_self parts)
  have accounted (serving : (frame.resume s signal).state.serving = true) :=
    Frame.accounted_resume thorough (parts (before serving)) (before serving)
      (attended.accounted (before serving))
  by_cases evicts : Moment.Evicts ⟨s, ⟨.signal signal, frame :: frames⟩⟩
  · exact ⟨fun _ => .inr evicts.stalled, accounted, fun _ => .inr evicts.stalled⟩
  · have calm : frame.activation? ≠ none → ∀ message, signal ≠ .panicked message := by
      rintro runs message rfl
      exact evicts ⟨message, frame, frames, rfl, runs⟩
    refine ⟨fun returns => ?_, accounted, fun serving => ?_⟩
    · obtain ⟨next, head, awaits⟩ := Frame.returning_resume calm returns
      refine .inl ⟨next, ?_, awaits⟩
      simp only [Move.onto]
      cases added : (frame.resume s signal).frames with
      | nil =>
          rw [added] at head
          cases head
      | cons first rest =>
          rw [added] at head
          exact head
    · rcases attended.stirred (before serving) with stirred | stalled
      · exact .inl (Frame.stirred_resume thorough calm (parts (before serving)) (before serving)
          stirred)
      · exact .inr (stalled.signal s signal (frame :: frames))

/-- Every step leaves somebody to schedule, or a panic has come in between. -/
theorem Moment.Step.attended {m after : Moment} (step : m.Step after) (situated : m.Situated)
    (careful : m.Careful counts) (thorough : m.Thorough counts) (linked : m.Linked)
    (attended : m.Attended past counts) : after.Attended (past ++ [m]) (m.tally counts) := by
  cases step with
  | call s call frames => exact Call.attended_step situated careful linked attended
  | resume s signal frame frames => exact Frame.attended_resume thorough linked attended
  | begin s signal action =>
      refine .of_keeps rfl attended.accounted fun serving => ?_
      rcases attended.stirred serving with stirred | stalled
      · have quiet := stirred.resolve_right (by simp [owners, Control.holds, held, Heading])
        exact .inl (.inl quiet)
      · exact .inr (stalled.signal s signal [])
  | @deliver s slot status signal earlier later due =>
      refine .of_keeps rfl (fun serving => ?_) fun serving => ?_
      · exact State.Accounted.of_sameSlots (attended.accounted serving) ⟨rfl, rfl⟩
          (List.Subset.refl _)
      · rcases attended.stirred serving with stirred | stalled
        · have quiet := stirred.resolve_right (by simp [owners, Control.holds, held, Heading])
          exact .inl (.inl (State.Undisturbed.quiet ⟨⟨rfl, rfl⟩, rfl, rfl, rfl⟩ quiet))
        · exact .inr (stalled.signal s signal [])
  | drop s signal =>
      have gone := s.phase_drop
      refine .of_keeps rfl (fun serving => ?_) fun serving => ?_
      · exact absurd gone (State.phase_of_serving serving)
      · exact absurd gone (State.phase_of_serving serving)

end Steps

/-! ### The law -/

/-- Every slot is on a device, since neither is ever removed. -/
theorem Run.placed {backends : List Backend} {priorities : List Preference} {s : State}
    {past : List Moment} {now : Moment}
    (built : (construct backends priorities).result = .ok s) (run : Run (.initial s) past now)
    (slot : SlotId) (present : now.state.hasSlot slot = true) :
    (now.state.device? slot.device).isSome = true := by
  rw [State.hasSlot_iff] at present
  rw [State.device?_isSome_iff]
  induction run with
  | start =>
      obtain ⟨configured, distinct, rfl⟩ := construct_ok built
      rw [← State.hasSlot_iff] at present
      exact State.device?_isSome_iff.mp
        ((State.exclusive_ofConfigured distinct).placed slot present)
  | next run step ih =>
      rw [step.keeps_slots] at present
      rw [step.keeps_devices]
      exact ih present

/-- A slot that a control has in its hands is one that it moves. -/
theorem Control.holds_subset_touches (control : Control) : control.holds ⊆ control.touches := by
  intro slot mem
  unfold touches
  split
  · cases mem
  · exact mem

section Runs

variable {backends : List Backend} {priorities : List Preference} {s : State}
  {past : List Moment} {now : Moment}

/-- The slots that a run moves are there, each of them on a device. -/
theorem Run.situated (built : (construct backends priorities).result = .ok s)
    (run : Run (.initial s) past now) : now.Situated := by
  have grounded := run.grounded built
  have known (slot : SlotId) (mem : slot ∈ now.state.slots.map Slot.id) :
      now.state.hasSlot slot = true := State.hasSlot_iff.mpr mem
  refine ⟨grounded.atHand, fun slot mem => known slot ?_, fun slot same => known slot ?_,
    run.placed built⟩
  · exact grounded.known.control slot (now.thread.control.holds_subset_touches mem)
  · apply mem_of_slotAtHand grounded.known.frames
    exact grounded.atHand.control slot (by rw [same]; rfl)

/-- A run of requests leaves somebody to schedule at every moment, or a panic has come in
between. -/
theorem Run.attended (built : (construct backends priorities).result = .ok s)
    (run : Run (.initial s) past now) (modest : ∀ m ∈ past, m.Modest) :
    now.Attended past (starts past) := by
  induction run with
  | start =>
      obtain ⟨configured, distinct, rfl⟩ := construct_ok built
      have lively : (Moment.initial (.ofConfigured configured priorities)).Lively [] :=
        State.lively_ofConfigured distinct
      exact ⟨nofun, lively.accounted, fun serving => .inl (lively.stirred serving)⟩
  | @next past now after run step ih =>
      have earlier : ∀ m ∈ past, m.Modest := fun m mem => modest m (List.mem_append_left _ mem)
      obtain ⟨mounted, -⟩ := run.mounted built earlier
      have careful := mounted.careful (modest now (by simp))
      rw [starts_append_singleton]
      exact step.attended (run.situated built) careful mounted.thorough (run.linked built)
        (ih earlier)

/-- Work waits only after panics. Between operations of a run of requests, whichever of their
hooks fail or panic, every slot of a dispatcher that serves is idle or executes. And a slot
executes, no unit of work waits, or no device of the list has a slot, unless a panic has had a
slot handed back and nobody has scheduled since. -/
theorem work_waits_only_after_panics (built : (construct backends priorities).result = .ok s)
    (run : Run (.initial s) past now) (modest : ∀ m ∈ past, m.Modest) (atRest : now.AtRest)
    (serving : now.state.serving = true) :
    (∀ slot : SlotId, now.state.hasSlot slot = true →
        slot.index ∈ now.state.idle slot.device ∨ (now.state.slot slot).running = true)
      ∧ ((now.state.running ≠ [] ∨ now.state.queue = []
          ∨ ∀ entry ∈ now.state.priorities, now.state.slotCount entry.name = 0)
        ∨ Stalled past) := by
  have attended := run.attended built modest
  obtain ⟨t, thread⟩ := now
  obtain ⟨signal, rfl⟩ := atRest
  have accounted : t.Accounted [] := attended.accounted serving
  refine ⟨fun slot present => ?_, ?_⟩
  · exact (accounted slot present).imp_right fun rest => rest.resolve_right nofun
  · refine (attended.stirred serving).imp_left fun stirred => ?_
    have quiet : t.Quiet := stirred.resolve_right
      (by simp [Moment.owners, Control.holds, held, Moment.Heading])
    by_cases still : t.running = []
    · exact .inr (quiet.empty_or_unlisted still (accounted.idle still))
    · exact .inl still

end Runs

/-- One slot and three requests. When the first is done, the first hook of the second panics,
and the third waits although the slot is idle. -/
theorem work_waits_only_after_panics_single :
    let (past, now) := (Moment.initial (.single ⟨.manual, .ok, none⟩)).operations 60
      [.request "q" "x" false [] [], .request "r" "y" false [.panic "boom"] [],
        .request "s" "z" false [] [], .complete ⟨"A", 0⟩ .ok]
    (∀ m ∈ past, m.Modest) ∧ now.thread = ⟨.signal (.panicked "boom"), []⟩
      ∧ now.state.queue.length = 1 ∧ Stalled past := by
  have run := Run.operations 60 (.initial (.single ⟨.manual, .ok, none⟩))
    [.request "q" "x" false [] [], .request "r" "y" false [.panic "boom"] [],
      .request "s" "z" false [] [], .complete ⟨"A", 0⟩ .ok]
  generalize played : Moment.operations 60 _ _ = outcome at run
  have modest : ∀ m ∈ outcome.1, m.Modest := by
    subst played
    exact fun m mem => Moment.modest_of_isModest (List.all_eq_true.mp (by decide +kernel) m mem)
  have panicked : outcome.2.thread = ⟨.signal (.panicked "boom"), []⟩ := by
    subst played
    rfl
  have serving : outcome.2.state.serving = true := by
    subst played
    rfl
  obtain ⟨-, law⟩ := work_waits_only_after_panics (State.construct_single _) run modest
    ⟨_, panicked⟩ serving
  refine ⟨modest, panicked, ?_, law.resolve_left ?_⟩
  · subst played
    decide +kernel
  · subst played
    decide +kernel

/-- So a unit of work can wait after a panic with an idle slot on a listed device and nothing
executing. -/
theorem panics_can_strand_work :
    ¬ ∀ (backends : List Backend) (priorities : List Preference) (s : State)
        (past : List Moment) (now : Moment) (message : String),
      (construct backends priorities).result = .ok s → Run (.initial s) past now →
        (∀ m ∈ past, m.Modest) → now.thread = ⟨.signal (.panicked message), []⟩ →
          now.state.serving = true → now.state.running ≠ [] ∨ now.state.queue = []
            ∨ ∀ entry ∈ now.state.priorities, now.state.slotCount entry.name = 0 := by
  intro claim
  have law := claim _ _ (.single ⟨.manual, .ok, none⟩) _ _ "boom" (State.construct_single _)
    (Run.operations 60 _ [.request "q" "x" false [] [], .request "r" "y" false [.panic "boom"] [],
      .request "s" "z" false [] [], .complete ⟨"A", 0⟩ .ok])
    (fun m mem => Moment.modest_of_isModest (List.all_eq_true.mp (by decide +kernel) m mem))
    rfl rfl
  exact absurd law (by decide +kernel)

end SlotDispatch
