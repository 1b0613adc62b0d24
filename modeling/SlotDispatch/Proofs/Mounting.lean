import SlotDispatch.Proofs.Conservation
import SlotDispatch.Proofs.Stacking

/-!
How a thread is stacked while requests are all that it runs and their hooks may panic.
`Stacked` takes that whatever fails has a frame that takes the failure, and that nothing
panics. Less than that is enough to know who starts a slot: hooks and starts of requests lie
right above the unit that they belong to, and nothing else does (`Piled`). Hence a unit of
work is the only one to start its slot, it does so once, and it succeeds only if it has
(`Run.mounted`), whichever hooks panic and wherever the panics go.
-/

namespace SlotDispatch

/-! ### Runs of requests whose hooks may panic -/

/-- Whether an action may stand in a hook that may panic, or outside of scripts while requests
are all that is run. -/
def Action.isModest : Action → Bool
  | .panic _ => true
  | action => action.isGentle

/-- At this moment completions come only from executing slots, and requests are all that
callers add. Hooks may panic. -/
structure Moment.Modest (m : Moment) : Prop where
  delivered : ∀ slot status, m.thread.control = .call (.complete slot status) →
    (m.state.slot slot).running = true
  acts : ∀ scope action, m.thread.control = .call (.act scope action) → action.isModest = true

/-- `Moment.Modest`, computed. -/
def Moment.isModest (m : Moment) : Bool :=
  match m.thread.control with
  | .call (.complete slot _) => (m.state.slot slot).running
  | .call (.act _ action) => action.isModest
  | _ => true

theorem Moment.modest_of_isModest {m : Moment} (checked : m.isModest = true) : m.Modest := by
  constructor
  · intro slot status same
    simpa [isModest, same] using checked
  · intro scope action same
    simpa [isModest, same] using checked

/-- Nothing but the unit of a request is submitted. -/
theorem State.isRequest_of_acceptedUnit? {s : State} {action : Action} {work : Work}
    (modest : action.isModest = true) (accepted : s.acceptedUnit? action = some work) :
    work.isRequest = true := by
  simp only [acceptedUnit?] at accepted
  split at accepted
  · cases action with
    | submit id script => cases modest
    | request id value cancelled prepare complete =>
        cases accepted
        rfl
    | infer id value prepare complete =>
        cases accepted
        rfl
    | _ => cases accepted
  · cases accepted

/-- So the units of work that wait, or are on their way to their slots, stay those of
requests. -/
theorem Moment.Step.keeps_requests {m after : Moment} (step : m.Step after) (modest : m.Modest)
    (requests : ∀ work ∈ m.inHand ++ m.state.queue, work.isRequest = true) :
    ∀ work ∈ after.inHand ++ after.state.queue, work.isRequest = true := by
  intro work mem
  rcases step.passes_or_ends with passes | ends
  · have among : work ∈ m.inHand ++ m.state.queue ++ m.accepts := by
      rw [← passes.units, List.append_assoc]
      exact List.mem_append_right _ mem
    rcases List.mem_append.mp among with before | accepted
    · exact requests work before
    · simp only [accepts] at accepted
      split at accepted
      · next scope action same =>
          exact State.isRequest_of_acceptedUnit? (modest.acts scope action same)
            (Option.mem_toList.mp accepted)
      · cases accepted
  · rw [ends.idle.2.2.2, ends.emptied] at mem
    cases mem

/-! ### What lies on what -/

/-- The uppermost frame is not that of a unit of work. -/
def OffUnit (frames : List Frame) : Prop := ∀ frame ∈ frames.head?, frame.isBound = false

theorem offUnit_nil : OffUnit [] := by simp [OffUnit]

/-- The first hook of a request and the start of its slot lie on the unit that they belong to,
and nothing else lies on a unit. A unit whose hook runs has not started its slot. One whose
start is under way has, unless the start is about to be made or has failed (`open'`), which
can be so at the top only. -/
def Piled (open' : Bool) : List Frame → List Nat → Prop
  | [], _ => True
  | .preparing slot _ _ _ :: below, counts =>
      foremost below = some (.unit, slot) ∧ counts.head? = some 0 ∧ Piled false below counts
  | .starting slot _ :: below, counts =>
      foremost below = some (.unit, slot) ∧ (open' = false → counts.head? ≠ some 0)
        ∧ Piled false below counts
  | .bound _ :: below, counts => OffUnit below ∧ Piled false below counts.tail
  | _ :: below, counts => OffUnit below ∧ Piled false below counts

/-- The start at the top may not have been granted. -/
def Control.isOpen : Control → Bool
  | .call (.start _) => true
  | .call _ | .signal (.returned _) => false
  | .signal _ => true

/-- The control finds the frames that it belongs on. Above a unit of work only its own code
begins, and only if it has started its slot does it return. -/
def Seated (frames : List Frame) (counts : List Nat) : Control → Prop
  | .call (.perform slot _) => foremost frames = some (.unit, slot) ∧ counts.head? = some 0
  | .call (.start slot) => counts.head? = some 0
      ∧ ∃ number below, frames = .starting slot number :: below
  | .call _ => OffUnit frames
  | .signal (.returned _) => OffUnit frames ∨ counts.head? ≠ some 0
  | .signal _ => True

/-- Requests are all that is run at this moment, and the thread is stacked accordingly. -/
structure Moment.Mounted (counts : List Nat) (m : Moment) : Prop where
  requests : ∀ work ∈ m.inHand ++ m.state.queue, work.isRequest = true
  piled : Piled m.thread.control.isOpen m.thread.frames counts
  seated : Seated m.thread.frames counts m.thread.control

section Steps

variable {s : State} {frames : List Frame} {counts : List Nat}

/-- What is so wherever a start has been granted is so at the top of all. -/
theorem Piled.mono (open' : Bool) (piled : Piled false frames counts) :
    Piled open' frames counts := by
  cases frames with
  | nil => trivial
  | cons frame below =>
      cases frame with
      | starting slot number =>
          obtain ⟨runs, spent, piled⟩ := piled
          exact ⟨runs, fun _ => spent rfl, piled⟩
      | _ => exact piled

/-! ### Moves that touch no unit of work -/

/-- Whether a frame is neither a unit of work nor lies on one. -/
def Frame.isApart : Frame → Bool
  | .bound _ | .preparing _ _ _ _ | .starting _ _ => false
  | _ => true

/-- Whether a call may be made off all units of work only. -/
def Call.isApart : Call → Bool
  | .perform _ _ | .start _ => false
  | _ => true

/-- A move after which neither the control nor a frame that was added belongs on a unit of
work. -/
structure Move.Apart (move : Move) : Prop where
  control : ∀ call, move.control = .call call → call.isApart = true
  frames : ∀ frame ∈ move.frames, frame.isApart = true

theorem Move.Apart.signal (s : State) (signal : Signal) : (Move.signal s signal).Apart :=
  ⟨nofun, nofun⟩

theorem Move.Apart.call {call : Call} (apart : call.isApart = true) : (Move.call s call).Apart := by
  refine ⟨?_, nofun⟩
  rintro _ ⟨⟩
  exact apart

theorem Move.Apart.await {call : Call} {frame : Frame} (apart : call.isApart = true)
    (off : frame.isApart = true) : (Move.await s call frame).Apart := by
  refine ⟨?_, fun other mem => ?_⟩
  · rintro _ ⟨⟩
    exact apart
  · rw [List.mem_singleton.mp mem]
    exact off

/-- Off all units of work, such a move leaves the thread stacked as it should be. -/
theorem Move.Apart.stacked {move : Move} (apart : move.Apart) (off : OffUnit frames)
    (piled : Piled false frames counts) :
    Piled move.control.isOpen (move.frames ++ frames) counts
      ∧ Seated (move.frames ++ frames) counts move.control := by
  have above : ∀ added : List Frame, (∀ frame ∈ added, frame.isApart = true) →
      OffUnit (added ++ frames) ∧ Piled false (added ++ frames) counts := by
    intro added
    induction added with
    | nil => exact fun _ => ⟨off, piled⟩
    | cons frame rest ih =>
        intro isApart
        have here := isApart frame List.mem_cons_self
        obtain ⟨offRest, piledRest⟩ := ih
          fun other mem => isApart other (List.mem_cons_of_mem _ mem)
        have own : frame.isBound = false := by
          cases frame <;> first | rfl | cases here
        refine ⟨fun other mem => ?_, ?_⟩
        · obtain rfl : frame = other := Option.some.inj mem
          exact own
        · cases frame with
          | bound | preparing | starting => cases here
          | _ => exact ⟨offRest, piledRest⟩
  obtain ⟨off, piled⟩ := above move.frames apart.frames
  refine ⟨piled.mono _, ?_⟩
  obtain ⟨t, control, added⟩ := move
  cases control with
  | call call =>
      have own := apart.control call rfl
      cases call with
      | perform | start => cases own
      | _ => exact off
  | signal signal =>
      cases signal with
      | returned answer => exact .inl off
      | _ => trivial

/-- The calls that are made off all units of work and run none. -/
def Call.staysApart : Call → Bool
  | .act _ _ | .bind _ _ | .perform _ _ | .start _ => false
  | _ => true

theorem Call.Flows.stacksApart {call : Call} {move : Move} (flows : call.Flows move)
    (stays : call.staysApart = true) : move.Apart := by
  cases flows with
  | ends => exact .signal _ _
  | schedule | again | onward | found | used | notify | continues | discard | markIdle =>
      exact .call rfl
  | script | unused | completing | parting | collects => exact .await rfl rfl
  | _ => cases stays

theorem State.Acts.stacksApart {scope : Option Scope} {action : Action} {move : Move}
    (acts : s.Acts scope action move) (starts : action ≠ .start) (tries : action ≠ .tryStart) :
    move.Apart := by
  cases acts with
  | submitted | reordered | finished => exact .await rfl rfl
  | requested id job cancelled handles frame serving unit waits =>
      rcases waits with rfl | rfl <;> exact .await rfl rfl
  | started scope' at' none same => exact absurd same starts
  | tried scope' at' none same => exact absurd same tries
  | completed => exact .call rfl
  | _ => exact .signal _ _

theorem Frame.Flows.stacksApart {frame : Frame} {move : Move} (flows : frame.Flows move)
    (other : ∀ slot id number complete, frame ≠ .preparing slot id number complete) :
    move.Apart := by
  cases flows with
  | ends => exact .signal _ _
  | script | walk | schedule => exact .call rfl
  | unbound | unboundInPanic | completed | completedInPanic => exact .await rfl rfl
  | start => exact absurd rfl (other _ _ _ _)

/-! ### Steps -/

/-- A unit of work that begins is that of a request: it runs the first hook, or ends. -/
theorem Call.piled_perform {slot : SlotId} {work : Work} (isRequest : work.isRequest = true)
    (runs : foremost frames = some (.unit, slot)) (fresh : counts.head? = some 0)
    (piled : Piled false frames counts) :
    let move := Call.step s (.perform slot work)
    Piled move.control.isOpen (move.frames ++ frames) counts
      ∧ Seated (move.frames ++ frames) counts move.control := by
  cases work with
  | scripted id script => cases isRequest
  | request id number job =>
      rcases s.perform_cases slot id number job with ⟨-, eq⟩ | ⟨-, t, -, -, ⟨-, eq⟩ | ⟨-, eq⟩⟩
      · simp only [step, eq]
        exact ⟨piled.mono _, trivial⟩
      · simp only [step, eq]
        refine ⟨⟨runs, fresh, piled⟩, fun frame mem => ?_⟩
        obtain rfl : Frame.preparing slot id number job.complete = frame := Option.some.inj mem
        rfl
      · simp only [step, eq]
        exact ⟨piled.mono _, trivial⟩

/-- The start of a slot is refused, or counts for the unit above which it is made. -/
theorem Call.piled_start {slot : SlotId} {number : Nat}
    (piled : Piled true (.starting slot number :: frames) counts) :
    let move := Call.step s (.start slot)
    let counted := Moment.tally counts ⟨s, ⟨.call (.start slot), .starting slot number :: frames⟩⟩
    Piled move.control.isOpen (move.frames ++ .starting slot number :: frames) counted
      ∧ Seated (move.frames ++ .starting slot number :: frames) counted move.control := by
  intro move counted
  rcases s.start_cases slot with ⟨error, refused, eq⟩ | ⟨granted, eq⟩
  · simp only [move, counted, step, eq, Moment.tally_of_refused refused]
    exact ⟨piled, trivial⟩
  · have off : OffUnit (.starting slot number :: frames) := by
      intro frame mem
      obtain rfl : Frame.starting slot number = frame := Option.some.inj mem
      rfl
    have started : Piled false (.starting slot number :: frames) (counts.modifyHead (· + 1)) := by
      obtain ⟨runs, -, below⟩ := piled
      obtain ⟨rest, rfl⟩ := eq_bound_of_foremost runs
      refine ⟨runs, fun _ => ?_, below.1, ?_⟩
      · cases counts <;> simp
      · cases counts <;> exact below.2
    have apart : ((s.started slot).launch slot (s.conduct slot.device)).Apart := by
      simp only [State.launch]
      split
      · exact .signal _ _
      · exact .call rfl
      · exact .await rfl rfl
      · exact .signal _ _
    simp only [move, counted, step, eq, Moment.tally_of_granted granted]
    exact apart.stacked off started

theorem Call.mounted_step {call : Call} (modest : Moment.Modest ⟨s, ⟨.call call, frames⟩⟩)
    (mounted : Moment.Mounted counts ⟨s, ⟨.call call, frames⟩⟩) :
    ((call.step s).onto frames).Mounted (Moment.tally counts ⟨s, ⟨.call call, frames⟩⟩) := by
  have requests := (Moment.Step.call s call frames).keeps_requests modest mounted.requests
  suffices stacked : Piled (call.step s).control.isOpen ((call.step s).frames ++ frames)
        (Moment.tally counts ⟨s, ⟨.call call, frames⟩⟩)
      ∧ Seated ((call.step s).frames ++ frames) (Moment.tally counts ⟨s, ⟨.call call, frames⟩⟩)
        (call.step s).control from ⟨requests, stacked.1, stacked.2⟩
  obtain ⟨own, piled, seated⟩ := mounted
  cases call with
  | act scope action =>
      have modest := modest.acts scope action rfl
      have apart := (s.acts scope action).stacksApart (by rintro rfl; cases modest)
        (by rintro rfl; cases modest)
      exact apart.stacked seated piled
  | bind slot work => exact ⟨⟨seated, piled⟩, rfl, rfl⟩
  | perform slot work =>
      exact Call.piled_perform (own work List.mem_cons_self) seated.1 seated.2 piled
  | start slot =>
      obtain ⟨-, number, below, same⟩ := seated
      obtain rfl : frames = .starting slot number :: below := same
      exact Call.piled_start piled
  | _ => exact ((Call.flows s _).stacksApart rfl).stacked seated piled

/-- The first hook of a request ends: the unit starts its slot, or ends as well. -/
theorem Frame.piled_preparing {slot : SlotId} {id : String} {number : Nat} {complete : Script}
    {signal : Signal} {open' : Bool}
    (piled : Piled open' (.preparing slot id number complete :: frames) counts) :
    let move := Frame.resume s (.preparing slot id number complete) signal
    Piled move.control.isOpen (move.frames ++ frames) counts
      ∧ Seated (move.frames ++ frames) counts move.control := by
  obtain ⟨runs, fresh, piled⟩ := piled
  cases signal with
  | returned answer => exact ⟨⟨runs, nofun, piled⟩, fresh, number, frames, rfl⟩
  | _ => exact ⟨piled.mono _, trivial⟩

/-- The start of a slot ends, and with it the unit that made it. -/
theorem Frame.piled_starting {slot : SlotId} {number : Nat} {signal : Signal}
    (piled : Piled (Control.signal signal).isOpen (.starting slot number :: frames) counts) :
    let move := Frame.resume s (.starting slot number) signal
    Piled move.control.isOpen (move.frames ++ frames) counts
      ∧ Seated (move.frames ++ frames) counts move.control := by
  obtain ⟨runs, spent, piled⟩ := piled
  cases signal with
  | returned answer => exact ⟨piled, .inr (spent rfl)⟩
  | _ => exact ⟨piled.mono _, trivial⟩

theorem Frame.mounted_resume {frame : Frame} {signal : Signal}
    (modest : Moment.Modest ⟨s, ⟨.signal signal, frame :: frames⟩⟩)
    (mounted : Moment.Mounted counts ⟨s, ⟨.signal signal, frame :: frames⟩⟩) :
    ((frame.resume s signal).onto frames).Mounted
      (Moment.tally counts ⟨s, ⟨.signal signal, frame :: frames⟩⟩) := by
  have requests :=
    (Moment.Step.resume s signal frame frames).keeps_requests modest mounted.requests
  suffices stacked : Piled (frame.resume s signal).control.isOpen
        ((frame.resume s signal).frames ++ frames)
        (Moment.tally counts ⟨s, ⟨.signal signal, frame :: frames⟩⟩)
      ∧ Seated ((frame.resume s signal).frames ++ frames)
        (Moment.tally counts ⟨s, ⟨.signal signal, frame :: frames⟩⟩)
        (frame.resume s signal).control from ⟨requests, stacked.1, stacked.2⟩
  have piled := mounted.piled
  cases frame with
  | preparing slot id number complete => exact Frame.piled_preparing piled
  | starting slot number => exact Frame.piled_starting piled
  | _ => exact ((Frame.flows s _ signal).stacksApart (by simp)).stacked piled.1 piled.2

/-- Every step leaves the thread stacked as it should be. -/
theorem Moment.Step.mounted {m after : Moment} (step : m.Step after) (modest : m.Modest)
    (mounted : m.Mounted counts) : after.Mounted (m.tally counts) := by
  have requests := step.keeps_requests modest mounted.requests
  cases step with
  | call s call frames => exact Call.mounted_step modest mounted
  | resume s signal frame frames => exact Frame.mounted_resume modest mounted
  | begin s signal action => exact ⟨requests, trivial, offUnit_nil⟩
  | deliver signal earlier later due => exact ⟨requests, trivial, offUnit_nil⟩
  | drop s signal => exact ⟨requests, trivial, .inl offUnit_nil⟩

end Steps

/-! ### What follows for units of work -/

section Units

variable {counts : List Nat} {m : Moment}

/-- A unit of work is the only one to start its slot, and does so once. -/
theorem Moment.Mounted.careful (mounted : m.Mounted counts) (modest : m.Modest) :
    m.Careful counts := by
  obtain ⟨s, control, frames⟩ := m
  refine ⟨modest.delivered, ?_⟩
  rintro slot same
  obtain rfl : control = _ := same
  obtain ⟨fresh, number, below, rfl⟩ := mounted.seated
  have runs : foremost below = some (.unit, slot) := mounted.piled.1
  have runs := activation_of_foremost runs
  exact ⟨⟨slot, runs⟩, fresh⟩

/-- It succeeds only if it has started its slot. -/
theorem Moment.Mounted.thorough (mounted : m.Mounted counts) : m.Thorough counts := by
  rintro answer slot frames same
  have seated := mounted.seated
  rw [same] at seated
  rcases seated with off | spent
  · cases off (.bound slot) rfl
  · exact spent

end Units

/-! ### Runs -/

/-- A run of requests is stacked as it should be at every moment, whichever hooks panic. -/
theorem Run.mounted {backends : List Backend} {priorities : List Preference} {s : State}
    {past : List Moment} {now : Moment}
    (built : (construct backends priorities).result = .ok s) (run : Run (.initial s) past now)
    (modest : ∀ m ∈ past, m.Modest) :
    now.Mounted (starts past) ∧ Throughout Moment.Careful past
      ∧ Throughout Moment.Thorough past := by
  induction run with
  | start =>
      obtain ⟨configured, -, rfl⟩ := construct_ok built
      refine ⟨⟨nofun, trivial, .inl nofun⟩, ?_, ?_⟩ <;> simp [Throughout]
  | @next past now after run step ih =>
      have here : now.Modest := modest now (by simp)
      obtain ⟨mounted, careful, thorough⟩ := ih fun m mem => modest m (List.mem_append_left _ mem)
      refine ⟨?_, ?_, ?_⟩
      · rw [starts_append_singleton]
        exact step.mounted here mounted
      · exact throughout_append_singleton.mpr ⟨careful, mounted.careful here⟩
      · exact throughout_append_singleton.mpr ⟨thorough, mounted.thorough⟩

end SlotDispatch
