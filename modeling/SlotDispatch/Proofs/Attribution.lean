import SlotDispatch.Proofs.Buffers
import SlotDispatch.Proofs.Settlement
import SlotDispatch.Proofs.Stacking

/-!
Whose value a request gets. A request has no buffers of its own: its job loads the input of
the slot it was bound to, the completion turns that input into the output, and the last hook
reads the output. `Moment.Bears` follows the value through these places, and every step of a
run of requests keeps it there, since nobody else gets hold of the slot in between.

A start may fail although the execution has come to its end; the unit of work then hands back
a slot that has been bound again. `results_are_attributed` excludes such a start, and
`results_can_be_mixed_up` is what comes of one.
-/

namespace SlotDispatch

/-! ### Where the value of a request is -/

namespace Control

/-- The slot that is about to start. -/
def launches : Control → List SlotId
  | .call (.start slot) => [slot]
  | _ => []

/-- The slot whose completion comes in. -/
def completes : Control → List SlotId
  | .call (.notify slot _) | .call (.followUp slot _) => [slot]
  | _ => []

end Control

/-- Wherever request `n` has come, its slot holds the value: as the input until the execution
has come to its end, and then as the output. -/
structure Moment.Bears (n : Nat) (value : String) (m : Moment) : Prop where
  prepared : ∀ slot id complete, .preparing slot id n complete ∈ m.thread.frames →
    (m.state.slot slot).input = some value
  launched : ∀ slot ∈ m.thread.control.launches, slot ∈ m.state.keptBy n →
    (m.state.slot slot).input = some value
  executing : ∀ slot ∈ m.state.keptBy n, (m.state.slot slot).running = true →
    (m.state.slot slot).input = some value
  completed : ∀ slot ∈ m.thread.control.completes, slot ∈ m.state.keptBy n →
    (m.state.slot slot).output = some value
  collected : ∀ slot, .collecting slot n ∈ m.thread.frames →
    (m.state.slot slot).output = some value

/-! ### Moves that have nothing to do with it -/

/-- A move that neither starts a slot nor brings a completion in, and calls no hook. -/
structure Move.Aside (move : Move) : Prop where
  launches : move.control.launches = []
  completes : move.control.completes = []
  hooks : ∀ frame ∈ move.frames, frame.awaitsHook = false

theorem Move.Aside.signal (s : State) (signal : Signal) : (Move.signal s signal).Aside :=
  ⟨rfl, rfl, by simp [Move.signal]⟩

theorem Move.Aside.call {s : State} {call : Call} (launches : (Control.call call).launches = [])
    (completes : (Control.call call).completes = []) : (Move.call s call).Aside :=
  ⟨launches, completes, by simp [Move.call]⟩

theorem Move.Aside.await {s : State} {call : Call} {frame : Frame}
    (launches : (Control.call call).launches = []) (completes : (Control.call call).completes = [])
    (other : frame.awaitsHook = false) : (Move.await s call frame).Aside :=
  ⟨launches, completes, by simp [Move.await, other]⟩

/-- Whether a call may start a slot, bring a completion in or call a hook. -/
def Call.serves : Call → Bool
  | .act _ _ | .perform _ _ | .complete _ _ | .notify _ _ | .followUp _ _ => true
  | _ => false

theorem Call.Flows.aside {call : Call} {move : Move} (flows : call.Flows move)
    (apart : call.serves = false) : move.Aside := by
  cases flows with
  | ends => exact .signal _ _
  | schedule | again | onward | found | used | discard | markIdle | completesAtOnce =>
      exact .call rfl rfl
  | script | unused | bind | completesAndFails => exact .await rfl rfl rfl
  | _ => cases apart

/-- An action that may stand in a hook does not start a slot. -/
theorem State.Acts.aside {s : State} {scope : Option Scope} {action : Action} {move : Move}
    (acts : s.Acts scope action move) (gentle : action.isGentle = true) : move.Aside := by
  cases acts with
  | started scope' at' none same | tried scope' at' none same =>
      subst same
      cases gentle
  | submitted | reordered | finished => exact .await rfl rfl rfl
  | requested id job cancelled handles frame serving unit waits =>
      rcases waits with rfl | rfl <;> exact .await rfl rfl rfl
  | completed => exact .call rfl rfl
  | _ => exact .signal _ _

theorem Frame.Flows.aside {frame : Frame} {move : Move} (flows : frame.Flows move)
    (other : ∀ slot id number complete, frame ≠ .preparing slot id number complete) :
    move.Aside := by
  cases flows with
  | start slot id number complete t => exact absurd rfl (other slot id number complete)
  | ends => exact .signal _ _
  | script | walk | schedule => exact .call rfl rfl
  | unbound | unboundInPanic | completed | completedInPanic => exact .await rfl rfl rfl

/-! ### Steps -/

section Steps

variable {s : State} {n : Nat} {value : String} {frames : List Frame} {counts : List Nat}

/-- A step that spares the buffers, and calls no hook, leaves the value where it is. -/
theorem Moment.Bears.quiet {m after : Moment} (bears : m.Bears n value)
    (spares : m.state.Spares n after.state)
    (hooks : ∀ frame ∈ after.thread.frames, frame.awaitsHook = true → frame ∈ m.thread.frames)
    (launches : after.thread.control.launches = [])
    (completes : after.thread.control.completes ⊆ m.thread.control.completes) :
    after.Bears n value := by
  refine ⟨?_, ?_, ?_, ?_, ?_⟩
  · intro slot id complete mem
    rw [spares.input]
    exact bears.prepared slot id complete (hooks _ mem rfl)
  · simp [launches]
  · intro slot kept running
    rw [spares.running] at running
    rw [spares.input]
    exact bears.executing slot (spares.fewer kept) running
  · intro slot mem kept
    rw [spares.output]
    exact bears.completed slot (completes mem) (spares.fewer kept)
  · intro slot mem
    rw [spares.output]
    exact bears.collected slot (hooks _ mem rfl)

theorem Move.Aside.bears {control : Control} {move : Move} (aside : move.Aside)
    (bears : Moment.Bears n value ⟨s, ⟨control, frames⟩⟩) (spares : s.Spares n move.state) :
    (move.onto frames).Bears n value := by
  refine bears.quiet spares (fun frame mem hook => ?_) aside.launches ?_
  · rcases List.mem_append.mp mem with mem | mem
    · simp [aside.hooks frame mem] at hook
    · exact mem
  · rw [show (move.onto frames).thread.control.completes = [] from aside.completes]
    exact List.nil_subset _

/-- A change of one slot, whose continuation stays, with no hook waiting on it. -/
structure State.Writes (s t : State) (frames : List Frame) (slot : SlotId)
    (change : Slot → Slot) : Prop where
  present : s.hasSlot slot = true
  slots : t.slots = (s.modifySlot slot change).slots
  keeps : ∀ slot, ((change slot).id, (change slot).continuation) = (slot.id, slot.continuation)
  apart : ∀ hook ∈ frames, hook.awaitsHook = true → hook.slot? ≠ some slot

namespace State.Writes

variable {t : State} {slot : SlotId} {change : Slot → Slot}

theorem slot_eq (writes : s.Writes t frames slot change) (other : SlotId) :
    t.slot other = if other = slot then change (s.slot slot) else s.slot other := by
  have same : t.slot other = (s.modifySlot slot change).slot other := by
    rw [State.slot, State.slot, writes.slots]
  rw [same]
  exact State.slot_modifySlot writes.present
    (fun slot => congrArg Prod.fst (writes.keeps slot)) other

theorem keptBy_eq (writes : s.Writes t frames slot change) (n : Nat) : t.keptBy n = s.keptBy n := by
  rw [← (State.sameFiles_modifySlot s slot writes.keeps).keptBy n, State.keptBy, State.keptBy,
    writes.slots]

/-- The value stays where it is, provided that it is found on the slot itself where it has to
be. -/
theorem bears {control next : Control} {added : List Frame}
    (writes : s.Writes t frames slot change)
    (bears : Moment.Bears n value ⟨s, ⟨control, frames⟩⟩)
    (prepares : ∀ other id complete, .preparing other id n complete ∈ added →
      other = slot ∧ (change (s.slot slot)).input = some value)
    (collects : ∀ other, .collecting other n ∉ added)
    (executes : slot ∈ s.keptBy n → (change (s.slot slot)).running = true →
      (change (s.slot slot)).input = some value)
    (launches : next.launches = [])
    (completes : ∀ other ∈ next.completes, other = slot
      ∧ (slot ∈ s.keptBy n → (change (s.slot slot)).output = some value)) :
    Moment.Bears n value ⟨t, ⟨next, added ++ frames⟩⟩ := by
  have elsewhere {hook : Frame} {other : SlotId} (mem : hook ∈ frames)
      (waits : hook.awaitsHook = true) (at' : hook.slot? = some other) : other ≠ slot := by
    rintro rfl
    exact writes.apart hook mem waits at'
  refine ⟨?_, ?_, ?_, ?_, ?_⟩
  · intro other id complete mem
    change (t.slot other).input = some value
    rw [writes.slot_eq]
    rcases List.mem_append.mp mem with mem | mem
    · obtain ⟨rfl, loaded⟩ := prepares other id complete mem
      rw [if_pos rfl]
      exact loaded
    · rw [if_neg (elsewhere mem rfl rfl)]
      exact bears.prepared other id complete mem
  · simp [launches]
  · intro other kept running
    have kept : other ∈ t.keptBy n := kept
    have running : (t.slot other).running = true := running
    change (t.slot other).input = some value
    rw [writes.keptBy_eq] at kept
    rw [writes.slot_eq] at running ⊢
    by_cases same : other = slot
    · subst same
      rw [if_pos rfl] at running ⊢
      exact executes kept running
    · rw [if_neg same] at running ⊢
      exact bears.executing other kept running
  · intro other mem kept
    have kept : other ∈ t.keptBy n := kept
    change (t.slot other).output = some value
    obtain ⟨rfl, done⟩ := completes other mem
    rw [writes.keptBy_eq] at kept
    rw [writes.slot_eq, if_pos rfl]
    exact done kept
  · intro other mem
    change (t.slot other).output = some value
    rcases List.mem_append.mp mem with mem | mem
    · exact absurd mem (collects other)
    · rw [writes.slot_eq, if_neg (elsewhere mem rfl rfl)]
      exact bears.collected other mem

end State.Writes

/-- A unit of work that has not started its slot shares it with no hook that waits. -/
theorem Stacked.apart {slot : SlotId} (stacked : Stacked frames counts)
    (once : (held frames counts).Nodup) (runs : foremost frames = some (.unit, slot))
    (fresh : counts.head? = some 0) :
    slot ∈ held frames counts
      ∧ ∀ hook ∈ frames, hook.awaitsHook = true → hook.slot? ≠ some slot := by
  obtain ⟨below, rfl⟩ := eq_bound_of_foremost runs
  have stacked : Stacked below counts.tail := stacked
  have owns : held (.bound slot :: below) counts = slot :: held below counts.tail := by
    simp [held, fresh]
  rw [owns] at once ⊢
  refine ⟨List.mem_cons_self, ?_⟩
  intro hook mem waits at'
  rcases List.mem_cons.mp mem with rfl | mem
  · cases waits
  · exact (List.nodup_cons.mp once).1 (stacked.mem_held mem waits at')

/-- A job that begins loads the input of its own slot. -/
theorem Call.bears_perform {slot : SlotId} {work : Work}
    (bears : Moment.Bears n value ⟨s, ⟨.call (.perform slot work), frames⟩⟩)
    (regular : Moment.Regular counts ⟨s, ⟨.call (.perform slot work), frames⟩⟩)
    (exclusive : Moment.Exclusive counts ⟨s, ⟨.call (.perform slot work), frames⟩⟩)
    (own : ∀ id job, work = .request id n job → job.value = value) :
    ((Call.step s (.perform slot work)).onto frames).Bears n value := by
  obtain ⟨only, stacked, isRequest, runs, fresh⟩ := regular
  obtain ⟨mine, apart⟩ := stacked.apart exclusive.once runs fresh
  cases work with
  | scripted id script => cases isRequest
  | request id number job =>
      simp only [step, State.perform]
      split
      · exact Move.Aside.bears (.signal _ _) bears (.of_eq rfl)
      split
      · have loads : s.Writes
            ((s.enter .prepare id slot).modifySlot slot fun slot =>
              { slot with input := some job.value }) frames slot
            fun slot => { slot with input := some job.value } :=
          ⟨exclusive.known slot mine, rfl, by intro; rfl, apart⟩
        refine loads.bears bears ?_ ?_ ?_ rfl (List.forall_mem_nil _)
        · intro other id' complete mem
          obtain ⟨rfl, rfl, rfl, rfl⟩ := Frame.preparing.inj (List.mem_singleton.mp mem)
          exact ⟨rfl, congrArg some (own id' job rfl)⟩
        · intro other mem
          cases List.mem_singleton.mp mem
        · intro kept running
          have still : (s.slot slot).running = false := exclusive.still slot mine
          rw [show (s.slot slot).running = true from running] at still
          cases still
      · exact Move.Aside.bears (.signal _ _) bears (.of_eq rfl)

/-- A start that is granted lets the slot execute on the input that was loaded. -/
theorem Call.bears_start {slot : SlotId}
    (bears : Moment.Bears n value ⟨s, ⟨.call (.start slot), frames⟩⟩)
    (regular : Moment.Regular counts ⟨s, ⟨.call (.start slot), frames⟩⟩)
    (exclusive : Moment.Exclusive counts ⟨s, ⟨.call (.start slot), frames⟩⟩) :
    ((Call.step s (.start slot)).onto frames).Bears n value := by
  obtain ⟨only, stacked, fresh, number, below, same, -⟩ := regular
  obtain rfl : frames = .starting slot number :: below := same
  obtain ⟨runs, stacked⟩ := stacked
  have once : (held below counts).Nodup := exclusive.once
  obtain ⟨mine, apart⟩ := Stacked.apart stacked once runs fresh
  have aside : (Call.step s (.start slot)).Aside := (Call.flows s _).aside rfl
  rw [step] at aside ⊢
  rcases s.start_cases slot with ⟨error, -, eq⟩ | ⟨-, eq⟩
  · rw [eq] at aside ⊢
    exact aside.bears bears (.of_eq rfl)
  · rw [eq] at aside ⊢
    have starts : s.Writes ((s.started slot).launch slot (s.conduct slot.device)).state
        (.starting slot number :: below) slot
        fun slot => { slot with running := true, output := none } := by
      refine ⟨exclusive.known slot mine, ?_, by intro; rfl, ?_⟩
      · rw [State.slots_launch]
        rfl
      · intro hook mem waits
        rcases List.mem_cons.mp mem with rfl | mem
        · cases waits
        · exact apart hook mem waits
    refine starts.bears bears ?_ ?_ ?_ aside.launches ?_
    · intro other id complete mem
      cases aside.hooks _ mem
    · intro other mem
      cases aside.hooks _ mem
    · exact fun kept _ => bears.launched slot List.mem_cons_self kept
    · simp [aside.completes]

/-- A completion turns the input into the output. -/
theorem Call.bears_complete {slot : SlotId} {status : Status}
    (bears : Moment.Bears n value ⟨s, ⟨.call (.complete slot status), frames⟩⟩)
    (stacked : Stacked frames counts)
    (exclusive : Moment.Exclusive counts ⟨s, ⟨.call (.complete slot status), frames⟩⟩)
    (running : (s.slot slot).running = true) :
    ((Call.step s (.complete slot status)).onto frames).Bears n value := by
  have apart : ∀ hook ∈ frames, hook.awaitsHook = true → hook.slot? ≠ some slot := by
    intro hook mem waits at'
    have still : (s.slot slot).running = false :=
      exclusive.still slot (stacked.mem_held mem waits at')
    rw [running] at still
    cases still
  have ends : s.Writes (s.modifySlot slot fun slot =>
      { slot with output := slot.input, running := false }) frames slot
      fun slot => { slot with output := slot.input, running := false } :=
    ⟨State.hasSlot_of_running running, rfl, by intro; rfl, apart⟩
  simp only [step, State.complete]
  have stops : slot ∈ s.keptBy n → false = true → (s.slot slot).input = some value := by
    rintro - ⟨⟩
  split
  · refine ends.bears bears ?_ (fun _ => List.not_mem_nil) stops rfl ?_
    · intro other id complete mem
      cases mem
    · intro other mem
      exact ⟨List.mem_singleton.mp mem, fun kept => bears.executing slot kept running⟩
  · refine ends.bears bears ?_ (fun _ => List.not_mem_nil) stops rfl (List.forall_mem_nil _)
    intro other id complete mem
    cases mem

/-- The last hook finds the output of its own slot. -/
theorem Call.bears_followUp {slot : SlotId} {status : Status}
    (bears : Moment.Bears n value ⟨s, ⟨.call (.followUp slot status), frames⟩⟩)
    (distinct : (s.slots.map Slot.id).Nodup) :
    ((Call.step s (.followUp slot status)).onto frames).Bears n value := by
  have spares : s.Spares n (s.relieved slot) := s.spares_relieved slot
  rw [step]
  cases left : (s.slot slot).continuation with
  | none =>
      rw [State.followUp, left]
      exact Move.Aside.bears (.signal _ _) bears spares
  | some continuation =>
      cases continuation with
      | scripted id script =>
          rw [State.followUp, left]
          exact Move.Aside.bears (.call rfl rfl) bears (spares.trans (.of_eq rfl))
      | request id number complete =>
          rw [State.followUp_request left]
          split
          · have spares : s.Spares n ((s.relieved slot).enter (.complete status) id slot) :=
              spares.trans (.of_eq rfl)
            refine ⟨?_, List.forall_mem_nil _, ?_, List.forall_mem_nil _, ?_⟩
            · intro other id' complete' mem
              refine (spares.input other).trans (bears.prepared other id' complete' ?_)
              exact List.mem_of_ne_of_mem (by rintro ⟨⟩) mem
            · intro other kept running
              refine (spares.input other).trans (bears.executing other (spares.fewer kept) ?_)
              exact (spares.running other).symm.trans running
            · intro other mem
              refine (spares.output other).trans ?_
              rcases List.mem_cons.mp mem with same | below
              · obtain ⟨rfl, rfl⟩ : other = slot ∧ n = number := by simpa using same
                refine bears.completed other List.mem_cons_self ((State.mem_keptBy distinct).mpr ?_)
                rw [left]
                simp [Continuation.ofRequest]
              · exact bears.collected other below
          · exact Move.Aside.bears (.signal _ _) bears (spares.trans (.of_eq rfl))

/-- A frame that is done with leaves the value to those below. -/
theorem Moment.Bears.below {signal : Signal} {frame : Frame}
    (bears : Moment.Bears n value ⟨s, ⟨.signal signal, frame :: frames⟩⟩) :
    Moment.Bears n value ⟨s, ⟨.signal signal, frames⟩⟩ := by
  refine ⟨?_, nofun, bears.executing, nofun, ?_⟩
  · exact fun slot id complete mem => bears.prepared slot id complete (List.mem_cons_of_mem _ mem)
  · exact fun slot mem => bears.collected slot (List.mem_cons_of_mem _ mem)

/-- A first hook that returns leaves its slot as the job has loaded it. -/
theorem Frame.bears_preparing {slot : SlotId} {id : String} {number : Nat} {complete : Script}
    {signal : Signal}
    (bears : Moment.Bears n value
      ⟨s, ⟨.signal signal, .preparing slot id number complete :: frames⟩⟩) :
    ((Frame.resume s (.preparing slot id number complete) signal).onto frames).Bears n value := by
  have below := bears.below
  cases signal with
  | returned answer =>
      have held : s.Spares n (s.modifyRequest number (Request.hold .continuation)) := .of_eq rfl
      have left := State.sameExecutions_setContinuation
        (s.modifyRequest number (Request.hold .continuation)) slot (.request id number complete)
      have input (other : SlotId) := (left.input other).trans (held.input other)
      -- The slot is that of the request only if the hook is.
      have loaded {other : SlotId} (same : other = slot)
          (own : (Continuation.request id number complete).ofRequest n = true) :
          (s.slot other).input = some value := by
        obtain rfl : number = n := by simpa [Continuation.ofRequest] using own
        subst same
        exact bears.prepared other id complete List.mem_cons_self
      refine ⟨?_, ?_, ?_, List.forall_mem_nil _, ?_⟩
      · intro other id' complete' mem
        refine (input other).trans ?_
        exact below.prepared other id' complete' (List.mem_of_ne_of_mem (by rintro ⟨⟩) mem)
      · intro other mem kept
        obtain rfl : other = slot := List.mem_singleton.mp mem
        refine (input other).trans ?_
        rcases State.of_mem_keptBy_setContinuation _ kept with ⟨same, own⟩ | ⟨differs, -⟩
        · exact loaded same own
        · exact absurd rfl differs
      · intro other kept running
        refine (input other).trans ?_
        rcases State.of_mem_keptBy_setContinuation _ kept with ⟨same, own⟩ | ⟨-, kept⟩
        · exact loaded same own
        · refine below.executing other kept ?_
          exact ((left.running other).trans (held.running other)).symm.trans running
      · intro other mem
        refine ((left.output other).trans (held.output other)).trans ?_
        exact below.collected other (List.mem_of_ne_of_mem (by rintro ⟨⟩) mem)
  | _ => exact Move.Aside.bears (.signal _ _) below (.of_eq rfl)

/-- Every step keeps the value of a request where it belongs. -/
theorem Moment.Step.bears {m after : Moment} (step : m.Step after) (gentle : m.Gentle)
    (grounded : m.Grounded) (regular : m.Regular counts) (exclusive : m.Exclusive counts)
    (own : ∀ slot id job, m.thread.control = .call (.perform slot (.request id n job)) →
      job.value = value)
    (bears : m.Bears n value) : after.Bears n value := by
  cases step with
  | call s call frames =>
      cases call with
      | act scope action =>
          have acts := s.acts scope action
          exact (acts.aside (gentle.acts scope action rfl)).bears bears acts.spares
      | perform slot work =>
          refine Call.bears_perform bears regular exclusive ?_
          rintro id job rfl
          exact own slot id job rfl
      | start slot => exact Call.bears_start bears regular exclusive
      | complete slot status =>
          exact Call.bears_complete bears regular.stacked exclusive
            (gentle.delivered slot status rfl)
      | followUp slot status => exact Call.bears_followUp bears grounded.distinct
      | notify slot status =>
          have spares : s.Spares n (Call.step s (.notify slot status)).state :=
            Call.spares_step s rfl
          refine bears.quiet spares ?_ rfl (List.Subset.refl _)
          intro frame mem hook
          rcases List.mem_cons.mp mem with rfl | mem
          · split at hook <;> cases hook
          · exact mem
      | _ => exact ((Call.flows s _).aside rfl).bears bears (Call.spares_step s rfl)
  | resume s signal frame frames =>
      by_cases prepares : ∃ slot id number complete, frame = .preparing slot id number complete
      · obtain ⟨slot, id, number, complete, rfl⟩ := prepares
        exact Frame.bears_preparing bears
      · have other : ∀ slot id number complete, frame ≠ .preparing slot id number complete :=
          fun slot id number complete same => prepares ⟨slot, id, number, complete, same⟩
        exact ((frame.flows s signal).aside other).bears bears.below
          (frame.spares_resume s signal other)
  | begin s signal action =>
      exact ⟨nofun, nofun, bears.executing, nofun, nofun⟩
  | deliver signal earlier later due =>
      exact ⟨nofun, nofun, bears.executing, nofun, nofun⟩
  | drop s signal =>
      exact bears.quiet (State.spares_drop s) (fun _ mem _ => mem) rfl (List.Subset.refl _)

end Steps

/-! ### Requests and their numbers -/

section Run

variable {backends : List Backend} {priorities : List Preference} {s : State}
  {past : List Moment} {now : Moment} {n : Nat} {id : String} {job : Job}

/-- A unit of work that begins was accepted. -/
theorem Run.accepted_of_performs (built : (construct backends priorities).result = .ok s)
    (run : Run (.initial s) past now) {slot : SlotId} {work : Work}
    (begins : now.thread.control = .call (.perform slot work)) : work ∈ accepted past := by
  have inHand : now.inHand = [work] := by rw [Moment.inHand, begins]; rfl
  exact run.accepted_of_mem built (List.mem_append_left _ (inHand ▸ List.mem_cons_self))

/-- A step that accepts a request gives it the next number. -/
theorem Moment.number_of_accepts {m : Moment} (accepts : .request id n job ∈ m.accepts) :
    n = m.state.requests.length ∧ m.accepts = [.request id n job] := by
  simp only [Moment.accepts] at accepts ⊢
  split at accepts
  · next scope action same =>
      obtain found := Option.mem_toList.mp accepts
      refine ⟨?_, by rw [found]; rfl⟩
      have found : m.state.acceptedUnit? action = some (.request id n job) := found
      simp only [State.acceptedUnit?] at found
      split at found
      · cases action with
        | request | infer =>
            obtain ⟨-, same, -⟩ := Work.request.inj (Option.some.inj found)
            exact same.symm
        | _ => cases found
      · cases found
  · cases accepts

/-- No number is given to two requests. -/
theorem Run.accepted_once {first : Moment} {id' : String} {job' : Job} (run : Run first past now)
    (made : .request id n job ∈ accepted past) (made' : .request id' n job' ∈ accepted past) :
    id' = id ∧ job' = job := by
  induction run with
  | start => simp [accepted] at made
  | @next past now after run step ih =>
      rw [accepted_append, accepted_singleton] at made made'
      -- A number that was given before is less than the next one.
      have fresh {id id' : String} {job job' : Job} (old : .request id n job ∈ accepted past)
          (new : .request id' n job' ∈ now.accepts) : False := by
        have below := run.made old
        rw [(Moment.number_of_accepts new).1] at below
        exact Nat.lt_irrefl _ below
      rcases List.mem_append.mp made with made | made
      · rcases List.mem_append.mp made' with made' | made'
        · exact ih made made'
        · exact absurd made' (fresh made)
      · rcases List.mem_append.mp made' with made' | made'
        · exact absurd made (fresh made')
        · rw [(Moment.number_of_accepts made).2] at made'
          obtain ⟨same, -, same'⟩ := Work.request.inj (List.mem_singleton.mp made')
          exact ⟨same, same'⟩

/-! ### Histories of requests that succeed -/

/-- A request begins on one slot only. -/
theorem Told.begun_once {history : List Happening} {slot other : SlotId} (told : Told history)
    (mem : .begun slot false ∈ history) (mem' : .begun other false ∈ history) : other = slot := by
  cases told with
  | ended own refusal ending => cases refusal <;> cases ending <;> simp_all
  | refused own refusal ending => cases refusal <;> cases ending <;> simp_all
  | _ => simp_all

/-- A request that succeeds went through both hooks and took the result of the last one. -/
theorem Told.of_ok {history : List Happening} {result : Completed} (told : Told history)
    (settles : Stage.reached n history = .settled (.ok result)) :
    ∃ slot value, result = ⟨n, slot.device, .ok, value⟩ ∧ .begun slot false ∈ history
      ∧ .prepared none ∈ history ∧ .collected (some (.ok value)) ∈ history := by
  cases told with
  | nothing | cancelled | begun | unprepared => simp [Stage.reached, Stage.react] at settles
  | ended slot refusal ending =>
      cases ending with
      | none => cases refusal <;> simp [Stage.reached, Stage.react] at settles
      | taken status =>
          cases succeeds : status.isOk <;> cases refusal <;>
            simp [Stage.reached, Stage.react, succeeds] at settles
      | collected status collects succeeds =>
          rcases collects with - | (error | value) <;> cases refusal <;>
            simp [Stage.reached, Stage.react, succeeds, collectedOutcome] at settles
          all_goals exact ⟨slot, value, settles.symm, by simp, by simp, by simp⟩
  | refused slot refusal ending =>
      cases refusal with
      | refused error => cases ending <;> simp [Stage.reached, Stage.react] at settles
      | none =>
          cases ending with
          | none => simp [Stage.reached, Stage.react] at settles
          | taken status =>
              cases succeeds : status.isOk <;>
                simp [Stage.reached, Stage.react, succeeds] at settles
          | collected status collects succeeds =>
              rcases collects with - | (error | value) <;>
                simp [Stage.reached, Stage.react, succeeds, collectedOutcome] at settles
              exact ⟨slot, value, settles.symm, by simp, by simp, by simp⟩

/-- The hooks and the start of a request wait on the slot that it began on. -/
theorem Consistent.begun_at_slot {history : List Happening} {file : File} {frame : Frame}
    (holds : Consistent n history file) (mem : frame ∈ file.traces) :
    ∃ slot, frame.slot? = some slot ∧ .begun slot false ∈ history := by
  cases holds with
  | unmade | queued | granted | left | closed => simp at mem
  | collectingWithin slot =>
      rcases List.mem_cons.mp mem with rfl | mem
      · exact ⟨slot, rfl, List.mem_cons_self⟩
      · rw [List.mem_singleton.mp mem]
        exact ⟨slot, rfl, List.mem_cons_self⟩
  | preparing slot | starting slot | bereft slot | outrun slot | collecting slot
  | collectingLate slot =>
      rw [List.mem_singleton.mp mem]
      exact ⟨slot, rfl, List.mem_cons_self⟩

/-- A request begins where its unit of work is performed. -/
theorem Moment.performs_of_begun {m : Moment} {slot : SlotId}
    (begun : .begun slot false ∈ m.happens n) :
    ∃ id job, m.thread.control = .call (.perform slot (.request id n job)) := by
  obtain ⟨s, control, frames⟩ := m
  simp only [Moment.happens] at begun
  split at begun
  · next own id number job below same =>
      obtain ⟨rfl, rfl⟩ := Thread.mk.inj same
      by_cases mine : number = n
      · subst mine
        rw [if_pos rfl, State.beginning] at begun
        refine ⟨id, job, ?_⟩
        obtain rfl : slot = own := by
          split at begun
          · simp at begun
          · split at begun <;> simpa using begun
        rfl
      · simp [mine] at begun
  all_goals
    try split at begun
    all_goals simp at begun

/-- The first hook of a request ends where a frame waits for it. -/
theorem Moment.prepares_of_happens {m : Moment} (prepared : .prepared none ∈ m.happens n) :
    ∃ answer slot id complete below,
      m.thread = ⟨.signal (.returned answer), .preparing slot id n complete :: below⟩ := by
  obtain ⟨s, control, frames⟩ := m
  simp only [Moment.happens] at prepared
  split at prepared
  case h_1 slot id number job below same =>
    split at prepared
    · simp only [State.beginning] at prepared
      split at prepared
      · simp at prepared
      · split at prepared <;> simp at prepared
    · simp at prepared
  case h_3 answer slot id number complete below same =>
    by_cases mine : number = n
    · subst mine
      exact ⟨answer, slot, id, complete, below, same⟩
    · simp [mine] at prepared
  all_goals
    try split at prepared
    all_goals simp at prepared

/-- A result is collected from the output of a slot. -/
theorem Moment.collects_of_happens {m : Moment} {value : String}
    (collected : .collected (some (.ok value)) ∈ m.happens n) :
    ∃ answer slot below, m.thread = ⟨.signal (.returned answer), .collecting slot n :: below⟩
      ∧ (m.state.slot slot).output = some value := by
  obtain ⟨s, control, frames⟩ := m
  simp only [Moment.happens] at collected
  split at collected
  case h_6 signal slot number below same =>
    by_cases mine : number = n
    · subst mine
      rw [if_pos rfl, List.mem_singleton] at collected
      have found : s.hookResult slot signal = some (.ok value) :=
        (Happening.collected.inj collected).symm
      cases signal with
      | returned answer =>
          refine ⟨answer, slot, below, same, ?_⟩
          change (s.slot slot).output = some value
          cases output : (s.slot slot).output with
          | none => simp [State.hookResult, output] at found
          | some there =>
              simp only [State.hookResult, output, Option.some.injEq, Except.ok.injEq] at found
              rw [found]
      | _ => cases found
    · simp [mine] at collected
  case h_1 slot id number job below same =>
    split at collected
    · simp only [State.beginning] at collected
      split at collected
      · simp at collected
      · split at collected <;> simp at collected
    · simp at collected
  all_goals
    try split at collected
    all_goals simp at collected

/-! ### Runs -/

/-- In a run of requests the value of each stays where it belongs. -/
theorem Run.bears {value : String} (built : (construct backends priorities).result = .ok s)
    (run : Run (.initial s) past now) (faithful : ∀ m ∈ past, m.Faithful)
    (own : ∀ id job, .request id n job ∈ accepted past → job.value = value) :
    now.Bears n value := by
  induction run with
  | start =>
      obtain ⟨configured, -, rfl⟩ := construct_ok built
      refine ⟨nofun, nofun, ?_, nofun, nofun⟩
      intro slot kept running
      have running : ((State.ofConfigured configured priorities).slot slot).running = true :=
        running
      rw [State.slot_ofConfigured] at running
      cases running
  | @next past now after run step ih =>
      have before : ∀ m ∈ past, m.Faithful := fun m mem => faithful m (List.mem_append_left _ mem)
      have here : now.Faithful := faithful now (by simp)
      obtain ⟨regular, orderly⟩ := run.regular built before
      refine step.bears here.toGentle (run.grounded built) regular
        (run.sound built orderly).exclusive ?_ (ih before fun id job made => own id job ?_)
      · intro slot id job begins
        apply own id job
        rw [accepted_append]
        exact List.mem_append_left _ (run.accepted_of_performs built begins)
      · rw [accepted_append]
        exact List.mem_append_left _ made

/-- Wherever a run of requests has passed, the value of a request that was accepted was where
it belongs. -/
theorem Run.bears_of_mem {m : Moment} (built : (construct backends priorities).result = .ok s)
    (run : Run (.initial s) past now) (faithful : ∀ m ∈ past, m.Faithful)
    (made : .request id n job ∈ accepted past) (there : m ∈ past) : m.Bears n job.value := by
  obtain ⟨before, after, rfl⟩ := List.append_of_mem there
  refine run.split.1.bears built (fun m mem => faithful m (List.mem_append_left _ mem)) ?_
  intro id' job' made'
  have made' : .request id' n job' ∈ accepted (before ++ m :: after) := by
    rw [accepted_append]
    exact List.mem_append_left _ made'
  rw [(run.accepted_once made made').2]

/-- A request begins by performing the unit of work that was accepted for it. -/
theorem Run.performed {slot : SlotId} (built : (construct backends priorities).result = .ok s)
    (run : Run (.initial s) past now) (made : .request id n job ∈ accepted past)
    (begun : .begun slot false ∈ history n past) :
    ∃ m ∈ past, m.thread.control = .call (.perform slot (.request id n job)) := by
  obtain ⟨m, there, begun⟩ := List.mem_flatMap.mp begun
  obtain ⟨id', job', performs⟩ := Moment.performs_of_begun begun
  refine ⟨m, there, ?_⟩
  obtain ⟨before, after, rfl⟩ := List.append_of_mem there
  have made' : .request id' n job' ∈ accepted (before ++ m :: after) := by
    rw [accepted_append]
    exact List.mem_append_left _ (run.split.1.accepted_of_performs built performs)
  obtain ⟨rfl, rfl⟩ := run.accepted_once made made'
  exact performs

/-- All that a request does, it does on the slot that it began on. -/
theorem Run.stays {slot : SlotId} (built : (construct backends priorities).result = .ok s)
    (run : Run (.initial s) past now) (begun : .begun slot false ∈ history n past) {m : Moment}
    (there : m ∈ past) {frame : Frame} (mem : frame ∈ m.thread.frames)
    (own : frame.ofRequest n = true) : frame.slot? = some slot := by
  obtain ⟨before, holds, earlier⟩ := run.consistent_of_mem built there n
  obtain ⟨other, at', begun'⟩ := holds.begun_at_slot (Moment.mem_traces mem own)
  rw [at', (run.consistent built n).told.begun_once begun (earlier begun')]

/-- Every result is that of its own request. In a run of requests whose starts do not fail once
the execution has come to its end, a request that succeeds reports its own number, the value
that its own job loaded, and the device of the slot that its unit of work began on; both of its
hooks have returned there, and neither they nor its start ever wait on another slot. -/
theorem results_are_attributed {result : Completed}
    (built : (construct backends priorities).result = .ok s) (run : Run (.initial s) past now)
    (faithful : ∀ m ∈ past, m.Faithful) (made : .request id n job ∈ accepted past)
    (succeeds : now.state.outcome? n = some (.ok result)) :
    ∃ slot, result = ⟨n, slot.device, .ok, job.value⟩
      ∧ (∃ m ∈ past, m.thread.control = .call (.perform slot (.request id n job)))
      ∧ (∃ m ∈ past, ∃ answer name complete below,
        m.thread = ⟨.signal (.returned answer), .preparing slot name n complete :: below⟩)
      ∧ (∃ m ∈ past, ∃ answer below,
        m.thread = ⟨.signal (.returned answer), .collecting slot n :: below⟩)
      ∧ ∀ m ∈ past, ∀ frame ∈ m.thread.frames, frame.ofRequest n = true →
        frame.slot? = some slot := by
  have settles : Stage.reached n (history n past) = .settled (.ok result) := by
    rw [run.outcome?_eq built made] at succeeds
    cases stage : Stage.reached n (history n past) with
    | settled outcome =>
        rw [stage] at succeeds
        exact congrArg Stage.settled (Option.some.inj succeeds)
    | _ =>
        rw [stage] at succeeds
        cases held : (now.file n).held <;> simp [Stage.outcome, held] at succeeds
  obtain ⟨slot, value, rfl, begun, prepared, collected⟩ :=
    (run.consistent built n).told.of_ok settles
  obtain ⟨first, passed, prepared⟩ := List.mem_flatMap.mp prepared
  obtain ⟨answer', own, name, complete, rest, waits⟩ := Moment.prepares_of_happens prepared
  have mem' : .preparing own name n complete ∈ first.thread.frames := by
    rw [waits]
    exact List.mem_cons_self
  have stays' := run.stays built begun passed mem' (by simp [Frame.ofRequest])
  obtain rfl : own = slot := Option.some.inj stays'
  obtain ⟨m, there, collected⟩ := List.mem_flatMap.mp collected
  obtain ⟨answer, other, below, same, output⟩ := Moment.collects_of_happens collected
  have mem : .collecting other n ∈ m.thread.frames := by
    rw [same]
    exact List.mem_cons_self
  have stays := run.stays built begun there mem (by simp [Frame.ofRequest])
  obtain rfl : other = own := Option.some.inj stays
  have bears := run.bears_of_mem built faithful made there
  obtain rfl : value = job.value :=
    Option.some.inj (output.symm.trans (bears.collected other mem))
  refine ⟨other, rfl, run.performed built made begun,
    ⟨first, passed, answer', name, complete, rest, waits⟩, ⟨m, there, answer, below, same⟩, ?_⟩
  intro m there frame mem own
  exact run.stays built begun there mem own

end Run

/-- One slot that completes at once, and two requests that share it; the first hook of one
makes the other. -/
theorem results_are_attributed_single :
    let s := State.single ⟨.immediate, .ok, none⟩
    let hook := [Action.request "s" "w" false [] []]
    let (past, now) := (Moment.initial s).operations 60 [.request "r" "v" false hook []]
    (∀ m ∈ past, m.Faithful) ∧ .request "r" 0 ⟨"v", hook, []⟩ ∈ accepted past
      ∧ now.state.outcome? 0 = some (.ok ⟨0, "A", .ok, "v"⟩)
      ∧ ∃ slot, ∃ m ∈ past, ∃ answer below,
        m.thread = ⟨.signal (.returned answer), .collecting slot 0 :: below⟩ := by
  have run := Run.operations 60 (.initial (.single ⟨.immediate, .ok, none⟩))
    [.request "r" "v" false [.request "s" "w" false [] []] []]
  have faithful : ∀ m ∈ ((Moment.initial (.single ⟨.immediate, .ok, none⟩)).operations 60
      [.request "r" "v" false [.request "s" "w" false [] []] []]).1, m.Faithful := by
    intro m mem
    exact Moment.faithful_of_isFaithful (List.all_eq_true.mp (by decide +kernel) m mem)
  have made : Work.request "r" 0 ⟨"v", [.request "s" "w" false [] []], []⟩
      ∈ accepted ((Moment.initial (.single ⟨.immediate, .ok, none⟩)).operations 60
        [.request "r" "v" false [.request "s" "w" false [] []] []]).1 := List.mem_cons_self
  have settled : ((Moment.initial (.single ⟨.immediate, .ok, none⟩)).operations 60
      [.request "r" "v" false [.request "s" "w" false [] []] []]).2.state.outcome? 0
        = some (.ok ⟨0, "A", .ok, "v"⟩) := by decide +kernel
  obtain ⟨slot, -, -, -, collected, -⟩ :=
    results_are_attributed (State.construct_single _) run faithful made settled
  exact ⟨faithful, made, settled, slot, collected⟩

/-- Where a start fails although the execution has come to its end, a request can succeed with
the value of another: the unit of work hands back a slot that is idle already, and two units
are then bound to it at once. -/
theorem results_can_be_mixed_up :
    ¬ ∀ (backends : List Backend) (priorities : List Preference) (s : State)
        (past : List Moment) (now : Moment) (n : Nat) (id : String) (job : Job)
        (result : Completed),
      (construct backends priorities).result = .ok s → Run (.initial s) past now →
        (∀ m ∈ past, m.Gentle) → .request id n job ∈ accepted past →
          now.state.outcome? n = some (.ok result) → result.value = job.value := by
  intro claim
  have right := claim _ _ (.single ⟨.immediateThenFail, .ok, none⟩) _ _ 1 "r"
    ⟨"mine", [.setPriorities [⟨"A", none⟩], .request "s" "theirs" false [] []], []⟩
    ⟨1, "A", .ok, "theirs"⟩ (State.construct_single _)
    (Run.operations 120 _ [.request "q" "x" false [] [], .request "r" "mine" false
      [.setPriorities [⟨"A", none⟩], .request "s" "theirs" false [] []] []])
    (fun m mem => Moment.gentle_of_isGentle (List.all_eq_true.mp (by decide +kernel) m mem))
    (List.mem_cons_of_mem _ List.mem_cons_self) (by decide +kernel)
  exact absurd right (by decide)

end SlotDispatch
