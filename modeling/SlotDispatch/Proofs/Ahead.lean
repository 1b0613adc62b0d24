import SlotDispatch.Proofs.Pins
import SlotDispatch.Proofs.Settlement
import SlotDispatch.Proofs.Veils

/-!
What runs while a request waits. Units of work run in the order in which they were accepted, so
nothing that was accepted after a request runs as long as the request waits. If all that was
accepted before are requests with gentle hooks, the thread is stacked as in a run of such
requests, whatever has been accepted since (`Moment.Ordered`): the moment with only the units
ahead of the request in its queue (`Moment.ahead`) is one of such a run. Hence the slot that is
offered to the request is as it was when it became idle, without a mark and without a
continuation (`Run.vacant_of_offer`).
-/

namespace SlotDispatch

/-! ### The units ahead of a request -/

/-- What stands behind a member at which it stops adds nothing to the beginning of a list. -/
theorem takeWhile_append_of_mem {α : Type} {test : α → Bool} {member : α} {list : List α}
    (mem : member ∈ list) (stops : test member = false) (more : List α) :
    (list ++ more).takeWhile test = list.takeWhile test := by
  induction list with
  | nil => cases mem
  | cons first rest ih =>
      rcases List.mem_cons.mp mem with rfl | mem
      · simp [stops]
      · simp only [List.cons_append, List.takeWhile_cons, ih mem]

/-- The state with only those units in its queue that wait ahead of request `r`. -/
def State.ahead (s : State) (r : Nat) : State :=
  s.recast (s.queue.takeWhile fun work => !work.ofRequest r) s.requests

namespace Moment

/-- The moment with only those units in its queue that wait ahead of request `r`. -/
def ahead (r : Nat) (m : Moment) : Moment := ⟨m.state.ahead r, m.thread⟩

/-- The unit of request `r` waits in the queue. -/
def Awaits (r : Nat) (m : Moment) : Prop := ∃ work ∈ m.state.queue, work.ofRequest r = true

end Moment

/-- Whether an action may be carried out while requests are all that runs: what it submits comes
to run later. -/
def Action.isConsiderate : Action → Bool
  | .submit _ _ => true
  | action => action.isGentle

/-- At this moment completions come only from executing slots, no start fails whose execution has
come to its end already, and callers start no slot, leave no continuation and do not panic. -/
structure Moment.Considerate (m : Moment) : Prop where
  delivered : ∀ slot status, m.thread.control = .call (.complete slot status) →
    (m.state.slot slot).running = true
  acts : ∀ scope action, m.thread.control = .call (.act scope action) →
    action.isConsiderate = true
  starts : ∀ slot, m.thread.control = .call (.start slot) → m.state.grants slot = true →
    (m.state.conduct slot.device).mode ≠ .immediateThenFail

/-- The thread is stacked as if only the units ahead of request `r` had been accepted, and these
are requests. -/
structure Moment.Ordered (r : Nat) (counts : List Nat) (m : Moment) : Prop where
  regular : (m.ahead r).Regular counts
  mounted : (m.ahead r).Mounted counts

section Steps

variable {s : State} {frames : List Frame} {counts : List Nat} {r : Nat} {m after : Moment}

/-- A considerate moment is faithful, unless an action is carried out. -/
theorem Moment.Considerate.faithful (considerate : m.Considerate)
    (other : ∀ scope action, m.thread.control ≠ .call (.act scope action)) :
    (m.ahead r).Faithful :=
  ⟨⟨considerate.delivered, fun scope action same => absurd same (other scope action)⟩,
    considerate.starts⟩

theorem Action.considerate_cases {action : Action} (considerate : action.isConsiderate = true) :
    (action ≠ .start ∧ action ≠ .tryStart ∧ ∀ message, action ≠ .panic message)
      ∧ ∀ script, action ≠ .andThen script := by
  refine ⟨⟨?_, ?_, ?_⟩, ?_⟩
  · rintro rfl
    cases considerate
  · rintro rfl
    cases considerate
  · rintro message rfl
    cases considerate
  · rintro script rfl
    cases considerate

/-- An ordered moment is one at which units of work start their slots at most once. -/
theorem Moment.Ordered.orderly (ordered : m.Ordered r counts) (considerate : m.Considerate) :
    m.Orderly counts := by
  by_cases acts : ∃ scope action, m.thread.control = .call (.act scope action)
  · obtain ⟨s, control, frames⟩ := m
    obtain ⟨scope, action, same⟩ := acts
    obtain rfl : control = .call (.act scope action) := same
    refine ⟨?_, ?_, ?_, ?_⟩ <;> rintro _ <;> intros <;> simp_all
  · have gentle := (considerate.faithful (r := r) fun scope action same =>
      acts ⟨scope, action, same⟩).toGentle
    have orderly := ordered.regular.orderly gentle
    exact ⟨orderly.delivered, orderly.started, orderly.failed, orderly.calm⟩

/-- A unit of work succeeds only if it has started its slot, and none leaves a continuation
after that. -/
theorem Moment.Ordered.thorough (ordered : m.Ordered r counts) : m.Thorough counts :=
  ordered.mounted.thorough

theorem Moment.Ordered.registers (ordered : m.Ordered r counts) (considerate : m.Considerate)
    {slot : SlotId} (registers : m.registers? = some slot) :
    slot ∈ unstarted m.thread.frames counts := by
  by_cases acts : ∃ scope action, m.thread.control = .call (.act scope action)
  · obtain ⟨s, control, frames⟩ := m
    obtain ⟨scope, action, same⟩ := acts
    obtain rfl : control = .call (.act scope action) := same
    have others := Action.considerate_cases (considerate.acts scope action rfl)
    simp only [Moment.registers?] at registers
    split at registers
    · next scope script frames same =>
        cases same
        exact absurd rfl (others.2 script)
    · next same => cases same
    · cases registers
  · have gentle := (considerate.faithful (r := r) fun scope action same =>
      acts ⟨scope, action, same⟩).toGentle
    exact ordered.regular.registers gentle registers

/-! ### Steps -/

/-- How a thread is stacked does not hang on what requests have come to. -/
theorem Moment.Ordered.of_recast {thread : Thread} {t : State} {queue : List Work}
    {requests : List Request} (same : t.queue.takeWhile (fun work => !work.ofRequest r) = queue)
    (regular : Moment.Regular counts ⟨t.recast queue requests, thread⟩)
    (mounted : Moment.Mounted counts ⟨t.recast queue requests, thread⟩) :
    Moment.Ordered r counts ⟨t, thread⟩ := by
  subst same
  exact ⟨⟨⟨regular.only.queue, regular.only.left⟩, regular.stacked, regular.rests⟩,
    mounted.requests, mounted.piled, mounted.seated⟩

/-- A call that does not look at the queue, on the units ahead of the request. -/
theorem Call.ordered_blind {call : Call} (blind : call.looksAtQueue = false)
    (considerate : Moment.Considerate ⟨s, ⟨.call call, frames⟩⟩)
    (ordered : Moment.Ordered r counts ⟨s, ⟨.call call, frames⟩⟩) :
    ((call.step s).onto frames).Ordered r (Moment.tally counts ⟨s, ⟨.call call, frames⟩⟩) := by
  have other : ∀ scope action, call ≠ .act scope action := by
    rintro scope action rfl
    cases blind
  have still : call.movesWork = false := by
    cases call <;> first | rfl | cases blind
  have faithful := considerate.faithful (r := r) fun scope action same =>
    other scope action (Control.call.inj same)
  obtain ⟨requests, -, eq⟩ := Call.recast_step
    (s.queue.takeWhile fun work => !work.ofRequest r) (.refl r s.requests) blind
  have regular := Call.regular_step faithful ordered.regular
  have mounted := Call.mounted_step faithful.toGentle.modest ordered.mounted
  change ((call.step (s.recast _ s.requests)).onto frames).Regular _ at regular
  change ((call.step (s.recast _ s.requests)).onto frames).Mounted _ at mounted
  rw [eq] at regular mounted
  refine .of_recast ?_ regular mounted
  rw [(Call.sameWork_step s still).sameQueue]

/-- A slot goes to the first of the units ahead. -/
theorem Call.ordered_offer {slot : SlotId} {devices : List String}
    (considerate : Moment.Considerate ⟨s, ⟨.call (.offer slot devices), frames⟩⟩)
    (once : s.queue.countP (Work.ofRequest r) ≤ 1)
    (awaits : ((Call.step s (.offer slot devices)).onto frames).Awaits r)
    (ordered : Moment.Ordered r counts ⟨s, ⟨.call (.offer slot devices), frames⟩⟩) :
    ((Call.step s (.offer slot devices)).onto frames).Ordered r counts := by
  have faithful := considerate.faithful (r := r) fun scope action same => by cases same
  have regular := Call.regular_step faithful ordered.regular
  have mounted := Call.mounted_step faithful.toGentle.modest ordered.mounted
  obtain ⟨unit, waits, own⟩ := awaits
  cases shape : s.queue with
  | nil =>
      simp [step, shape, Move.onto, Move.await] at waits
  | cons work rest =>
      simp only [step, shape, Move.onto, Move.call] at waits
      have other : work.ofRequest r = false := by
        apply Bool.eq_false_iff.mpr
        intro first
        have positive := List.countP_pos_iff.mpr ⟨unit, waits, own⟩
        rw [shape, List.countP_cons_of_pos first] at once
        omega
      have shape' : (s.ahead r).queue = work :: rest.takeWhile fun work => !work.ofRequest r := by
        simp [State.ahead, State.recast, shape, other]
      simp only [step, shape'] at regular mounted
      simp only [step, shape]
      exact ⟨regular, mounted⟩

/-- A walk that is at its end. -/
theorem Call.ordered_walk_nil {handedBack : Bool}
    (ordered : Moment.Ordered r counts ⟨s, ⟨.call (.walk [] handedBack), frames⟩⟩) :
    ((Call.step s (.walk [] handedBack)).onto frames).Ordered r counts := by
  obtain ⟨regular, requests, piled, off⟩ := ordered
  simp only [Call.step]
  split
  · exact ⟨⟨regular.only, regular.stacked, trivial⟩, requests, piled, off⟩
  · exact ⟨⟨regular.only, regular.stacked, trivial⟩, requests, piled, .inl off⟩

/-- What an action adds to the queue comes after the request. -/
theorem State.Acts.ordered {scope : Option Scope} {action : Action} {move : Move}
    (acts : s.Acts scope action move) (considerate : action.isConsiderate = true)
    (made : r < s.requests.length) (awaits : (move.onto frames).Awaits r)
    (ordered : Moment.Ordered r counts ⟨s, ⟨.call (.act scope action), frames⟩⟩) :
    (move.onto frames).Ordered r counts := by
  obtain ⟨⟨only, stacked, rests⟩, -, piled, seated⟩ := ordered
  have only : (s.ahead r).OnlyRequests := only
  have seated : OffUnit frames := seated
  obtain ⟨⟨starts, tries, calm⟩, leaves⟩ := Action.considerate_cases considerate
  obtain ⟨stacked, rests⟩ := acts.rests starts tries calm stacked rests
  obtain ⟨piled, seated⟩ := (acts.stacksApart starts tries).stacked seated piled
  have none : (move.onto frames).inHand = [] := by cases acts <;> rfl
  obtain ⟨unit, waits, own⟩ := awaits
  have left : ∀ slot ∈ move.state.slots, ∀ continuation ∈ slot.continuation,
      continuation.isRequest = true := by
    cases acts with
    | continued scope' id script at' none same => exact absurd same (leaves script)
    | shutDown =>
        rcases s.shutdown_eq with ⟨-, eq⟩ | ⟨-, requests, eq⟩ <;>
          (simp only [Move.done, Move.answer, Move.signal, eq]; exact only.left)
    | _ => exact only.left
  have behind {work : Work} (mem : unit ∈ s.queue ++ [work])
      (other : work.ofRequest r = false) :
      (s.queue ++ [work]).takeWhile (fun work => !work.ofRequest r)
        = s.queue.takeWhile fun work => !work.ofRequest r := by
    have before : unit ∈ s.queue := by
      rcases List.mem_append.mp mem with mem | mem
      · exact mem
      · rw [List.mem_singleton.mp mem, other] at own
        cases own
    exact takeWhile_append_of_mem before (by simp [own]) _
  have queue : move.state.queue.takeWhile (fun work => !work.ofRequest r)
      = s.queue.takeWhile fun work => !work.ofRequest r := by
    cases acts with
    | submitted id script serving same => exact behind waits rfl
    | requested id job cancelled handles frame serving unit' frames' =>
        refine behind waits ?_
        have later : s.requests.length ≠ r := by omega
        simp [Work.ofRequest, later]
    | shutDown =>
        rcases s.shutdown_eq with ⟨-, eq⟩ | ⟨-, requests, eq⟩
        · simp only [Move.done, Move.answer, Move.signal, eq]
        · simp only [Move.onto, Move.done, Move.answer, Move.signal, eq] at waits
          cases waits
    | continued scope' id script at' none same => exact absurd same (leaves script)
    | _ => rfl
  have ahead : ∀ work ∈ (move.state.ahead r).queue, work.isRequest = true := by
    intro work mem
    change work ∈ move.state.queue.takeWhile _ at mem
    rw [queue] at mem
    exact only.queue work mem
  refine ⟨⟨⟨ahead, left⟩, stacked, rests⟩, ?_, piled, seated⟩
  intro work mem
  change work ∈ (move.onto frames).inHand ++ (move.state.ahead r).queue at mem
  rw [none] at mem
  exact ahead work mem

theorem Frame.ordered_resume {signal : Signal} {frame : Frame}
    (grounded : Moment.Grounded ⟨s, ⟨.signal signal, frame :: frames⟩⟩)
    (considerate : Moment.Considerate ⟨s, ⟨.signal signal, frame :: frames⟩⟩)
    (ordered : Moment.Ordered r counts ⟨s, ⟨.signal signal, frame :: frames⟩⟩) :
    ((frame.resume s signal).onto frames).Ordered r
      (Moment.tally counts ⟨s, ⟨.signal signal, frame :: frames⟩⟩) := by
  have faithful := considerate.faithful (r := r) fun scope action same => by cases same
  -- No request but this one is looked at, so the others can be told apart from it.
  obtain ⟨other, blind⟩ : ∃ other, ∀ id, frame ≠ .firstLook id other := by
    cases frame with
    | firstLook id number => exact ⟨number + 1, by simp⟩
    | _ => exact ⟨0, by simp⟩
  obtain ⟨requests, -, eq⟩ := Frame.recast_resume
    (s.queue.takeWhile fun work => !work.ofRequest r) (.refl other s.requests) blind signal
  have grounded' : Moment.Grounded ⟨s.ahead r, ⟨.signal signal, frame :: frames⟩⟩ :=
    ⟨grounded.atHand, grounded.distinct, grounded.known.pools, grounded.known.due,
      grounded.known.control, grounded.known.frames⟩
  have regular := Frame.regular_resume grounded' ordered.regular
  have mounted := Frame.mounted_resume faithful.toGentle.modest ordered.mounted
  change ((frame.resume (s.recast _ s.requests) signal).onto frames).Regular _ at regular
  change ((frame.resume (s.recast _ s.requests) signal).onto frames).Mounted _ at mounted
  rw [eq] at regular mounted
  refine .of_recast ?_ regular mounted
  rw [(frame.undisturbed_resume s signal).sameQueue]

/-- Every step keeps the thread stacked as it should be, as long as the request waits. -/
theorem Moment.Step.ordered (step : m.Step after) (grounded : m.Grounded)
    (considerate : m.Considerate) (made : r < m.state.requests.length)
    (once : m.state.queue.countP (Work.ofRequest r) ≤ 1) (awaits : after.Awaits r)
    (there : after.state.phase ≠ .dropped) (ordered : m.Ordered r counts) :
    after.Ordered r (m.tally counts) := by
  cases step with
  | call s call frames =>
      by_cases blind : call.looksAtQueue = false
      · exact Call.ordered_blind blind considerate ordered
      · cases call with
        | act scope action =>
            exact (s.acts scope action).ordered (considerate.acts scope action rfl)
              made awaits ordered
        | offer slot devices => exact Call.ordered_offer considerate once awaits ordered
        | walk devices handedBack =>
            cases devices with
            | nil => exact Call.ordered_walk_nil ordered
            | cons => exact absurd rfl blind
        | _ => simp [Call.looksAtQueue] at blind
  | resume s signal frame frames => exact Frame.ordered_resume grounded considerate ordered
  | begin s signal action =>
      exact ⟨⟨ordered.regular.only, trivial, trivial⟩, ordered.mounted.requests, trivial,
        offUnit_nil⟩
  | deliver signal earlier later due =>
      exact ⟨⟨⟨ordered.regular.only.queue, ordered.regular.only.left⟩, trivial, trivial⟩,
        ordered.mounted.requests, trivial, offUnit_nil⟩
  | drop s signal => exact absurd s.phase_drop there

end Steps

/-! ### Runs -/

/-- A request of which a unit of work waits has been made, and nothing has happened to it. -/
theorem Consistent.of_waiting {n : Nat} {history : List Happening} {file : File}
    (holds : Consistent n history file) (waits : 0 < file.waiting) :
    history = [] ∧ file.waiting = 1 ∧ file.traces = []
      ∧ ∃ cancelled, file.request = some ⟨cancelled, [.unit], none⟩ := by
  cases holds with
  | queued cancelled => exact ⟨rfl, rfl, rfl, cancelled, rfl⟩
  | _ => simp at waits

/-- A run in which a request waits at last, and in which requests are all that has run so far. -/
structure Moment.Governed (r : Nat) (past : List Moment) (m : Moment) : Prop where
  ordered : m.Ordered r (starts past)
  tidy : Throughout Moment.Tidy past
  thorough : Throughout Moment.Thorough past
  laden : m.Laden (starts past)

section Runs

variable {backends : List Backend} {priorities : List Preference} {s : State}
  {past : List Moment} {now after : Moment} {r : Nat}

/-- A request that waits has one unit of work, which waits. -/
theorem Run.awaited (built : (construct backends priorities).result = .ok s)
    (run : Run (.initial s) past now) (awaits : now.Awaits r) :
    history r past = [] ∧ now.state.queue.countP (Work.ofRequest r) = 1
      ∧ now.inHand.countP (Work.ofRequest r) = 0 ∧ now.traces r = []
      ∧ ∃ cancelled, now.state.requests[r]? = some ⟨cancelled, [.unit], none⟩ := by
  obtain ⟨unit, waits, own⟩ := awaits
  have positive := List.countP_pos_iff.mpr ⟨unit, waits, own⟩
  have waiting : (now.file r).waiting = now.state.queue.countP (Work.ofRequest r)
      + now.inHand.countP (Work.ofRequest r) := rfl
  obtain ⟨none, once, untraced, cancelled, made⟩ :=
    (run.consistent built r).of_waiting (by omega)
  exact ⟨none, by omega, by omega, untraced, cancelled, made⟩

/-- A run of requests, at a moment at which one of them waits. -/
theorem Run.governed (built : (construct backends priorities).result = .ok s)
    (run : Run (.initial s) past now) (faithful : ∀ m ∈ past, m.Faithful)
    (there : now.state.phase ≠ .dropped) : now.Governed r past := by
  obtain ⟨regular, orderly⟩ := run.regular built faithful
  obtain ⟨mounted, -, thorough⟩ := run.mounted built fun m mem => (faithful m mem).toGentle.modest
  have ahead : ∀ work ∈ (now.state.ahead r).queue, work ∈ now.state.queue := fun work mem =>
    (List.takeWhile_sublist _).subset mem
  refine ⟨⟨⟨⟨fun work mem => regular.only.queue work (ahead work mem), regular.only.left⟩,
      regular.stacked, regular.rests⟩, fun work mem => mounted.requests work ?_, mounted.piled,
      mounted.seated⟩, orderly.mono fun _ _ => Moment.Orderly.tidy, thorough,
    (run.laden built faithful there).2⟩
  rcases List.mem_append.mp mem with mem | mem
  · exact List.mem_append_left _ mem
  · exact List.mem_append_right _ (ahead work mem)

/-- It goes on like that as long as the request waits. -/
theorem Moment.Governed.next (governed : now.Governed r past)
    (built : (construct backends priorities).result = .ok s) (run : Run (.initial s) past now)
    (step : now.Step after) (considerate : now.Considerate) (before : now.Awaits r)
    (awaits : after.Awaits r) (there : after.state.phase ≠ .dropped) :
    after.Governed r (past ++ [now]) := by
  obtain ⟨-, once, -, -, cancelled, made⟩ := run.awaited built before
  have made := (List.getElem?_eq_some_iff.mp made).1
  have alive : now.state.phase ≠ .dropped := fun gone => there (step.keeps_dropped gone)
  have ordered := step.ordered (run.grounded built) considerate made (Nat.le_of_eq once)
    awaits there
    governed.ordered
  have tidy := throughout_append_singleton.mpr
    ⟨governed.tidy, (governed.ordered.orderly considerate).tidy⟩
  have thorough := throughout_append_singleton.mpr ⟨governed.thorough, governed.ordered.thorough⟩
  have moored := run.moored built governed.tidy governed.thorough alive
  have later := (run.next step).moored built tidy thorough there
  have laden := step.laden (run.sound_of_tidy built governed.tidy).exclusive
    (fun slot registers => governed.ordered.registers considerate registers) moored
    (by rwa [starts_append_singleton] at later) governed.laden there
  refine ⟨?_, tidy, thorough, ?_⟩
  · rw [starts_append_singleton]
    exact ordered
  · rw [starts_append_singleton]
    exact laden

/-- A slot that is offered carries nothing. -/
theorem Moment.Governed.vacant (governed : now.Governed r past)
    (built : (construct backends priorities).result = .ok s) (run : Run (.initial s) past now)
    {slot : SlotId} {devices : List String}
    (offers : now.thread.control = .call (.offer slot devices))
    (there : now.state.phase ≠ .dropped) :
    (now.state.slot slot).bound = false ∧ (now.state.slot slot).pinned = false
      ∧ (now.state.slot slot).continuation = none ∧ now.state.hasSlot slot = true := by
  have exclusive := (run.sound_of_tidy built governed.tidy).exclusive
  have moored := run.moored built governed.tidy governed.thorough there
  have holds : slot ∈ now.thread.control.holds := by simp [offers, Control.holds]
  obtain ⟨still, apart⟩ := exclusive.apart holds
  refine ⟨exclusive.clear slot (by simp [offers, Control.clears]), ?_, ?_,
    exclusive.known slot (List.mem_append_left _ holds)⟩
  · apply Bool.eq_false_iff.mpr
    intro pinned
    rcases moored.held slot pinned with running | unit | unpins
    · rw [still] at running
      cases running
    · exact apart unit
    · simp [offers, Control.unpins] at unpins
  · by_contra left
    rcases governed.laden slot left with running | unit | unloads
    · rw [still] at running
      cases running
    · exact apart unit
    · simp [offers, Control.unloads] at unloads

end Runs

end SlotDispatch
