import SlotDispatch.Proofs.Accounted
import SlotDispatch.Proofs.Crowd
import SlotDispatch.Proofs.FileSteps

/-!
What a thread of a workload can be doing. Producers submit units of work, each of which leaves
a continuation and starts its slot; devices complete the slots in threads of their own. A
`Task` says how far such a thread has come, and `Task.thread` what the thread then looks like.

`Task.Moves` lists the steps that a task can take, each with all that it changes in the state,
and `Task.moves_of_step` says that the list is complete. A law about a crowd of such threads
is proved by going through the list.
-/

namespace SlotDispatch.Workload

/-- The unit of work of a number. -/
def unit (number : Nat) : Work := .scripted (unitName number) unitScript

/-- Where the script of a unit runs. -/
def scope (number : Nat) (slot : SlotId) : Scope := ⟨unitName number, slot⟩

/-! ### Tasks -/

/-- Who schedules: a producer that has submitted a unit, or a thread in which a slot has
completed. -/
inductive Caller where
  | producer
  | completion

/-- How far a unit has come in its script. -/
inductive Point where
  /-- The script begins. -/
  | entered
  /-- It is about to leave its continuation. -/
  | leaving
  | left
  | going
  /-- It is about to start its slot. -/
  | asking
  | starting
  | started
  | ended
  | succeeded
  /-- The device has refused the start, with this message. -/
  | refused (message : String)
  /-- The script has failed. -/
  | failed (message : String)

/-- How far a slot has come on its way back to its pool. -/
inductive Return where
  | discarding
  | marking
  | pushing

/-- What follows once a slot is back in its pool. -/
inductive After where
  /-- The walk goes on, which had found no unit for the slot. -/
  | walk (devices : List String)
  | reschedule

/-- What a thread of the workload is doing. -/
inductive Task where
  /-- Between two operations. -/
  | resting (answer : Answer)
  | submitting (number : Nat)
  | scheduling (caller : Caller)
  | walking (caller : Caller) (devices : List String) (handedBack : Bool)
  | offering (caller : Caller) (slot : SlotId) (devices : List String)
  | returning (caller : Caller) (slot : SlotId) (stage : Return) (after : After)
  | returned (caller : Caller) (after : After)
  | binding (caller : Caller) (slot : SlotId) (number : Nat)
  | performing (caller : Caller) (slot : SlotId) (number : Nat)
  | running (caller : Caller) (slot : SlotId) (number : Nat) (point : Point)
  /-- Scheduling is over. -/
  | answered (caller : Caller)
  | completing (slot : SlotId) (status : Status)
  | notifying (slot : SlotId) (status : Status)
  | following (slot : SlotId) (status : Status)
  | continuing (slot : SlotId) (id : String)
  | continued (slot : SlotId)

/-! ### Threads -/

def Caller.frames : Caller → List Frame
  | .producer => [.answer .accepted]
  | .completion => []

def After.frame : After → Frame
  | .walk devices => .walk devices
  | .reschedule => .reschedule

def Return.call (slot : SlotId) : Return → Call
  | .discarding => .discard slot
  | .marking => .markIdle slot
  | .pushing => .pushIdle slot

namespace Point

def control (scope : Scope) : Point → Control
  | .entered => .call (.script scope unitScript)
  | .leaving => .call (.act (some scope) (.andThen []))
  | .left | .started | .succeeded => .signal (.returned .done)
  | .going => .call (.script scope [.start])
  | .asking => .call (.act (some scope) .start)
  | .starting => .call (.start scope.slot)
  | .ended => .call (.script scope [])
  | .refused message | .failed message => .signal (.failed (.ofMessage message))

def frames (scope : Scope) : Point → List Frame
  | .leaving | .left => [.script scope "then" [.start]]
  | .asking | .starting | .started | .refused _ => [.script scope "start" []]
  | _ => []

end Point

/-- What a thread that does this looks like. -/
def Task.thread : Task → Thread
  | .resting answer => ⟨.signal (.returned answer), []⟩
  | .submitting number => .ofCall (.act none (submission number))
  | .scheduling caller => ⟨.call .schedule, caller.frames⟩
  | .walking caller devices handedBack => ⟨.call (.walk devices handedBack), caller.frames⟩
  | .offering caller slot devices => ⟨.call (.offer slot devices), caller.frames⟩
  | .returning caller slot stage after => ⟨.call (stage.call slot), after.frame :: caller.frames⟩
  | .returned caller after => ⟨.signal (.returned .done), after.frame :: caller.frames⟩
  | .binding caller slot number => ⟨.call (.bind slot (unit number)), caller.frames⟩
  | .performing caller slot number =>
      ⟨.call (.perform slot (unit number)), .bound slot :: caller.frames⟩
  | .running caller slot number point =>
      ⟨point.control (scope number slot),
        point.frames (scope number slot) ++ .bound slot :: caller.frames⟩
  | .answered caller => ⟨.signal (.returned .done), caller.frames⟩
  | .completing slot status => .ofCall (.complete slot status)
  | .notifying slot status => .ofCall (.notify slot status)
  | .following slot status => ⟨.call (.followUp slot status), [.completing slot]⟩
  | .continuing slot id => ⟨.call (.script ⟨id, slot⟩ []), [.completing slot]⟩
  | .continued slot => ⟨.signal (.returned .done), [.completing slot]⟩

/-! ### What a task has in its hands -/

/-- Whether a unit that has come this far still has its slot. -/
def Point.owns : Point → Bool
  | .started | .ended | .succeeded => false
  | _ => true

/-- Whether a unit that has come this far has left its continuation, for a start that has not
been granted yet. -/
def Point.leaves : Point → Bool
  | .left | .going | .asking | .starting => true
  | _ => false

/-- The slot that a task has in its hands. -/
def Task.slot? : Task → Option SlotId
  | .offering _ slot _ | .returning _ slot _ _ | .binding _ slot _ | .performing _ slot _
  | .completing slot _ | .notifying slot _ | .following slot _ | .continuing slot _
  | .continued slot => some slot
  | .running _ slot _ point => if point.owns then some slot else none
  | _ => none

/-- Whether a task brings a completion in, after which its slot does not execute any more. -/
def Task.completes : Task → Bool
  | .completing _ _ => true
  | _ => false

/-- Whether a continuation waits on the slot of a task. -/
def Task.leaves : Task → Bool
  | .running _ _ _ point => point.leaves
  | .completing _ _ | .notifying _ _ | .following _ _ => true
  | _ => false

/-- A continuation of a unit waits on the slot. -/
def Awaited (s : State) (slot : SlotId) : Prop :=
  ∃ id, (s.slot slot).continuation = some (.scripted id [])

/-- What a task relies on of its slot. -/
structure Task.Expects (s : State) (task : Task) : Prop where
  still : ∀ slot, task.slot? = some slot → task.completes = false → (s.slot slot).running = false
  awaited : ∀ slot, task.slot? = some slot → task.leaves = true → Awaited s slot

/-! ### Steps -/

/-- A workload goes on: the dispatcher serves, only its units wait, and every slot reports to
the dispatcher and completes in a thread of its device. -/
structure Going (s : State) : Prop where
  serving : s.serving = true
  units : ∃ waiting : List Nat, s.queue = waiting.map unit
  attached : s.Attached
  background : ∀ slot : SlotId, s.hasSlot slot = true →
    (s.conduct slot.device).mode = .background

/-- The steps of a task that change nothing in the state. -/
inductive Task.Silent (s : State) : Task → Task → Prop where
  | walks (caller : Caller) :
      Silent s (.scheduling caller) (.walking caller (s.priorities.map Preference.name) false)
  | passes (caller : Caller) (device : String) (rest : List String) (handedBack : Bool) :
      s.idle device = [] →
      Silent s (.walking caller (device :: rest) handedBack) (.walking caller rest handedBack)
  /-- Work may have come in while a slot was held that found none. -/
  | again (caller : Caller) : s.queue ≠ [] →
      Silent s (.walking caller [] true) (.scheduling caller)
  | stops (caller : Caller) : s.queue = [] → Silent s (.walking caller [] true) (.answered caller)
  | unbound (caller : Caller) : Silent s (.walking caller [] false) (.answered caller)
  | unused (caller : Caller) (slot : SlotId) (devices : List String) : s.queue = [] →
      Silent s (.offering caller slot devices) (.returning caller slot .discarding (.walk devices))
  | leaving (caller : Caller) (slot : SlotId) (number : Nat) :
      Silent s (.running caller slot number .entered) (.running caller slot number .leaving)
  | asking (caller : Caller) (slot : SlotId) (number : Nat) :
      Silent s (.running caller slot number .going) (.running caller slot number .asking)
  | starting (caller : Caller) (slot : SlotId) (number : Nat) :
      Silent s (.running caller slot number .asking) (.running caller slot number .starting)
  | succeeded (caller : Caller) (slot : SlotId) (number : Nat) :
      Silent s (.running caller slot number .ended) (.running caller slot number .succeeded)
  | claimed (caller : Caller) (slot : SlotId) (number : Nat) :
      Silent s (.running caller slot number .succeeded) (.answered caller)
  | released (caller : Caller) (slot : SlotId) (number : Nat) (message : String) :
      Silent s (.running caller slot number (.failed message))
        (.returning caller slot .discarding .reschedule)
  | onward (caller : Caller) (devices : List String) :
      Silent s (.returned caller (.walk devices)) (.walking caller devices true)
  | reschedules (caller : Caller) :
      Silent s (.returned caller .reschedule) (.scheduling caller)
  | answered : Silent s (.answered .producer) (.resting .accepted)
  | followed (slot : SlotId) (id : String) : Silent s (.continuing slot id) (.continued slot)
  | freed (slot : SlotId) :
      Silent s (.continued slot) (.returning .completion slot .marking .reschedule)

/-- The steps of a task. -/
inductive Task.Moves (s : State) : Task → State → Task → Prop where
  | silent {task after : Task} : task.Silent s after → Moves s task s after
  | submitted (number : Nat) :
      Moves s (.submitting number) { s with queue := s.queue ++ [unit number] }
        (.scheduling .producer)
  | finds (caller : Caller) (device : String) (rest : List String) (handedBack : Bool)
      (index : Nat) (left : List Nat) : s.idle device = index :: left →
      Moves s (.walking caller (device :: rest) handedBack)
        (s.modifyDevice device fun device => { device with idle := left })
        (.offering caller ⟨device, index⟩ rest)
  | used (caller : Caller) (slot : SlotId) (devices : List String) (number : Nat)
      (queue : List Work) : s.queue = unit number :: queue →
      Moves s (.offering caller slot devices) { s with queue } (.binding caller slot number)
  | bound (caller : Caller) (slot : SlotId) (number : Nat) :
      Moves s (.binding caller slot number)
        (s.modifySlot slot fun slot => { slot with bound := true, pinned := true })
        (.performing caller slot number)
  | entered (caller : Caller) (slot : SlotId) (number : Nat) :
      Moves s (.performing caller slot number) (s.enter .work (unitName number) slot)
        (.running caller slot number .entered)
  | left (caller : Caller) (slot : SlotId) (number : Nat) (id : String) :
      Moves s (.running caller slot number .leaving)
        (s.setContinuation slot (.scripted id [])) (.running caller slot number .left)
  | going (caller : Caller) (slot : SlotId) (number : Nat) (id action : String)
      (answer : Answer) :
      Moves s (.running caller slot number .left) (s.note (.acted id action answer))
        (.running caller slot number .going)
  | started (caller : Caller) (slot : SlotId) (number : Nat) (status : Status) :
      Moves s (.running caller slot number .starting)
        { s.started slot with due := s.due ++ [(slot, status)] }
        (.running caller slot number .started)
  | refused (caller : Caller) (slot : SlotId) (number : Nat) (message : String) :
      (s.conduct slot.device).refusal = some message →
      Moves s (.running caller slot number .starting) (s.note (.started slot))
        (.running caller slot number (.refused message))
  | ended (caller : Caller) (slot : SlotId) (number : Nat) (id action : String)
      (answer : Answer) :
      Moves s (.running caller slot number .started) (s.note (.acted id action answer))
        (.running caller slot number .ended)
  | failed (caller : Caller) (slot : SlotId) (number : Nat) (id action message : String) :
      Moves s (.running caller slot number (.refused message))
        (s.note (.failed id action (.ofMessage message)))
        (.running caller slot number (.failed message))
  | discarded (caller : Caller) (slot : SlotId) (after : After) :
      Moves s (.returning caller slot .discarding after) (s.clearContinuation slot)
        (.returning caller slot .marking after)
  | marked (caller : Caller) (slot : SlotId) (after : After) :
      Moves s (.returning caller slot .marking after)
        (s.modifySlot slot fun slot => { slot with bound := false, pinned := false })
        (.returning caller slot .pushing after)
  | pushed (caller : Caller) (slot : SlotId) (after : After) :
      Moves s (.returning caller slot .pushing after) (s.pushIdle slot) (.returned caller after)
  | completed (slot : SlotId) (status : Status) :
      Moves s (.completing slot status)
        (s.modifySlot slot fun slot => { slot with output := slot.input, running := false })
        (.notifying slot status)
  | notified (slot : SlotId) (status : Status) :
      Moves s (.notifying slot status)
        (s.modifySlot slot fun slot => { slot with pinned := false, last := status })
        (.following slot status)
  | follows (slot : SlotId) (status : Status) (id : String) :
      Moves s (.following slot status)
        ((s.relieved slot).enter (.followUp status) id slot) (.continuing slot id)

/-! ### The list is complete -/

section Complete

variable {s t : State} {next : Thread}

/-- The step of a thread that makes a call. -/
theorem of_call {call : Call} {frames : List Frame} {move : Move} (makes : call.step s = move)
    (stepped : Thread.step s ⟨.call call, frames⟩ = some (t, next)) :
    t = move.state ∧ next = ⟨move.control, move.frames ++ frames⟩ := by
  subst makes
  obtain ⟨rfl, rfl⟩ := Prod.mk.inj (Option.some.inj stepped)
  exact ⟨rfl, rfl⟩

/-- The step of a thread that hands a signal to its first frame. -/
theorem of_resume {signal : Signal} {frame : Frame} {frames : List Frame} {move : Move}
    (makes : frame.resume s signal = move)
    (stepped : Thread.step s ⟨.signal signal, frame :: frames⟩ = some (t, next)) :
    t = move.state ∧ next = ⟨move.control, move.frames ++ frames⟩ := by
  subst makes
  obtain ⟨rfl, rfl⟩ := Prod.mk.inj (Option.some.inj stepped)
  exact ⟨rfl, rfl⟩

/-- Nothing refuses the submission of a unit, which is then the last to wait. -/
theorem step_submission (going : Going s) (number : Nat) :
    Call.step s (.act none (submission number))
      = .await { s with queue := s.queue ++ [unit number] } .schedule (.answer .accepted) := by
  have serving := going.serving
  have present : s.phase ≠ .dropped := by
    intro dropped
    simp [State.serving, dropped] at serving
  simp only [Call.step, State.act, submission, Move.onDispatcher, State.accept, serving, if_true,
    if_neg present]
  rfl

/-- A slot that does not execute starts, and its completion falls due, unless its device
refuses. -/
theorem step_start (going : Going s) {slot : SlotId} (present : s.hasSlot slot = true)
    (still : (s.slot slot).running = false) :
    (∃ message, (s.conduct slot.device).refusal = some message
        ∧ Call.step s (.start slot)
          = .signal (s.note (.started slot)) (.failed (.ofMessage message)))
      ∨ ∃ status, Call.step s (.start slot)
        = .done { s.started slot with due := s.due ++ [(slot, status)] } := by
  have conduct : (s.note (.started slot)).conduct slot.device = s.conduct slot.device := rfl
  have idle : ((s.note (.started slot)).slot slot).running = false := still
  simp only [Call.step, State.start, conduct]
  cases refuses : (s.conduct slot.device).refusal with
  | some message => exact .inl ⟨message, rfl, rfl⟩
  | none =>
      refine .inr ⟨(s.conduct slot.device).status, ?_⟩
      simp only [idle, State.launch, going.background slot present]
      rfl

theorem Point.moves_of_step {caller : Caller} {slot : SlotId} {number : Nat} {point : Point}
    (going : Going s) (present : point.owns = true → s.hasSlot slot = true)
    (still : point.owns = true → (s.slot slot).running = false)
    (stepped : (Task.running caller slot number point).thread.step s = some (t, next)) :
    ∃ after : Task, next = after.thread
      ∧ (Task.running caller slot number point).Moves s t after := by
  cases point with
  | entered =>
      obtain ⟨rfl, rfl⟩ := of_call rfl stepped
      exact ⟨_, rfl, .silent (.leaving caller slot number)⟩
  | leaving =>
      obtain ⟨rfl, rfl⟩ := of_call rfl stepped
      exact ⟨.running caller slot number .left, rfl, .left caller slot number _⟩
  | left =>
      obtain ⟨rfl, rfl⟩ := of_resume rfl stepped
      exact ⟨.running caller slot number .going, rfl, .going caller slot number _ _ _⟩
  | going =>
      obtain ⟨rfl, rfl⟩ := of_call rfl stepped
      exact ⟨.running caller slot number .asking, rfl, .silent (.asking caller slot number)⟩
  | asking =>
      obtain ⟨rfl, rfl⟩ := of_call rfl stepped
      exact ⟨.running caller slot number .starting, rfl, .silent (.starting caller slot number)⟩
  | starting =>
      rcases step_start going (present rfl) (still rfl) with ⟨message, refuses, eq⟩ | ⟨status, eq⟩
      · obtain ⟨rfl, rfl⟩ := of_call eq stepped
        exact ⟨.running caller slot number (.refused message), rfl,
          .refused caller slot number message refuses⟩
      · obtain ⟨rfl, rfl⟩ := of_call eq stepped
        exact ⟨.running caller slot number .started, rfl, .started caller slot number status⟩
  | started =>
      obtain ⟨rfl, rfl⟩ := of_resume rfl stepped
      exact ⟨.running caller slot number .ended, rfl, .ended caller slot number _ _ _⟩
  | ended =>
      obtain ⟨rfl, rfl⟩ := of_call rfl stepped
      exact ⟨.running caller slot number .succeeded, rfl, .silent (.succeeded caller slot number)⟩
  | succeeded =>
      obtain ⟨rfl, rfl⟩ := of_resume rfl stepped
      exact ⟨.answered caller, rfl, .silent (.claimed caller slot number)⟩
  | refused message =>
      obtain ⟨rfl, rfl⟩ := of_resume rfl stepped
      exact ⟨.running caller slot number (.failed message), rfl,
        .failed caller slot number _ _ message⟩
  | failed message =>
      obtain ⟨rfl, rfl⟩ := of_resume rfl stepped
      exact ⟨.returning caller slot .discarding .reschedule, rfl,
        .silent (.released caller slot number message)⟩

/-- A search passes a device, takes a slot of it, begins anew, or is over. -/
theorem Task.moves_of_walking {caller : Caller} {devices : List String} {handedBack : Bool}
    (stepped : (Task.walking caller devices handedBack).thread.step s = some (t, next)) :
    ∃ after : Task, next = after.thread
      ∧ (Task.walking caller devices handedBack).Moves s t after := by
  cases devices with
  | nil =>
      cases handedBack with
      | false =>
          obtain ⟨rfl, rfl⟩ := of_call rfl stepped
          exact ⟨.answered caller, rfl, .silent (.unbound caller)⟩
      | true =>
          by_cases empty : s.queue = []
          · obtain ⟨rfl, rfl⟩ := of_call (Call.step_walk_nil empty true) stepped
            exact ⟨.answered caller, rfl, .silent (.stops caller empty)⟩
          · have again : Call.step s (.walk [] true) = .call s .schedule := by
              simp [Call.step, empty]
            obtain ⟨rfl, rfl⟩ := of_call again stepped
            exact ⟨.scheduling caller, rfl, .silent (.again caller empty)⟩
  | cons device rest =>
      cases idle : s.idle device with
      | nil =>
          obtain ⟨rfl, rfl⟩ := of_call (Call.step_walk_of_empty idle rest handedBack) stepped
          exact ⟨.walking caller rest handedBack, rfl,
            .silent (.passes caller device rest handedBack idle)⟩
      | cons index left =>
          obtain ⟨rfl, rfl⟩ := of_call (Call.step_walk_of_idle idle rest handedBack) stepped
          exact ⟨.offering caller ⟨device, index⟩ rest, rfl,
            .finds caller device rest handedBack index left idle⟩

/-- A slot that was found is bound to the unit that waits longest, or goes back. -/
theorem Task.moves_of_offering {caller : Caller} {slot : SlotId} {devices : List String}
    (going : Going s)
    (stepped : (Task.offering caller slot devices).thread.step s = some (t, next)) :
    ∃ after : Task, next = after.thread ∧ (Task.offering caller slot devices).Moves s t after := by
  obtain ⟨waiting, units⟩ := going.units
  cases waiting with
  | nil =>
      have empty : s.queue = [] := units
      obtain ⟨rfl, rfl⟩ := of_call (Call.step_offer_of_empty empty devices) stepped
      exact ⟨.returning caller slot .discarding (.walk devices), rfl,
        .silent (.unused caller slot devices empty)⟩
  | cons number rest =>
      have first : s.queue = unit number :: rest.map unit := units
      obtain ⟨rfl, rfl⟩ := of_call (Call.step_offer first devices) stepped
      exact ⟨.binding caller slot number, rfl, .used caller slot devices number _ first⟩

/-- A completion reaches the dispatcher, since every slot is attached. -/
theorem Task.moves_of_completing {slot : SlotId} {status : Status} (going : Going s)
    (stepped : (Task.completing slot status).thread.step s = some (t, next)) :
    ∃ after : Task, next = after.thread ∧ (Task.completing slot status).Moves s t after := by
  have attached := (going.attached.modifySlot slot
    (show ∀ old : Slot, { old with output := old.input, running := false }.attached
      = old.attached from fun _ => rfl)).slot slot
  have tells : Call.step s (.complete slot status)
      = .call (s.modifySlot slot fun slot => { slot with output := slot.input, running := false })
        (.notify slot status) := by
    simp only [Call.step, State.complete]
    rw [if_pos attached]
  obtain ⟨rfl, rfl⟩ := of_call tells stepped
  exact ⟨.notifying slot status, rfl, .completed slot status⟩

/-- The slot is freed afterwards, since the dispatcher is there. -/
theorem Task.moves_of_notifying {slot : SlotId} {status : Status} (going : Going s)
    (stepped : (Task.notifying slot status).thread.step s = some (t, next)) :
    ∃ after : Task, next = after.thread ∧ (Task.notifying slot status).Moves s t after := by
  have there : s.phase ≠ .dropped := by
    intro dropped
    have serving := going.serving
    simp [State.serving, dropped] at serving
  have notes : Call.step s (.notify slot status)
      = .await (s.modifySlot slot fun slot => { slot with pinned := false, last := status })
        (.followUp slot status) (.completing slot) := by
    simp only [Call.step, State.notify]
    rw [if_neg there]
  obtain ⟨rfl, rfl⟩ := of_call notes stepped
  exact ⟨.following slot status, rfl, .notified slot status⟩

/-- Every task takes one of the steps of the list. -/
theorem Task.moves_of_step {task : Task} (going : Going s) (expects : task.Expects s)
    (present : ∀ slot, task.slot? = some slot → s.hasSlot slot = true)
    (stepped : task.thread.step s = some (t, next)) :
    ∃ after : Task, next = after.thread ∧ task.Moves s t after := by
  cases task with
  | resting answer => cases stepped
  | submitting number =>
      obtain ⟨rfl, rfl⟩ := of_call (step_submission going number) stepped
      exact ⟨.scheduling .producer, rfl, .submitted number⟩
  | scheduling caller =>
      obtain ⟨rfl, rfl⟩ := of_call (Call.step_schedule going.serving) stepped
      exact ⟨.walking caller _ false, rfl, .silent (.walks caller)⟩
  | walking caller devices handedBack => exact Task.moves_of_walking stepped
  | offering caller slot devices => exact Task.moves_of_offering going stepped
  | returning caller slot stage after =>
      cases stage with
      | discarding =>
          obtain ⟨rfl, rfl⟩ := of_call rfl stepped
          exact ⟨.returning caller slot .marking after, rfl, .discarded caller slot after⟩
      | marking =>
          obtain ⟨rfl, rfl⟩ := of_call rfl stepped
          exact ⟨.returning caller slot .pushing after, rfl, .marked caller slot after⟩
      | pushing =>
          obtain ⟨rfl, rfl⟩ := of_call rfl stepped
          exact ⟨.returned caller after, rfl, .pushed caller slot after⟩
  | returned caller after =>
      cases after with
      | walk devices =>
          obtain ⟨rfl, rfl⟩ := of_resume rfl stepped
          exact ⟨.walking caller devices true, rfl, .silent (.onward caller devices)⟩
      | reschedule =>
          obtain ⟨rfl, rfl⟩ := of_resume rfl stepped
          exact ⟨.scheduling caller, rfl, .silent (.reschedules caller)⟩
  | binding caller slot number =>
      obtain ⟨rfl, rfl⟩ := of_call rfl stepped
      exact ⟨.performing caller slot number, rfl, .bound caller slot number⟩
  | performing caller slot number =>
      obtain ⟨rfl, rfl⟩ := of_call rfl stepped
      exact ⟨.running caller slot number .entered, rfl, .entered caller slot number⟩
  | running caller slot number point =>
      refine Point.moves_of_step going ?_ ?_ stepped
      · intro owns
        exact present slot (if_pos owns)
      · intro owns
        exact expects.still slot (if_pos owns) rfl
  | answered caller =>
      cases caller with
      | producer =>
          obtain ⟨rfl, rfl⟩ := of_resume rfl stepped
          exact ⟨.resting .accepted, rfl, .silent .answered⟩
      | completion => cases stepped
  | completing slot status => exact Task.moves_of_completing going stepped
  | notifying slot status => exact Task.moves_of_notifying going stepped
  | following slot status =>
      obtain ⟨id, left⟩ := expects.awaited slot rfl rfl
      have makes : Call.step s (.followUp slot status)
          = .call ((s.relieved slot).enter (.followUp status) id slot) (.script ⟨id, slot⟩ []) := by
        rw [Call.step, State.followUp, left]
        rfl
      obtain ⟨rfl, rfl⟩ := of_call makes stepped
      exact ⟨.continuing slot id, rfl, .follows slot status id⟩
  | continuing slot id =>
      obtain ⟨rfl, rfl⟩ := of_call rfl stepped
      exact ⟨.continued slot, rfl, .silent (.followed slot id)⟩
  | continued slot =>
      have makes : Frame.resume s (.completing slot) (.returned .done)
          = .await s (.markIdle slot) .reschedule := by
        simp only [Frame.resume]
        rw [if_pos going.serving]
      obtain ⟨rfl, rfl⟩ := of_resume makes stepped
      exact ⟨.returning .completion slot .marking .reschedule, rfl, .silent (.freed slot)⟩

end Complete

end SlotDispatch.Workload
