import SlotDispatch.Proofs.Acts
import SlotDispatch.Proofs.SlotInvariant

/-!
What the steps of a thread make of the state. `Call.Changes` and `Frame.Changes` list the
states that a call or a frame can come to, each with all that is changed, and every step is on
the list. A law that has to do with the state alone is proved by going through it: first of
all that a frame leaves slots and work undisturbed, and that a call disturbs at most one of
them, the slots only if it is among those that `Call.movesSlots`, the work only if it
`Call.movesWork`.
-/

namespace SlotDispatch

/-! ### Starts -/

namespace State

/-- Whether a slot that is asked to start will execute. -/
def grants (s : State) (slot : SlotId) : Bool :=
  (s.conduct slot.device).refusal.isNone && !(s.slot slot).running

/-- A slot that was started. -/
def started (s : State) (slot : SlotId) : State :=
  (s.note (.started slot)).modifySlot slot fun slot => { slot with running := true, output := none }

/-- A start is refused, and only noted, or it is granted and the slot executes. -/
theorem start_cases (s : State) (slot : SlotId) :
    (∃ error, s.grants slot = false
        ∧ s.start slot = .signal (s.note (.started slot)) (.failed error))
      ∨ (s.grants slot = true
        ∧ s.start slot = (s.started slot).launch slot (s.conduct slot.device)) := by
  simp only [start]
  split
  · next message refused =>
      refine .inl ⟨_, ?_, rfl⟩
      simp [grants, show (s.conduct slot.device).refusal = some message from refused]
  · next willing =>
      have willing : (s.conduct slot.device).refusal = none := willing
      split
      · next running =>
          have running : (s.slot slot).running = true := running
          exact .inl ⟨_, by simp [grants, running], rfl⟩
      · next idle =>
          have idle : (s.slot slot).running = false := Bool.eq_false_iff.mpr idle
          exact .inr ⟨by simp [grants, willing, idle], rfl⟩

/-- How a device goes on with a start that was granted disturbs nothing. -/
theorem undisturbed_launch (s : State) (slot : SlotId) (conduct : Conduct) :
    Undisturbed s (s.launch slot conduct).state := by
  simp only [launch]
  split <;> exact ⟨⟨rfl, rfl⟩, rfl, rfl, rfl⟩

end State

/-! ### What steps change -/

/-- The states that a call can come to. -/
inductive Call.Changes (s : State) : Call → State → Prop where
  | script (scope : Scope) (rest : Script) : Changes s (.script scope rest) s
  | schedule : Changes s .schedule s
  | walked (devices : List String) (handedBack : Bool) : Changes s (.walk devices handedBack) s
  | unused (slot : SlotId) (devices : List String) : Changes s (.offer slot devices) s
  | acted (scope : Option Scope) (action : Action) :
      Changes s (.act scope action) (s.act scope action).state
  | popped (device : String) (rest : List String) (handedBack : Bool) (index : Nat)
      (left : List Nat) : s.idle device = index :: left →
      Changes s (.walk (device :: rest) handedBack)
        (s.modifyDevice device fun device => { device with idle := left })
  | dequeued (slot : SlotId) (devices : List String) (work : Work) (queue : List Work) :
      s.queue = work :: queue → Changes s (.offer slot devices) { s with queue }
  | bound (slot : SlotId) (work : Work) : Changes s (.bind slot work)
      (s.modifySlot slot fun slot => { slot with bound := true, pinned := true })
  /-- A unit of work begins to run, or its request is settled at once. -/
  | performed (slot : SlotId) (work : Work) (requests : List Request) (log : List Event) :
      Changes s (.perform slot work) { s with requests, log }
  | loaded (slot : SlotId) (id : String) (number : Nat) (job : Job) (log : List Event) :
      Changes s (.perform slot (.request id number job))
        ({ s with log }.modifySlot slot fun slot => { slot with input := some job.value })
  | refused (slot : SlotId) :
      s.grants slot = false → Changes s (.start slot) (s.note (.started slot))
  | granted (slot : SlotId) (due : List (SlotId × Status)) :
      s.grants slot = true → (∀ entry ∈ due, entry ∈ s.due ∨ entry.1 = slot) →
      Changes s (.start slot) { s.started slot with due }
  | completed (slot : SlotId) (status : Status) : Changes s (.complete slot status)
      (s.modifySlot slot fun slot => { slot with output := slot.input, running := false })
  | notified (slot : SlotId) (status : Status) : Changes s (.notify slot status)
      (s.modifySlot slot fun slot => { slot with pinned := false, last := status })
  | relieved (slot : SlotId) (status : Status) (requests : List Request) (log : List Event) :
      Changes s (.followUp slot status)
        { s.modifySlot slot fun slot => { slot with continuation := none } with requests, log }
  | discarded (slot : SlotId) : Changes s (.discard slot) (s.clearContinuation slot)
  | freed (slot : SlotId) : Changes s (.markIdle slot)
      (s.modifySlot slot fun slot => { slot with bound := false, pinned := false })
  | pushed (slot : SlotId) : Changes s (.pushIdle slot) (s.pushIdle slot)

/-- The states that a frame can come to once it is handed a signal. A frame that waits on behalf
of a request writes to that request only. -/
inductive Frame.Changes (s : State) : Frame → State → Prop where
  | unchanged (frame : Frame) : Changes s frame s
  | noted (scope : Scope) (action : String) (rest : Script) (event : Event) :
      Changes s (.script scope action rest) (s.note event)
  | kept (id : String) (number : Nat) : Changes s (.keep id number) (s.keep id number false)
  | looked (id : String) (number : Nat) : Changes s (.firstLook id number) (s.keep id number true)
  /-- The continuation of a request is left on the slot that its unit was bound to. -/
  | registered (slot : SlotId) (id : String) (number : Nat) (complete : Script) :
      Changes s (.preparing slot id number complete)
        ((s.modifyRequest number (Request.hold .continuation)).setContinuation slot
          (.request id number complete))
  | unprepared (slot : SlotId) (id : String) (number : Nat) (complete : Script)
      (requests : List Request) (others : ∀ n, number ≠ n → requests[n]? = s.requests[n]?) :
      Changes s (.preparing slot id number complete) { s with requests }
  | handedOn (slot : SlotId) (number : Nat) (requests : List Request)
      (others : ∀ n, number ≠ n → requests[n]? = s.requests[n]?) :
      Changes s (.starting slot number) { s with requests }
  | collected (slot : SlotId) (number : Nat) (requests : List Request)
      (others : ∀ n, number ≠ n → requests[n]? = s.requests[n]?) :
      Changes s (.collecting slot number) { s with requests }
  | detached (slot : SlotId) : Changes s (.parting slot true) (s.detach slot)

theorem State.changes_launch {s : State} {slot : SlotId} (granted : s.grants slot = true)
    (conduct : Conduct) :
    (Call.start slot).Changes s ((s.started slot).launch slot conduct).state := by
  have before (entry) (mem : entry ∈ s.due) : entry ∈ s.due ∨ entry.1 = slot := .inl mem
  simp only [launch]
  split
  · exact .granted slot s.due granted before
  · exact .granted slot s.due granted before
  · exact .granted slot s.due granted before
  · refine .granted slot _ granted fun entry mem => ?_
    rcases List.mem_append.mp mem with mem | mem
    · exact before entry mem
    · exact .inr (congrArg Prod.fst (List.mem_singleton.mp mem))

/-- Every call comes to a state on the list. -/
theorem Call.changes (s : State) (call : Call) : call.Changes s (call.step s).state := by
  cases call with
  | act scope action => exact .acted scope action
  | script scope rest => cases rest <;> exact .script ..
  | schedule =>
      simp only [step]
      split <;> exact .schedule
  | walk devices handedBack =>
      cases devices with
      | nil =>
          simp only [step]
          split <;> exact .walked ..
      | cons device rest =>
          simp only [step]
          split
          · exact .walked ..
          · next index t found =>
              obtain ⟨left, idle, rfl⟩ := State.popIdle_eq_some found
              exact .popped device rest handedBack index left idle
  | offer slot devices =>
      simp only [step]
      split
      · exact .unused ..
      · next work queue shape => exact .dequeued slot devices work queue shape
  | bind slot work => exact .bound slot work
  | perform slot work =>
      cases work with
      | scripted id script => exact .performed slot _ s.requests _
      | request id number job =>
          simp only [step, State.perform]
          repeat' split
          · exact .performed slot _ _ s.log
          · exact .loaded slot id number job _
          · exact .performed slot _ _ _
  | start slot =>
      rcases s.start_cases slot with ⟨error, refused, eq⟩ | ⟨granted, eq⟩
      · rw [step, eq]
        exact .refused slot refused
      · rw [step, eq]
        exact State.changes_launch granted _
  | complete slot status =>
      simp only [step, State.complete]
      split <;> exact .completed slot status
  | notify slot status => exact .notified slot status
  | followUp slot status =>
      simp only [step, State.followUp]
      repeat' split
      · exact .relieved slot status s.requests s.log
      · exact .relieved slot status s.requests _
      · exact .relieved slot status s.requests _
      · exact .relieved slot status _ s.log
  | discard slot => exact .discarded slot
  | markIdle slot => exact .freed slot
  | pushIdle slot => exact .pushed slot

theorem State.requests_release_of_ne (s : State) (holder : Holder) {number : Nat} (n : Nat)
    (differs : number ≠ n) : (s.release number holder).requests[n]? = s.requests[n]? :=
  List.getElem?_modify_ne _ _ differs

theorem State.requests_settle_release_of_ne (s : State) (outcome : Outcome) (holder : Holder)
    {number : Nat} (n : Nat) (differs : number ≠ n) :
    ((s.settle number outcome).release number holder).requests[n]? = s.requests[n]? :=
  (State.requests_release_of_ne _ holder n differs).trans (List.getElem?_modify_ne _ _ differs)

/-- So does every frame. -/
theorem Frame.changes (s : State) (frame : Frame) (signal : Signal) :
    frame.Changes s (frame.resume s signal).state := by
  cases frame with
  | script scope action rest =>
      cases signal with
      | returned result => exact .noted scope action rest _
      | failed error => exact .noted scope action rest _
      | _ => exact .unchanged _
  | keep id number =>
      cases signal with
      | returned answer => exact .kept id number
      | _ => exact .unchanged _
  | firstLook id number =>
      cases signal with
      | returned answer =>
          simp only [resume]
          split
          · exact .looked id number
          · exact .unchanged _
      | _ => exact .unchanged _
  | preparing slot id number complete =>
      cases signal with
      | returned answer => exact .registered slot id number complete
      | failed error =>
          exact .unprepared slot id number complete _ (s.requests_settle_release_of_ne _ _)
      | declined | panicked message =>
          exact .unprepared slot id number complete _ (s.requests_release_of_ne _)
  | starting slot number =>
      cases signal with
      | failed error => exact .handedOn slot number _ (s.requests_settle_release_of_ne _ _)
      | returned answer | declined | panicked message =>
          exact .handedOn slot number _ (s.requests_release_of_ne _)
  | completing slot =>
      cases signal <;> simp only [resume] <;> try split
      all_goals exact .unchanged _
  | parting slot held =>
      cases held with
      | true => cases signal <;> exact .detached slot
      | false => cases signal <;> exact .unchanged _
  | collecting slot number =>
      cases signal with
      | returned answer | failed error =>
          exact .collected slot number _ (s.requests_settle_release_of_ne _ _)
      | declined | panicked message =>
          exact .collected slot number _ (s.requests_release_of_ne _)
  | _ => cases signal <;> exact .unchanged _

/-! ### Frames -/

open State in
/-- A frame that is resumed leaves slots and work undisturbed. -/
theorem Frame.undisturbed_resume (s : State) (frame : Frame) (signal : Signal) :
    Undisturbed s (frame.resume s signal).state := by
  have changes := frame.changes s signal
  generalize (frame.resume s signal).state = t at changes ⊢
  cases changes with
  | registered slot id number complete =>
      exact Undisturbed.trans (t := s.modifyRequest number (Request.hold .continuation))
        ⟨⟨rfl, rfl⟩, rfl, rfl, rfl⟩ (undisturbed_setContinuation _ _ _)
  | detached slot => exact undisturbed_detach s slot
  | _ => exact ⟨⟨rfl, rfl⟩, rfl, rfl, rfl⟩

/-! ### Calls -/

namespace Call

open State

/-- Whether a call takes a slot out of its pool, puts one back, or changes its marks. -/
def movesSlots : Call → Bool
  | .walk _ _ | .bind _ _ | .start _ | .complete _ _ | .markIdle _ | .pushIdle _ => true
  | _ => false

/-- Whether a call takes a slot out of its pool or puts one back. -/
def movesPools : Call → Bool
  | .walk (_ :: _) _ | .pushIdle _ => true
  | _ => false

/-- Whether a call changes the phase, the priority list or the queue. -/
def movesWork : Call → Bool
  | .act _ _ | .offer _ _ => true
  | _ => false

theorem undisturbed_perform (s : State) (slot : SlotId) (work : Work) :
    Undisturbed s (s.perform slot work).state := by
  cases work with
  | scripted id script => exact ⟨⟨rfl, rfl⟩, rfl, rfl, rfl⟩
  | request id number job =>
      simp only [State.perform]
      repeat' split
      · exact ⟨⟨rfl, rfl⟩, rfl, rfl, rfl⟩
      · exact Undisturbed.trans (t := s.enter .prepare id slot) ⟨⟨rfl, rfl⟩, rfl, rfl, rfl⟩
          (undisturbed_modifySlot _ slot _ fun _ => rfl)
      · exact ⟨⟨rfl, rfl⟩, rfl, rfl, rfl⟩

theorem undisturbed_notify (s : State) (slot : SlotId) (status : Status) :
    Undisturbed s (s.notify slot status).state :=
  undisturbed_modifySlot s slot _ fun _ => rfl

theorem undisturbed_followUp (s : State) (slot : SlotId) (status : Status) :
    Undisturbed s (s.followUp slot status).state := by
  have taken : Undisturbed s (s.modifySlot slot fun slot => { slot with continuation := none }) :=
    undisturbed_modifySlot s slot _ fun _ => rfl
  simp only [State.followUp]
  repeat' split
  · exact taken
  · exact taken.trans ⟨⟨rfl, rfl⟩, rfl, rfl, rfl⟩
  · exact taken.trans ⟨⟨rfl, rfl⟩, rfl, rfl, rfl⟩
  · exact taken.trans ⟨⟨rfl, rfl⟩, rfl, rfl, rfl⟩

/-- A call that does not move slots leaves them as they are. -/
theorem sameSlots_step (s : State) {call : Call} (still : call.movesSlots = false) :
    SameSlots s (call.step s).state := by
  have changes := call.changes s
  generalize (call.step s).state = t at changes ⊢
  cases changes with
  | script | schedule | unused | dequeued | performed => exact ⟨rfl, rfl⟩
  | acted scope action => exact (s.acts scope action).sameSlots
  | loaded slot | notified slot | relieved slot =>
      exact ⟨rfl, s.marks_modifySlot slot fun _ => rfl⟩
  | discarded slot => exact (undisturbed_clearContinuation s slot).toSameSlots
  | _ => cases still

/-- A call that does not move pools leaves them as they are. -/
theorem samePools_step (s : State) {call : Call} (still : call.movesPools = false) :
    (call.step s).state.pools = s.pools := by
  have changes := call.changes s
  generalize (call.step s).state = t at changes ⊢
  cases changes with
  | acted scope action => exact (s.acts scope action).sameSlots.samePools
  | discarded slot => exact (undisturbed_clearContinuation s slot).samePools
  | popped | pushed => cases still
  | _ => rfl

/-- A call leaves a pool as it is, takes its first slot, or puts a slot back into it. -/
theorem idle_cases (s : State) (call : Call) (name : String) :
    (call.step s).state.idle name = s.idle name
      ∨ (∃ index, s.idle name = index :: (call.step s).state.idle name)
      ∨ ∃ slot : SlotId, slot.device = name ∧ call = .pushIdle slot
        ∧ (call.step s).state.idle name = slot.index :: s.idle name := by
  cases moves : call.movesPools with
  | false => exact .inl (idle_of_samePools (samePools_step s moves) name)
  | true =>
      have changes := call.changes s
      generalize (call.step s).state = t at changes ⊢
      cases changes with
      | popped device rest handedBack index left idle =>
          rw [idle_modifyDevice s device (fun _ => left)]
          split
          · next here =>
              rw [here.1]
              exact .inr (.inl ⟨index, idle⟩)
          · exact .inl rfl
      | pushed slot =>
          rw [State.pushIdle, idle_modifyDevice s slot.device (slot.index :: ·)]
          split
          · next here => exact .inr (.inr ⟨slot, here.1.symm, rfl, rfl⟩)
          · exact .inl rfl
      | walked => exact .inl rfl
      | _ => cases moves

/-- No call adds or removes a slot. -/
theorem slotIds_step (s : State) (call : Call) :
    (call.step s).state.slots.map Slot.id = s.slots.map Slot.id := by
  have changes := call.changes s
  generalize (call.step s).state = t at changes ⊢
  cases changes with
  | acted scope action => exact (s.acts scope action).sameSlots.slotIds
  | discarded slot => exact (undisturbed_clearContinuation s slot).slotIds
  | bound slot | loaded slot | granted slot | completed slot | notified slot | relieved slot
  | freed slot => exact slotIds_modifySlot s slot fun _ => rfl
  | _ => rfl

/-- A call that does not move work leaves it as it is. -/
theorem sameWork_step (s : State) {call : Call} (still : call.movesWork = false) :
    SameWork s (call.step s).state := by
  have changes := call.changes s
  generalize (call.step s).state = t at changes ⊢
  cases changes with
  | acted | dequeued => cases still
  | discarded slot => exact (undisturbed_clearContinuation s slot).toSameWork
  | _ => exact ⟨rfl, rfl, rfl⟩

/-! ### The steps of a search -/

section Searches

variable {s : State} {device : String} {index : Nat} {left : List Nat} {work : Work}
  {rest : List Work} {slot : SlotId}

theorem step_schedule (serving : s.serving = true) :
    step s .schedule = .call s (.walk (s.priorities.map Preference.name) false) := by
  simp only [step, serving, if_true]

theorem step_schedule_of_ended (ended : s.serving = false) : step s .schedule = .done s := by
  simp only [step, ended, Bool.false_eq_true, if_false]

/-- A device without an idle slot is passed. -/
theorem step_walk_of_empty (empty : s.idle device = []) (devices : List String)
    (handedBack : Bool) :
    step s (.walk (device :: devices) handedBack) = .call s (.walk devices handedBack) := by
  simp only [step, popIdle_eq_none_iff.mpr empty]

/-- Of any other device the slot is taken that was returned last. -/
theorem step_walk_of_idle (idle : s.idle device = index :: left) (devices : List String)
    (handedBack : Bool) : step s (.walk (device :: devices) handedBack)
      = .call (s.modifyDevice device fun device => { device with idle := left })
        (.offer ⟨device, index⟩ devices) := by
  simp only [step, popIdle, idle]

/-- Once no unit of work waits a search that is through with all devices is over. -/
theorem step_walk_nil (empty : s.queue = []) (handedBack : Bool) :
    step s (.walk [] handedBack) = .done s := by
  simp only [step, empty, List.isEmpty_nil, Bool.not_true, Bool.and_false, Bool.false_eq_true,
    if_false]

theorem step_offer_of_empty (empty : s.queue = []) (devices : List String) :
    step s (.offer slot devices) = .await s (.discard slot) (.walk devices) := by
  simp only [step, empty]

theorem step_offer (queue : s.queue = work :: rest) (devices : List String) :
    step s (.offer slot devices) = .call { s with queue := rest } (.bind slot work) := by
  simp only [step, queue]

end Searches

end Call

end SlotDispatch
