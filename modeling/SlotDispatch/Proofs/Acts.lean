import SlotDispatch.Proofs.Unchanged

/-!
What an action can come to. `State.Acts` lists the moves that actions make, each with all
that it changes, and `State.acts` says that the list is complete. A law about actions is
proved by going through the list.
-/

namespace SlotDispatch

/-- The unit of work that an action submits, if the request it makes has the given number. -/
def Action.unit? (number : Nat) : Action → Option Work
  | .submit id script => some (.scripted id script)
  | .request id value _ before after | .infer id value before after =>
      some (.request id number ⟨value, before, after⟩)
  | _ => none

namespace State

/-- The unit of work that an action submits in a state, as long as it is accepted. -/
def acceptedUnit? (s : State) (action : Action) : Option Work :=
  if s.serving then action.unit? s.requests.length else none

/-- The state in which a priority list was just installed, if an action installs one. -/
def reconfigured? (s : State) : Action → Option State
  | .setPriorities entries => (s.setPriorities entries (prioritiesText entries)).toOption
  | .setConfig config => (s.setConfig config).toOption
  | _ => none

/-- The moves that an action can come to. -/
inductive Acts (s : State) (scope : Option Scope) (action : Action) : Move → Prop where
  /-- It is answered. What is kept for callers may have changed, and how devices conduct
  themselves. -/
  | answered (devices : List Device) (pending : List (String × Pending)) (answer : Answer) :
      s.acceptedUnit? action = none →
      { s with devices, pending }.pools = s.pools →
      Acts s scope action (.answer { s with devices, pending } answer)
  /-- A request is cancelled. -/
  | cancelled (number : Nat) (answer : Answer) :
      s.acceptedUnit? action = none →
      Acts s scope action (.answer (s.cancelRequest number) answer)
  /-- A request is made that no unit of work comes to run. -/
  | refused (cancelled : Bool) (handles : List (String × Nat)) (answer : Answer) :
      s.serving = false →
      Acts s scope action (.answer
        ({ s with requests := s.requests ++ [Request.new cancelled], handles }.release
          s.requests.length .unit) answer)
  /-- A unit of work that carries no request is accepted. -/
  | submitted (id : String) (script : Script) :
      s.serving = true → action = .submit id script →
      Acts s scope action (.await { s with queue := s.queue ++ [.scripted id script] }
        .schedule (.answer .accepted))
  /-- A request is made, and its unit of work is accepted. -/
  | requested (id : String) (job : Job) (cancelled : Bool) (handles : List (String × Nat))
      (frame : Frame) :
      s.serving = true → action.unit? s.requests.length
        = some (.request id s.requests.length job) →
      frame = .keep id s.requests.length ∨ frame = .firstLook id s.requests.length →
      Acts s scope action (.await
        { s with
          requests := s.requests ++ [Request.new cancelled]
          handles
          queue := s.queue ++ [.request id s.requests.length job] } .schedule frame)
  /-- The slot at hand is started, a failure being reported or not. -/
  | started (scope' : Scope) :
      scope = some scope' → s.acceptedUnit? action = none → action = .start →
      Acts s scope action (.call s (.start scope'.slot))
  | tried (scope' : Scope) :
      scope = some scope' → s.acceptedUnit? action = none → action = .tryStart →
      Acts s scope action (.await s (.start scope'.slot) .attempt)
  /-- A continuation is left on the slot at hand. -/
  | continued (scope' : Scope) (id : String) (script : Script) :
      scope = some scope' → s.acceptedUnit? action = none → action = .andThen script →
      Acts s scope action (.done (s.setContinuation scope'.slot (.scripted id script)))
  | failed (error : BackendError) :
      s.acceptedUnit? action = none → scope.isSome = true →
      Acts s scope action (.signal s (.failed error))
  | panicked (message : String) :
      s.acceptedUnit? action = none → action = .panic message →
      Acts s scope action (.signal s (.panicked message))
  /-- A slot is let complete. -/
  | completed (slot : SlotId) (status : Status) :
      s.acceptedUnit? action = none → s.hasSlot slot = true →
      Acts s scope action (.call s (.complete slot status))
  | finished (slot : SlotId) (status : Status) :
      s.acceptedUnit? action = none → slot ∈ s.running →
      Acts s scope action (.await s (.complete slot status) (.answer (.finished slot)))
  /-- Another priority list is installed. -/
  | reordered (entries : List Preference) (text : String) :
      s.acceptedUnit? action = none →
      s.reconfigured? action = some { s with priorities := entries, configText := text } →
      Acts s scope action (.await { s with priorities := entries, configText := text }
        .schedule (.answer .accepted))
  /-- The dispatcher is shut down. -/
  | shutDown : action = .shutdown → Acts s scope action (.done s.shutdown)

/-! ### The list is complete -/

/-- Only the priority list and its text can come out changed. -/
theorem setPriorities_eq {s t : State} {entries : List Preference} {text : String}
    (set : s.setPriorities entries text = .ok t) :
    t = { s with priorities := entries, configText := text } := by
  simp only [setPriorities] at set
  repeat' split at set
  all_goals cases set
  rfl

/-- A configuration installs the list that it holds. -/
theorem setPriorities_of_setConfig {s t : State} {config : List (String × String)}
    (set : s.setConfig config = .ok t) :
    ∃ entries text, s.setPriorities entries text = .ok t := by
  simp only [setConfig] at set
  repeat' split at set
  all_goals first | exact ⟨_, _, set⟩ | cases set

theorem setConfig_eq {s t : State} {config : List (String × String)}
    (set : s.setConfig config = .ok t) :
    ∃ entries text, t = { s with priorities := entries, configText := text } := by
  obtain ⟨entries, text, listed⟩ := setPriorities_of_setConfig set
  exact ⟨entries, text, setPriorities_eq listed⟩

/-- What is installed was given as a list or as a configuration. -/
theorem reconfigured?_eq_some {s t : State} {action : Action} :
    s.reconfigured? action = some t
      ↔ (∃ entries, action = .setPriorities entries
          ∧ s.setPriorities entries (prioritiesText entries) = .ok t)
        ∨ ∃ config, action = .setConfig config ∧ s.setConfig config = .ok t := by
  have toOption (result : Except DispatchError State) :
      result.toOption = some t ↔ result = .ok t := by
    cases result <;> simp [Except.toOption]
  cases action <;> simp [reconfigured?, toOption]

/-- Either way it is a list that was found to be fit. -/
theorem setPriorities_of_reconfigured? {s t : State} {action : Action}
    (set : s.reconfigured? action = some t) :
    ∃ entries text, s.setPriorities entries text = .ok t := by
  rcases reconfigured?_eq_some.mp set with ⟨entries, -, set⟩ | ⟨config, -, set⟩
  · exact ⟨entries, _, set⟩
  · exact setPriorities_of_setConfig set

/-- To look for an outcome changes nothing but what is kept of it. -/
theorem tryOutcome_eq (s : State) (id : String) :
    ∃ pending, (s.tryOutcome id).1 = { s with pending } := by
  simp only [tryOutcome]
  repeat' split
  all_goals exact ⟨_, rfl⟩

theorem poll_eq (s : State) (id : String) : ∃ pending, (s.poll id).1 = { s with pending } := by
  simp only [poll]
  repeat' split
  all_goals exact ⟨_, rfl⟩

theorem wait_eq (s : State) (id : String) : ∃ pending, (s.wait id).1 = { s with pending } := by
  simp only [wait]
  split
  · exact ⟨_, rfl⟩
  · exact s.poll_eq id

/-- To tell a device how to conduct itself leaves its pool alone. -/
theorem setConduct_eq (s : State) (name : String) (conduct : Conduct) :
    ∃ devices, { s with devices }.pools = s.pools
      ∧ (s.setConduct name conduct).1 = { s with devices } := by
  simp only [setConduct]
  split
  · exact ⟨s.devices, rfl, rfl⟩
  · refine ⟨_, ?_, rfl⟩
    simp only [pools, List.map_map]
    refine List.map_congr_left fun device _ => ?_
    simp only [Function.comp]
    split <;> rfl

variable {s : State} {scope : Option Scope} {action : Action}

/-- An answer that comes with a change of what is kept for callers. -/
theorem Acts.of_pending {result : State × Answer} (none : s.acceptedUnit? action = none)
    (changed : ∃ pending, result.1 = { s with pending }) :
    s.Acts scope action (.ofAnswer result) := by
  obtain ⟨pending, eq⟩ := changed
  rw [Move.ofAnswer, eq]
  exact .answered s.devices pending result.2 none rfl

/-- An answer that comes with no change. -/
theorem Acts.unchanged (answer : Answer) (none : s.acceptedUnit? action = none) :
    s.Acts scope action (.answer s answer) :=
  .answered s.devices s.pending answer none rfl

/-- After a drop an action on the dispatcher comes to nothing. -/
theorem Acts.onDispatcher {move : Move} (acts : s.phase ≠ .dropped → s.Acts scope action move) :
    s.Acts scope action (.onDispatcher s move) := by
  simp only [Move.onDispatcher]
  split
  · next dropped => exact .unchanged .gone (by simp [acceptedUnit?, serving, dropped])
  · next there => exact acts there

/-- Outside of all scripts there is no slot at hand. -/
theorem Acts.atSlot {move : Scope → Move} (none : s.acceptedUnit? action = none)
    (acts : ∀ scope', scope = some scope' → s.Acts scope action (move scope')) :
    s.Acts scope action (.atSlot s scope move) := by
  cases scope with
  | none => exact .unchanged _ none
  | some scope => exact acts scope rfl

/-- A request is accepted with its unit of work, or given up at once. -/
theorem Acts.accept {id : String} {job : Job} {frame : Frame} (cancelled : Bool)
    (handles : List (String × Nat))
    (unit : action.unit? s.requests.length = some (.request id s.requests.length job))
    (waits : frame = .keep id s.requests.length ∨ frame = .firstLook id s.requests.length) :
    s.Acts scope action
      ({ s with requests := s.requests ++ [Request.new cancelled], handles }.accept
        (.request id s.requests.length job) frame) := by
  have same : { s with requests := s.requests ++ [Request.new cancelled], handles }.serving
      = s.serving := rfl
  cases serving : s.serving with
  | true =>
      simp only [State.accept, same, serving, if_true]
      exact .requested id job cancelled handles frame serving unit waits
  | false =>
      simp only [State.accept, same, serving, Bool.false_eq_true, if_false]
      exact .refused cancelled handles _ serving

/-- Every action comes to one of the moves of the list. -/
theorem acts (s : State) (scope : Option Scope) (action : Action) :
    s.Acts scope action (s.act scope action) := by
  have none (unit : action.unit? s.requests.length = none) : s.acceptedUnit? action = none := by
    simp [acceptedUnit?, unit]
  cases action with
  | start => exact .atSlot (none rfl) fun scope' at' => .started scope' at' (none rfl) rfl
  | tryStart => exact .atSlot (none rfl) fun scope' at' => .tried scope' at' (none rfl) rfl
  | andThen script =>
      exact .atSlot (none rfl) fun scope' at' => .continued scope' _ script at' (none rfl) rfl
  | slot => exact .atSlot (none rfl) fun _ _ => .unchanged _ (none rfl)
  | fail error => exact .atSlot (none rfl) fun _ at' => .failed error (none rfl) (by simp [at'])
  | panic message => exact .panicked message (none rfl) rfl
  | complete slot status =>
      simp only [act, completeSlot]
      split
      · exact .unchanged _ (none rfl)
      split
      · next there => exact .completed slot status (none rfl) there
      · exact .unchanged _ (none rfl)
  | finish position status =>
      simp only [act, finish]
      split
      · exact .unchanged _ (none rfl)
      · next slot found => exact .finished slot status (none rfl) (List.mem_of_getElem? found)
  | conduct name conduct =>
      obtain ⟨devices, pools, eq⟩ := s.setConduct_eq name conduct
      simp only [act, Move.ofAnswer, eq]
      exact .answered devices s.pending _ (none rfl) pools
  | state => exact .unchanged _ (none rfl)
  | submit id script =>
      refine .onDispatcher fun _ => ?_
      simp only [accept]
      split
      · next serving => exact .submitted id script serving rfl
      · next ended => exact .unchanged _ (by simp [acceptedUnit?, ended])
  | request id value cancelled before after =>
      exact .onDispatcher fun _ => .accept cancelled _ rfl (.inl rfl)
  | infer id value before after =>
      exact .onDispatcher fun _ => .accept false s.handles rfl (.inr rfl)
  | setPriorities entries =>
      refine .onDispatcher fun _ => ?_
      cases set : s.setPriorities entries (prioritiesText entries) with
      | error error => exact .unchanged _ (none rfl)
      | ok t =>
          have installs := reconfigured?_eq_some.mpr (.inl ⟨entries, rfl, set⟩)
          rw [setPriorities_eq set] at installs ⊢
          exact .reordered _ _ (none rfl) installs
  | setConfig config =>
      refine .onDispatcher fun _ => ?_
      cases set : s.setConfig config with
      | error error => exact .unchanged _ (none rfl)
      | ok t =>
          have installs := reconfigured?_eq_some.mpr (.inr ⟨config, rfl, set⟩)
          obtain ⟨entries, text, rfl⟩ := setConfig_eq set
          exact .reordered _ _ (none rfl) installs
  | config key =>
      refine .onDispatcher fun _ => ?_
      cases s.config key <;> exact .unchanged _ (none rfl)
  | metric key =>
      refine .onDispatcher fun _ => ?_
      cases s.metric key <;> exact .unchanged _ (none rfl)
  | device name => exact .onDispatcher fun _ => .unchanged _ (none rfl)
  | priorities => exact .onDispatcher fun _ => .unchanged _ (none rfl)
  | shutdown => exact .onDispatcher fun _ => .shutDown rfl
  | tryOutcome id => exact .of_pending (none rfl) (s.tryOutcome_eq id)
  | poll id => exact .of_pending (none rfl) (s.poll_eq id)
  | wait id => exact .of_pending (none rfl) (s.wait_eq id)
  | cancel id =>
      simp only [act, cancel]
      split
      · exact .unchanged _ (none rfl)
      · exact .cancelled _ _ (none rfl)
  | cancelPending id =>
      simp only [act, cancelPending]
      split
      · exact .cancelled _ _ (none rfl)
      · exact .unchanged _ (none rfl)
  | isCancelled id => exact .unchanged _ (none rfl)
  | forget id => exact .of_pending (none rfl) ⟨_, rfl⟩
  | unknown name => exact .onDispatcher fun _ => .unchanged _ (none rfl)

/-! ### What no action does -/

/-- A shutdown empties queue and priority list, once. -/
theorem shutdown_eq (s : State) :
    s.serving = false ∧ s.shutdown = s ∨ s.serving = true ∧ ∃ requests,
      s.shutdown = { s with phase := .shutDown, priorities := [], queue := [], requests } := by
  simp only [shutdown]
  split
  · next serving =>
      obtain ⟨requests, eq⟩ :=
        foldl_dropWork_eq s.queue { s with phase := .shutDown, priorities := [], queue := [] }
      exact .inr ⟨serving, requests, eq⟩
  · next ended => exact .inl ⟨by simpa using ended, rfl⟩

theorem serving_shutdown (s : State) : s.shutdown.serving = false := by
  rcases s.shutdown_eq with ⟨ended, eq⟩ | ⟨-, requests, eq⟩
  · rw [eq]
    exact ended
  · rw [eq]
    rfl

/-- Whatever else there is, a shutdown leaves it alone. -/
theorem shutdown_leaves (s : State) : ∃ phase priorities queue requests,
    s.shutdown = { s with phase, priorities, queue, requests } := by
  rcases s.shutdown_eq with ⟨-, eq⟩ | ⟨-, requests, eq⟩
  · exact ⟨_, _, _, _, eq⟩
  · exact ⟨_, _, _, requests, eq⟩

theorem slots_shutdown (s : State) : s.shutdown.slots = s.slots := by
  obtain ⟨_, _, _, _, eq⟩ := s.shutdown_leaves
  rw [eq]

theorem sameSlots_shutdown (s : State) : SameSlots s s.shutdown := by
  obtain ⟨_, _, _, _, eq⟩ := s.shutdown_leaves
  rw [eq]
  exact ⟨rfl, rfl⟩

/-- No action takes a slot out of its pool, puts it back, starts it or marks it. -/
theorem Acts.sameSlots {move : Move} (acts : s.Acts scope action move) :
    SameSlots s move.state := by
  cases acts with
  | answered devices pending answer none pools => exact ⟨pools, rfl⟩
  | continued scope' id script => exact (undisturbed_setContinuation _ _ _).toSameSlots
  | shutDown => exact s.sameSlots_shutdown
  | _ => exact ⟨rfl, rfl⟩

/-- No action brings a dispatcher back that is gone. -/
theorem Acts.keeps_dropped {move : Move} (acts : s.Acts scope action move)
    (dropped : s.phase = .dropped) : move.state.phase = .dropped := by
  cases acts with
  | continued scope' id script =>
      exact (undisturbed_setContinuation _ _ _).samePhase.trans dropped
  | shutDown =>
      rcases s.shutdown_eq with ⟨-, eq⟩ | ⟨serving, -⟩
      · simp only [Move.done, Move.answer, Move.signal, eq]
        exact dropped
      · simp [State.serving, dropped] at serving
  | _ => exact dropped

/-! ### The drop of a dispatcher -/

/-- What holds after every slot that is forgotten, which is one that is not pinned, holds after
all of them. -/
theorem detachUnpinned_induction_of_mem {property : State → Prop} {s : State}
    (start : property s) (detach : ∀ t, ∀ slot ∈ s.slots, slot.pinned = false → property t →
      property (t.detach slot.id)) : property s.detachUnpinned := by
  suffices ∀ (slots : List Slot) (t : State), slots ⊆ s.slots → property t →
      property (slots.foldl (fun t slot => if slot.pinned then t else t.detach slot.id) t) from
    this s.slots s (List.Subset.refl _) start
  intro slots
  induction slots with
  | nil => exact fun _ _ holds => holds
  | cons slot rest ih =>
      intro t among holds
      obtain ⟨there, among⟩ := List.cons_subset.mp among
      rw [List.foldl_cons]
      apply ih _ among
      split
      · exact holds
      · next free => exact detach t slot there (by simpa using free) holds

/-- What every slot that is forgotten leaves as it is, all of them do. -/
theorem detachUnpinned_induction {property : State → Prop} {s : State} (start : property s)
    (detach : ∀ t slot, property t → property (t.detach slot)) : property s.detachUnpinned :=
  detachUnpinned_induction_of_mem start fun t slot _ _ => detach t slot.id

theorem undisturbed_detachUnpinned (s : State) : Undisturbed s s.detachUnpinned := by
  apply detachUnpinned_induction (.refl s)
  intro t slot same
  exact same.trans (undisturbed_detach t slot)

/-- A drop leaves all slots as they are marked. -/
theorem sameSlots_drop (s : State) : SameSlots s s.drop.1 := by
  simp only [drop]
  split
  · exact ⟨rfl, rfl⟩
  · have same :=
      { s with pending := s.pending.filter fun entry => !entry.2.awaited }.sameSlots_shutdown
    exact ⟨(undisturbed_detachUnpinned _).samePools.trans same.samePools,
      (undisturbed_detachUnpinned _).sameMarks.trans same.sameMarks⟩

theorem phase_drop (s : State) : s.drop.1.phase = .dropped := by
  simp only [drop]
  split
  · next dropped => exact dropped
  · exact (undisturbed_detachUnpinned _).samePhase

/-- A drop empties the queue, unless a shutdown has done so before. -/
theorem queue_drop (s : State) : s.drop.1.queue = if s.serving then [] else s.queue := by
  simp only [drop]
  split
  · next dropped =>
      rw [if_neg]
      simp [serving, show s.phase = .dropped from dropped]
  · rw [(undisturbed_detachUnpinned _).sameQueue]
    rcases { s with pending := s.pending.filter fun entry => !entry.2.awaited }.shutdown_eq with
      ⟨ended, eq⟩ | ⟨serving, requests, eq⟩
    · rw [eq, if_neg]
      simp [show s.serving = false from ended]
    · rw [eq, if_pos (show s.serving = true from serving)]

end State

end SlotDispatch
