import Mathlib.Data.List.Nodup
import SlotDispatch.Proofs.Known
import SlotDispatch.Proofs.Surplus
import SlotDispatch.Proofs.Weight

/-!
A thread that goes on comes to its end. `State.weight` and `Thread.weight` count all that a
state and a thread can give rise to, and every step of a thread uses some of it up
(`Moment.Busy.goes_on`). Two facts about runs make the count work: no more devices are listed
than there are (`Run.listed`), and a walk that has handed a slot back finds the queue empty,
so that it does not begin again (`Run.searching`).
-/

namespace SlotDispatch

/-! ### The devices that are listed -/

namespace State

/-- The names of the devices, in their order. -/
def deviceNames (s : State) : List String := s.devices.map Device.name

theorem deviceNames_eq_pools (s : State) : s.deviceNames = s.pools.map Prod.fst := by
  simp only [deviceNames, pools, List.map_map, Function.comp_def]

theorem deviceNames_of_samePools {s t : State} (same : t.pools = s.pools) :
    t.deviceNames = s.deviceNames := by
  rw [deviceNames_eq_pools, deviceNames_eq_pools, same]

/-- A change of pools renames no device. -/
theorem deviceNames_modifyDevice (s : State) (name : String) (pool : List Nat → List Nat) :
    (s.modifyDevice name fun device => { device with idle := pool device.idle }).deviceNames
      = s.deviceNames := by
  simp only [deviceNames, modifyDevice, List.map_map]
  refine List.map_congr_left fun device _ => ?_
  simp only [Function.comp_apply]
  split <;> rfl

theorem device?_isSome_iff {s : State} {name : String} :
    (s.device? name).isSome = true ↔ name ∈ s.deviceNames := by
  simp [device?, deviceNames, List.find?_isSome]

/-- The list prefers only devices that are there, each of them once. -/
structure Listed (s : State) : Prop where
  distinct : (s.priorities.map Preference.name).Nodup
  known : ∀ entry ∈ s.priorities, entry.name ∈ s.deviceNames

/-- No more devices are listed than there are. -/
theorem Listed.length_le {s : State} (listed : s.Listed) :
    s.priorities.length ≤ s.devices.length := by
  have among : s.priorities.map Preference.name ⊆ s.deviceNames := by
    intro name mem
    obtain ⟨entry, there, rfl⟩ := List.mem_map.mp mem
    exact listed.known entry there
  have le := (List.subperm_of_subset listed.distinct among).length_le
  simpa [deviceNames] using le

/-- A list that is installed names only devices that are there. -/
theorem known_of_setPriorities {s t : State} {entries : List Preference} {text : String}
    (set : s.setPriorities entries text = .ok t) :
    ∀ entry ∈ t.priorities, entry.name ∈ s.deviceNames := by
  rw [setPriorities_eq set]
  simp only [setPriorities, checkKnown] at set
  repeat' split at set
  all_goals try cases set
  next passed =>
    split at passed
    · cases passed
    · next none =>
        intro entry mem
        simpa [deviceNames] using List.find?_eq_none.mp none entry mem

theorem known_of_reconfigured? {s t : State} {action : Action}
    (set : s.reconfigured? action = some t) :
    ∀ entry ∈ t.priorities, entry.name ∈ s.deviceNames := by
  obtain ⟨entries, text, listed⟩ := setPriorities_of_reconfigured? set
  exact known_of_setPriorities listed

end State

/-- No call adds, removes or renames a device. -/
theorem Call.deviceNames_step (s : State) (call : Call) :
    (call.step s).state.deviceNames = s.deviceNames := by
  have changes := call.changes s
  generalize (call.step s).state = t at changes ⊢
  cases changes with
  | acted scope action =>
      exact State.deviceNames_of_samePools (s.acts scope action).sameSlots.samePools
  | popped device rest handedBack index left =>
      exact s.deviceNames_modifyDevice device fun _ => left
  | discarded slot =>
      exact State.deviceNames_of_samePools (State.undisturbed_clearContinuation s slot).samePools
  | pushed slot => exact s.deviceNames_modifyDevice slot.device (slot.index :: ·)
  | _ => rfl

/-- Nor does any step. -/
theorem Moment.Step.keeps_devices {m after : Moment} (step : m.Step after) :
    after.state.deviceNames = m.state.deviceNames := by
  cases step with
  | call s call frames => exact call.deviceNames_step s
  | resume s signal frame frames =>
      exact State.deviceNames_of_samePools (frame.undisturbed_resume s signal).samePools
  | begin s signal action => rfl
  | deliver signal earlier later due => rfl
  | drop s signal => exact State.deviceNames_of_samePools s.sameSlots_drop.samePools

/-- A list that a step leaves behind prefers only devices that are there. -/
theorem Moment.Step.listed {m after : Moment} (step : m.Step after) (listed : m.state.Listed) :
    after.state.Listed := by
  refine ⟨step.distinct listed.distinct, ?_⟩
  rw [step.keeps_devices]
  cases installs : m.installs with
  | some t =>
      obtain ⟨-, rfl, -⟩ := step.of_installs installs
      obtain ⟨s, ⟨control, frames⟩⟩ := m
      simp only [Moment.installs] at installs
      split at installs
      · exact State.known_of_reconfigured? installs
      · cases installs
  | none =>
      rcases step.priorities_cases installs with same | ⟨empty, -⟩
      · rw [same]
        exact listed.known
      · rw [empty]
        exact List.forall_mem_nil _

/-- At no moment of a run are more devices listed than there are. -/
theorem Run.listed {backends : List Backend} {priorities : List Preference} {s : State}
    {past : List Moment} {now : Moment}
    (built : (construct backends priorities).result = .ok s) (run : Run (.initial s) past now) :
    now.state.Listed := by
  induction run with
  | start =>
      obtain ⟨configured, lists, rfl⟩ := construct_configured built
      refine ⟨lists.listedOnce, fun entry mem => ?_⟩
      obtain ⟨found, there, same⟩ := List.mem_map.mp (lists.listed entry mem)
      exact List.mem_map.mpr ⟨_, List.mem_map_of_mem there, same⟩
  | next run step ih => exact step.listed ih

/-! ### What a step uses up -/

/-- A move weighs what its state, its control and its new frames weigh. -/
def Move.weight (n : Nat) (move : Move) : Nat :=
  move.state.weight n + move.control.weight n + sumOf (Frame.weight n) move.frames

/-- A moment weighs what its state and its thread weigh. -/
def Moment.weight (n : Nat) (m : Moment) : Nat := m.state.weight n + m.thread.weight n

theorem Move.weight_signal (n : Nat) (s : State) (signal : Signal) :
    (Move.signal s signal).weight n = s.weight n := rfl

theorem Move.weight_call (n : Nat) (s : State) (call : Call) :
    (Move.call s call).weight n = s.weight n + call.weight n := rfl

theorem Move.weight_await (n : Nat) (s : State) (call : Call) (frame : Frame) :
    (Move.await s call frame).weight n = s.weight n + call.weight n + frame.weight n := rfl

theorem Move.weight_onto (n : Nat) (move : Move) (frames : List Frame) :
    (move.onto frames).weight n = move.weight n + sumOf (Frame.weight n) frames := by
  simp only [Moment.weight, Move.onto, Thread.weight, Move.weight, sumOf_append]
  omega

/-- Every action gives rise to a step. -/
theorem Action.weight_pos (n : Nat) (action : Action) : 0 < action.weight n := by
  cases action <;> simp [Action.weight]

section Lighter

variable {n : Nat} {s : State}

theorem Move.weight_onDispatcher_lt {bound : Nat} {move : Move} (pos : s.weight n < bound)
    (lighter : move.weight n < bound) : (Move.onDispatcher s move).weight n < bound := by
  simp only [Move.onDispatcher]
  split
  · exact pos
  · exact lighter

theorem Move.weight_atSlot_lt {bound : Nat} {move : Scope → Move} (scope : Option Scope)
    (pos : s.weight n < bound) (lighter : ∀ scope, (move scope).weight n < bound) :
    (Move.atSlot s scope move).weight n < bound := by
  cases scope with
  | none => exact pos
  | some scope => exact lighter scope

/-- A unit of work is accepted with all that it gives rise to, or destroyed. -/
theorem State.weight_accept_lt (work : Work) {frame : Frame} {bound : Nat}
    (weighs : work.weight n + scheduleWeight n + frame.weight n < bound) :
    (s.accept work frame).weight n < s.weight n + bound := by
  simp only [accept]
  split
  · rw [Move.weight_await]
    simp only [State.weight, Call.weight, sumOf_append, sumOf_cons, sumOf_nil]
    omega
  · obtain ⟨requests, eq⟩ := s.dropWork_eq work
    rw [eq, Move.answer, Move.weight_signal]
    have same : { s with requests }.weight n = s.weight n := rfl
    omega

theorem State.weight_reconfigured_lt (result : Except DispatchError State)
    (same : ∀ t, result = .ok t → t.weight n = s.weight n) :
    (s.reconfigured result).weight n < s.weight n + (scheduleWeight n + 2) := by
  cases result with
  | error error =>
      simp only [reconfigured, Move.answer, Move.weight_signal]
      omega
  | ok t =>
      simp only [reconfigured, Move.weight_await, same t rfl, Call.weight, Frame.weight]
      omega

theorem State.weight_of_pending {result : State × Answer}
    (changed : ∃ pending, result.1 = { s with pending }) :
    (Move.ofAnswer result).weight n = s.weight n := by
  obtain ⟨pending, eq⟩ := changed
  rw [Move.ofAnswer, Move.answer, Move.weight_signal, eq]
  rfl

/-- What an action comes to weighs less than the action. -/
theorem State.weight_act_lt (distinct : (s.slots.map Slot.id).Nodup) (scope : Option Scope)
    (action : Action) : (s.act scope action).weight n < s.weight n + action.weight n := by
  have pos : s.weight n < s.weight n + action.weight n :=
    Nat.lt_add_of_pos_right (action.weight_pos n)
  have kept {result : State × Answer} (changed : ∃ pending, result.1 = { s with pending }) :
      (Move.ofAnswer result).weight n < s.weight n + action.weight n := by
    rw [State.weight_of_pending changed]
    exact pos
  have set {entries : List Preference} {text : String} (t : State)
      (installs : s.setPriorities entries text = .ok t) : t.weight n = s.weight n := by
    rw [setPriorities_eq installs]
    rfl
  cases action with
  | start =>
      refine Move.weight_atSlot_lt scope pos fun scope => ?_
      simp only [Move.weight_call, Call.weight, Action.weight]
      omega
  | tryStart =>
      refine Move.weight_atSlot_lt scope pos fun scope => ?_
      simp only [Move.weight_await, Call.weight, Frame.weight, Action.weight]
      omega
  | andThen script =>
      refine Move.weight_atSlot_lt scope pos fun scope => ?_
      have left := s.weight_setContinuation_le n distinct scope.slot
        (.scripted (scope.id ++ ">") script)
      simp only [Move.done, Move.answer, Move.weight_signal, Continuation.weight,
        Action.weight] at left ⊢
      omega
  | slot => exact Move.weight_atSlot_lt scope pos fun _ => pos
  | fail error => exact Move.weight_atSlot_lt scope pos fun _ => pos
  | complete slot status =>
      simp only [act, completeSlot]
      repeat' split
      · exact pos
      · simp only [Move.weight_call, Call.weight, Action.weight]
        omega
      · exact pos
  | finish position status =>
      simp only [act, finish]
      split
      · exact pos
      · simp only [Move.weight_await, Call.weight, Frame.weight, Action.weight]
        omega
  | conduct name conduct =>
      obtain ⟨devices, -, eq⟩ := s.setConduct_eq name conduct
      simp only [act, Move.ofAnswer, Move.answer, Move.weight_signal, eq]
      exact pos
  | submit id script =>
      refine Move.weight_onDispatcher_lt pos (weight_accept_lt _ ?_)
      simp only [Work.weight, Frame.weight, Action.weight]
      omega
  | request id value cancelled prepare complete =>
      refine Move.weight_onDispatcher_lt pos ?_
      refine weight_accept_lt (s := { (s.addRequest cancelled).1 with handles := _ }) _ ?_
      simp only [Work.weight, Frame.weight, Action.weight]
      omega
  | infer id value prepare complete =>
      refine Move.weight_onDispatcher_lt pos ?_
      refine weight_accept_lt (s := (s.addRequest false).1) _ ?_
      simp only [Work.weight, Frame.weight, Action.weight]
      omega
  | setPriorities entries =>
      exact Move.weight_onDispatcher_lt pos (weight_reconfigured_lt _ fun t => set t)
  | setConfig config =>
      refine Move.weight_onDispatcher_lt pos (weight_reconfigured_lt _ fun t installs => ?_)
      obtain ⟨entries, text, rfl⟩ := setConfig_eq installs
      rfl
  | config key =>
      refine Move.weight_onDispatcher_lt pos ?_
      cases s.config key <;> exact pos
  | metric key =>
      refine Move.weight_onDispatcher_lt pos ?_
      cases s.metric key <;> exact pos
  | shutdown =>
      have lighter := weight_shutdown_le n s
      refine Move.weight_onDispatcher_lt pos ?_
      simp only [Move.done, Move.answer, Move.weight_signal]
      omega
  | tryOutcome id => exact kept (s.tryOutcome_eq id)
  | poll id => exact kept (s.poll_eq id)
  | wait id => exact kept (s.wait_eq id)
  | cancel id =>
      simp only [act, cancel]
      split <;> exact pos
  | cancelPending id =>
      simp only [act, cancelPending]
      split <;> exact pos
  | forget id => exact kept ⟨_, rfl⟩
  | device | priorities | unknown => exact Move.weight_onDispatcher_lt pos pos
  | panic | state | isCancelled => exact pos

end Lighter

section Steps

variable {n : Nat} {s : State} {frames : List Frame}

/-- A start is refused, or granted with the completion that may follow at once. -/
theorem State.weight_start_lt (slot : SlotId) :
    (s.start slot).weight n < s.weight n + startWeight n := by
  rcases s.start_cases slot with ⟨error, -, eq⟩ | ⟨-, eq⟩
  · have same : (s.note (.started slot)).weight n = s.weight n := rfl
    rw [eq, Move.weight_signal, same, startWeight]
    omega
  · have same : (s.started slot).weight n = s.weight n :=
      weight_modifySlot_of_same (s := s.note (.started slot)) n slot (by intro; rfl)
    have due : ∀ due, { s.started slot with due }.weight n = (s.started slot).weight n :=
      fun _ => rfl
    rw [eq, launch, startWeight]
    split
    · simp only [Move.done, Move.answer, Move.weight_signal, same]
      omega
    · simp only [Move.weight_call, Call.weight, same]
      omega
    · simp only [Move.weight_await, Call.weight, Frame.weight, same]
      omega
    · simp only [Move.done, Move.answer, Move.weight_signal, due, same]
      omega

/-- A unit of work weighs more than what it begins with. -/
theorem State.weight_perform_lt (slot : SlotId) (work : Work) :
    (s.perform slot work).weight n < s.weight n + (Call.perform slot work).weight n := by
  cases work with
  | scripted id script =>
      have same : (s.enter .work id slot).weight n = s.weight n := rfl
      simp only [perform, Move.weight_call, Call.weight, Work.weight, same]
      omega
  | request id number job =>
      have noted : (s.enter .prepare id slot).weight n = s.weight n := rfl
      have loaded : ((s.enter .prepare id slot).modifySlot slot fun slot =>
          { slot with input := some job.value }).weight n = (s.enter .prepare id slot).weight n :=
        weight_modifySlot_of_same n slot (by intro; rfl)
      simp only [perform, Call.weight, Work.weight]
      repeat' split
      · change s.weight n < _
        omega
      · simp only [Move.weight_await, Call.weight, Frame.weight, loaded, noted]
        omega
      · change s.weight n < _
        omega

/-- The continuation that a completed slot holds takes its weight out of the state. -/
theorem State.weight_followUp_lt (distinct : (s.slots.map Slot.id).Nodup) (slot : SlotId)
    (status : Status) : (s.followUp slot status).weight n < s.weight n + 1 := by
  have taken := weight_taken n distinct slot
  simp only [followUp]
  generalize held : (s.slot slot).continuation = continuation
  simp only [waiting, held] at taken
  generalize s.modifySlot slot (fun slot => { slot with continuation := none }) = t at taken ⊢
  rcases continuation with - | ⟨id, script⟩ | ⟨id, number, complete⟩
  · simp only [Move.done, Move.answer, Move.weight_signal]
    omega
  · have noted : (t.enter (.followUp status) id slot).weight n = t.weight n := rfl
    simp only [Option.map_some, Option.getD_some, Continuation.weight] at taken
    simp only [Move.weight_call, Call.weight, noted]
    omega
  · have noted : (t.enter (.complete status) id slot).weight n = t.weight n := rfl
    simp only [Option.map_some, Option.getD_some, Continuation.weight] at taken
    simp only
    split
    · simp only [Move.weight_await, Call.weight, Frame.weight, noted]
      omega
    · change t.weight n < s.weight n + 1
      omega

/-- A walk goes on to fewer devices, or with the slot that it has found. It does not begin
again, since it finds the queue empty if it has handed a slot back. -/
theorem Call.walk_lighter {devices : List String} {handedBack : Bool}
    (searching : Moment.Searching ⟨s, ⟨.call (.walk devices handedBack), frames⟩⟩) :
    (Call.step s (.walk devices handedBack)).weight n
      < s.weight n + walkWeight devices.length := by
  cases devices with
  | nil =>
      have settled : (handedBack && !s.queue.isEmpty) = false := by
        cases handedBack with
        | false => rfl
        | true =>
            have empty : s.queue = [] := searching.seeks
            simp [empty]
      simp only [step, settled, Bool.false_eq_true, if_false, Move.done, Move.answer,
        Move.weight_signal, walkWeight]
      omega
  | cons device rest =>
      simp only [step]
      split
      · simp only [Move.weight_call, Call.weight, walkWeight, List.length_cons]
        omega
      · next index t popped =>
          obtain ⟨left, -, rfl⟩ := State.popIdle_eq_some popped
          have same : (s.modifyDevice device fun device => { device with idle := left }).weight n
              = s.weight n := rfl
          simp only [Move.weight_call, Call.weight, walkWeight, List.length_cons, same]
          omega

/-- What a call comes to weighs less than the call. -/
theorem Call.lighter {call : Call} (listed : s.priorities.length ≤ n)
    (distinct : (s.slots.map Slot.id).Nodup)
    (searching : Moment.Searching ⟨s, ⟨.call call, frames⟩⟩) :
    (call.step s).weight n < s.weight n + call.weight n := by
  -- Most changes of a slot leave its continuation.
  have same (slot : SlotId) (change : Slot → Slot)
      (keeps : ∀ slot, (change slot).continuation = slot.continuation) :
      (s.modifySlot slot change).weight n = s.weight n :=
    State.weight_modifySlot_of_same n slot keeps
  cases call with
  | act scope action => exact s.weight_act_lt distinct scope action
  | script scope rest =>
      cases rest with
      | nil =>
          simp only [step, Move.done, Move.answer, Move.weight_signal, Call.weight, scriptWeight]
          omega
      | cons action rest =>
          simp only [step, Move.weight_await, Call.weight, Frame.weight, scriptWeight]
          omega
  | schedule =>
      simp only [step]
      split
      · simp only [Move.weight_call, Call.weight, scheduleWeight, walkWeight, List.length_map]
        omega
      · simp only [Move.done, Move.answer, Move.weight_signal, Call.weight, scheduleWeight]
        omega
  | walk devices handedBack => exact walk_lighter searching
  | offer slot devices =>
      simp only [step]
      split
      · simp only [Move.weight_await, Call.weight, Frame.weight]
        omega
      · next work queue first =>
          have first : s.queue = work :: queue := first
          simp only [Move.weight_call, Call.weight, State.weight, first, sumOf_cons]
          omega
  | bind slot work =>
      have heavy : scheduleWeight n + 6 < work.weight n := by
        cases work <;> simp only [Work.weight] <;> omega
      simp only [step, Move.weight_await, Call.weight, Frame.weight]
      rw [same slot _ (by intro; rfl)]
      omega
  | perform slot work => exact s.weight_perform_lt slot work
  | start slot => exact s.weight_start_lt slot
  | complete slot status =>
      have completed := same slot
        (fun slot => { slot with output := slot.input, running := false }) (by intro; rfl)
      simp only [step, State.complete]
      split
      · simp only [Move.weight_call, Call.weight, completed, completeWeight]
        omega
      · simp only [Move.done, Move.answer, Move.weight_signal, Call.weight, completed,
          completeWeight]
        omega
  | notify slot status =>
      have notified := same slot
        (fun slot => { slot with pinned := false, last := status }) (by intro; rfl)
      simp only [step, State.notify, Move.weight_await, Call.weight, notified, completeWeight]
      split <;> simp only [Frame.weight] <;> omega
  | followUp slot status => exact s.weight_followUp_lt distinct slot status
  | discard slot =>
      have cleared := s.weight_clearContinuation_le n distinct slot
      simp only [step, Move.weight_call, Call.weight]
      omega
  | markIdle slot =>
      have unmarked := same slot
        (fun slot => { slot with bound := false, pinned := false }) (by intro; rfl)
      simp only [step, Move.weight_call, Call.weight, unmarked]
      omega
  | pushIdle slot =>
      have pushed : (s.pushIdle slot).weight n = s.weight n := rfl
      simp only [step, Move.done, Move.answer, Move.weight_signal, Call.weight, pushed]
      omega

/-- What a frame goes on with weighs less than the frame. -/
theorem Frame.lighter (distinct : (s.slots.map Slot.id).Nodup) (frame : Frame) (signal : Signal) :
    (frame.resume s signal).weight n < s.weight n + frame.weight n := by
  -- Most frames hand a signal on, or go on with less, in a state that weighs the same.
  cases frame with
  | preparing slot id number complete =>
      cases signal with
      | returned answer =>
          have held : (s.modifyRequest number (Request.hold .continuation)).weight n
              = s.weight n := rfl
          have left :=
            (s.modifyRequest number (Request.hold .continuation)).weight_setContinuation_le n
              distinct slot (.request id number complete)
          simp only [Continuation.weight] at left
          simp only [resume, Move.weight_await, Call.weight, Frame.weight]
          omega
      | _ =>
          change s.weight n < _
          simp only [Frame.weight]
          omega
  | parting slot held =>
      have detached := s.weight_detach_le n distinct slot
      cases held <;> cases signal <;>
        simp only [resume, Bool.false_eq_true, if_false, if_true, Move.done, Move.answer,
          Move.weight_signal, Frame.weight] <;>
        omega
  | completing slot =>
      cases signal <;> simp only [resume] <;> try split
      all_goals
        simp only [Move.done, Move.answer, Move.weight_await, Move.weight_signal, Call.weight,
          Frame.weight, scheduleWeight]
        omega
  | firstLook id number =>
      have kept : (s.keep id number true).weight n = s.weight n := rfl
      cases signal <;> simp only [resume] <;> try split
      all_goals
        simp only [Move.answer, Move.weight_signal, Frame.weight, kept]
        omega
  | script scope action rest =>
      have noted (event : Event) : (s.note event).weight n = s.weight n := rfl
      cases signal <;>
        simp only [resume, Move.weight_call, Move.weight_signal, Call.weight, Frame.weight,
          noted] <;>
        omega
  | bound slot =>
      cases signal <;>
        simp only [resume, Move.done, Move.answer, Move.weight_signal, Move.weight_await,
          Call.weight, Frame.weight] <;>
        omega
  | walk | reschedule =>
      cases signal <;>
        simp only [resume, Move.weight_signal, Move.weight_call, Call.weight, Frame.weight] <;>
        omega
  | _ =>
      cases signal <;>
        · change s.weight n < _
          simp only [Frame.weight]
          omega

end Steps

namespace Moment

/-- A thread has steps left: it is about to make a call, or a frame waits for its signal. -/
def Busy (m : Moment) : Prop :=
  (∃ call, m.thread.control = .call call) ∨ m.thread.frames ≠ []

/-- A thread that is busy goes on, and gets lighter. -/
theorem Busy.goes_on {m : Moment} (busy : m.Busy) (listed : m.state.Listed)
    (distinct : (m.state.slots.map Slot.id).Nodup) (searching : m.Searching) :
    ∃ after, m.Step after
      ∧ after.weight after.state.devices.length < m.weight m.state.devices.length := by
  obtain ⟨s, ⟨control, frames⟩⟩ := m
  have less : s.priorities.length ≤ s.devices.length := listed.length_le
  have distinct : (s.slots.map Slot.id).Nodup := distinct
  have same {after : Moment} (step : Step ⟨s, ⟨control, frames⟩⟩ after) :
      after.state.devices.length = s.devices.length := by
    have lengths := congrArg List.length step.keeps_devices
    rwa [State.deviceNames, State.deviceNames, List.length_map, List.length_map] at lengths
  cases control with
  | call call =>
      refine ⟨_, .call s call frames, ?_⟩
      have lighter := Call.lighter less distinct searching
      rw [same (.call s call frames), Move.weight_onto]
      simp only [Moment.weight, Thread.weight, Control.weight]
      omega
  | signal signal =>
      cases frames with
      | nil =>
          rcases busy with ⟨call, calls⟩ | waits
          · cases calls
          · exact absurd rfl waits
      | cons frame frames =>
          refine ⟨_, .resume s signal frame frames, ?_⟩
          have lighter : (frame.resume s signal).weight s.devices.length
              < s.weight s.devices.length + frame.weight s.devices.length :=
            frame.lighter distinct signal
          rw [same (.resume s signal frame frames), Move.weight_onto]
          simp only [Moment.weight, Thread.weight, Control.weight, sumOf_cons]
          omega

end Moment

end SlotDispatch
