import SlotDispatch.Proofs.Exclusivity

/-!
Every slot that a run speaks of was created with the dispatcher: those in the pools, those
whose completion is due, and those that the thread is busy with.
-/

namespace SlotDispatch

/-- The slots that a control moves, or lets complete. -/
def Control.touches : Control → List SlotId
  | .call (.complete slot _) => [slot]
  | control => control.holds

/-- Every slot that a moment speaks of is among the given ones. -/
structure Moment.Known (ids : List SlotId) (m : Moment) : Prop where
  pools : ∀ slot : SlotId, slot.index ∈ m.state.idle slot.device → slot ∈ ids
  due : ∀ entry ∈ m.state.due, entry.1 ∈ ids
  control : ∀ slot ∈ m.thread.control.touches, slot ∈ ids
  frames : ∀ frame ∈ m.thread.frames, ∀ code, frame.activation? = some code → code.2 ∈ ids

/-- The slots that a move makes the thread busy with are among the given ones. -/
structure Move.Knows (ids : List SlotId) (move : Move) : Prop where
  control : ∀ slot ∈ move.control.touches, slot ∈ ids
  frames : ∀ frame ∈ move.frames, ∀ code, frame.activation? = some code → code.2 ∈ ids

/-! ### Completions that are due -/

namespace State

theorem due_dropContinuation (s : State) (continuation : Option Continuation) :
    (s.dropContinuation continuation).due = s.due := by
  obtain ⟨requests, eq⟩ := s.dropContinuation_eq continuation
  rw [eq]

theorem due_shutdown (s : State) : s.shutdown.due = s.due := by
  obtain ⟨_, _, _, _, eq⟩ := s.shutdown_leaves
  rw [eq]

theorem due_detachUnpinned (s : State) : s.detachUnpinned.due = s.due := by
  refine @detachUnpinned_induction (fun t => t.due = s.due) s rfl ?_
  intro t slot same
  exact (due_dropContinuation _ _).trans same

theorem due_drop (s : State) : s.drop.1.due = s.due := by
  simp only [drop]
  split
  · rfl
  · rw [due_detachUnpinned]
    exact due_shutdown { s with pending := s.pending.filter fun entry => !entry.2.awaited }

theorem Acts.due {s : State} {scope : Option Scope} {action : Action} {move : Move}
    (acts : s.Acts scope action move) : move.state.due = s.due := by
  cases acts with
  | continued scope' id script => exact due_dropContinuation _ _
  | shutDown => exact s.due_shutdown
  | _ => rfl

end State

/-- No signal makes a completion due. -/
theorem Frame.due_resume (s : State) (frame : Frame) (signal : Signal) :
    (frame.resume s signal).state.due = s.due := by
  have changes := frame.changes s signal
  generalize (frame.resume s signal).state = t at changes ⊢
  cases changes with
  | registered => exact State.due_dropContinuation _ _
  | detached => exact State.due_dropContinuation _ _
  | _ => rfl

/-! ### Steps -/

section Steps

variable {s t : State} {ids : List SlotId} {frames : List Frame}

/-- The slot at hand is one of those that code runs on. -/
theorem mem_of_slotAtHand {slot : SlotId}
    (known : ∀ frame ∈ frames, ∀ code, frame.activation? = some code → code.2 ∈ ids)
    (atHand : slotAtHand frames = some slot) : slot ∈ ids := by
  simp only [slotAtHand, activation, Option.map_eq_some_iff] at atHand
  obtain ⟨code, found, rfl⟩ := atHand
  obtain ⟨frame, mem, runs⟩ := List.exists_of_findSome?_eq_some found
  exact known frame mem code runs

theorem Move.Knows.onto {move : Move} (knows : move.Knows ids)
    (pools : ∀ slot : SlotId, slot.index ∈ move.state.idle slot.device → slot ∈ ids)
    (due : ∀ entry ∈ move.state.due, entry.1 ∈ ids)
    (below : ∀ frame ∈ frames, ∀ code, frame.activation? = some code → code.2 ∈ ids) :
    (move.onto frames).Known ids := by
  refine ⟨pools, due, knows.control, fun frame mem => ?_⟩
  rcases List.mem_append.mp mem with mem | mem
  · exact knows.frames frame mem
  · exact below frame mem

theorem Move.knows_signal (s : State) (signal : Signal) : (Move.signal s signal).Knows ids :=
  ⟨by simp [Move.signal, Control.touches, Control.holds], by simp [Move.signal]⟩

theorem Move.knows_call {call : Call} (control : ∀ slot ∈ (Control.call call).touches, slot ∈ ids) :
    (Move.call s call).Knows ids := ⟨control, by simp [Move.call]⟩

theorem Move.knows_await {call : Call} {frame : Frame}
    (control : ∀ slot ∈ (Control.call call).touches, slot ∈ ids)
    (runs : ∀ code, frame.activation? = some code → code.2 ∈ ids) :
    (Move.await s call frame).Knows ids := ⟨control, by simpa [Move.await] using runs⟩

/-- An action lets only slots complete that are there. -/
theorem State.Acts.knows {scope : Option Scope} {action : Action} {move : Move}
    (acts : s.Acts scope action move) (slots : s.slots.map Slot.id = ids) : move.Knows ids := by
  cases acts with
  | submitted id script => exact Move.knows_await nofun nofun
  | requested id job cancelled handles frame serving unit waits =>
      refine Move.knows_await nofun ?_
      rcases waits with rfl | rfl <;> exact nofun
  | started scope' => exact Move.knows_call nofun
  | tried scope' => exact Move.knows_await nofun nofun
  | completed slot status none there =>
      refine Move.knows_call fun other mem => ?_
      rw [List.mem_singleton.mp mem, ← slots]
      exact hasSlot_iff.mp there
  | finished slot status none mem =>
      refine Move.knows_await (fun other mem' => ?_) nofun
      rw [List.mem_singleton.mp mem', ← slots]
      exact hasSlot_iff.mp (hasSlot_of_mem_running mem)
  | reordered entries text => exact Move.knows_await nofun nofun
  | _ => exact Move.knows_signal _ _

/-- A call moves only the slots that it was given. -/
theorem Call.Flows.knows {call : Call} {move : Move} (flows : call.Flows move)
    (given : ∀ slot ∈ (Control.call call).touches, slot ∈ ids)
    (starts : ∀ slot, call = .start slot → slot ∈ ids)
    (acts : ∀ scope action, call ≠ .act scope action)
    (pops : ∀ device rest handedBack, call ≠ .walk (device :: rest) handedBack) :
    move.Knows ids := by
  have own (slot : SlotId) (mem : slot ∈ ids) : ∀ other ∈ [slot], other ∈ ids :=
    fun other same => List.mem_singleton.mp same ▸ mem
  -- Code that begins to run does so on the slot that the call was given.
  have runs {role : Role} {slot : SlotId} (mem : slot ∈ ids) :
      ∀ code, some (role, slot) = some code → code.2 ∈ ids := by
    rintro _ ⟨⟩
    exact mem
  cases flows with
  | answers | keeps | looks | starts | tries | completes | finishes => exact absurd rfl (acts _ _)
  | onward | found => exact absurd rfl (pops _ _ _)
  | ends => exact Move.knows_signal _ _
  | schedule | again | runs | continues => exact Move.knows_call nofun
  | script | prepares | collects => exact Move.knows_await nofun nofun
  | unused => exact Move.knows_await given nofun
  | used | notify | discard | markIdle => exact Move.knows_call given
  | bind => exact Move.knows_await nofun (runs (given _ List.mem_cons_self))
  | completing => exact Move.knows_await nofun (runs (given _ List.mem_cons_self))
  | parting => exact Move.knows_await nofun (runs (given _ List.mem_cons_self))
  | completesAtOnce slot status t => exact Move.knows_call (own slot (starts slot rfl))
  | completesAndFails slot status error t =>
      exact Move.knows_await (own slot (starts slot rfl)) nofun

/-- So do a walk, whose slots come from the pools, and an action. -/
theorem Call.knows_step {call : Call} (atHand : Thread.Scoped ⟨.call call, frames⟩)
    (slots : s.slots.map Slot.id = ids) (known : Moment.Known ids ⟨s, ⟨.call call, frames⟩⟩) :
    (call.step s).Knows ids := by
  by_cases acts : ∃ scope action, call = .act scope action
  · obtain ⟨scope, action, rfl⟩ := acts
    exact (s.acts scope action).knows slots
  by_cases pops : ∃ device rest handedBack, call = .walk (device :: rest) handedBack
  · obtain ⟨device, rest, handedBack, rfl⟩ := pops
    simp only [step]
    split
    · exact Move.knows_call (List.forall_mem_nil _)
    · next index t popped =>
        obtain ⟨left, idle, rfl⟩ := State.popIdle_eq_some popped
        refine Move.knows_call fun slot mem => ?_
        rw [List.mem_singleton.mp mem]
        exact known.pools ⟨device, index⟩ (idle ▸ List.mem_cons_self)
  · apply (call.flows s).knows known.control
    · rintro slot rfl
      exact mem_of_slotAtHand known.frames (atHand.control slot rfl)
    · exact fun scope action same => acts ⟨scope, action, same⟩
    · exact fun device rest handedBack same => pops ⟨device, rest, handedBack, same⟩

/-- A pool gains no slot but the one that is put back. -/
theorem Call.pools_step {call : Call} (known : Moment.Known ids ⟨s, ⟨.call call, frames⟩⟩)
    (slot : SlotId) (mem : slot.index ∈ (call.step s).state.idle slot.device) : slot ∈ ids := by
  rcases call.idle_cases s slot.device with same | ⟨index, taken⟩ | ⟨own, at', rfl, pushed⟩
  · rw [same] at mem
    exact known.pools slot mem
  · exact known.pools slot (taken ▸ List.mem_cons_of_mem _ mem)
  · rw [pushed] at mem
    rcases List.mem_cons.mp mem with first | mem
    · rw [SlotId.eq_of_parts at'.symm first]
      exact known.control own List.mem_cons_self
    · exact known.pools slot mem

/-- Only a start makes another completion due, that of the slot it starts. -/
theorem Call.due_step (s : State) (call : Call) :
    ∀ entry ∈ (call.step s).state.due, entry ∈ s.due ∨ call = .start entry.1 := by
  have changes := call.changes s
  generalize (call.step s).state = t at changes ⊢
  intro entry mem
  cases changes with
  | acted scope action => exact .inl ((s.acts scope action).due ▸ mem)
  | granted slot due _ among =>
      rcases among entry mem with there | rfl
      · exact .inl there
      · exact .inr rfl
  | discarded slot =>
      rw [State.clearContinuation, State.due_dropContinuation] at mem
      exact .inl mem
  | _ => exact .inl mem

/-- A call moves only slots that are there. -/
theorem Call.known_step {call : Call} (atHand : Thread.Scoped ⟨.call call, frames⟩)
    (slots : s.slots.map Slot.id = ids) (known : Moment.Known ids ⟨s, ⟨.call call, frames⟩⟩) :
    ((call.step s).onto frames).Known ids := by
  refine (knows_step atHand slots known).onto (pools_step known) (fun entry mem => ?_) known.frames
  rcases call.due_step s entry mem with there | rfl
  · exact known.due entry there
  · exact mem_of_slotAtHand known.frames (atHand.control entry.1 rfl)

/-- Code that waits moves no slot but its own. -/
theorem Frame.Flows.knows {frame : Frame} {move : Move} (flows : frame.Flows move)
    (own : ∀ code, frame.activation? = some code → code.2 ∈ ids) : move.Knows ids := by
  -- The slot of the code that a frame stands for is the only one that it hands back.
  have discards {role : Role} {slot : SlotId} (runs : frame.activation? = some (role, slot)) :
      ∀ other ∈ (Control.call (.discard slot)).touches, other ∈ ids := by
    intro other mem
    rw [List.mem_singleton.mp mem]
    exact own _ runs
  cases flows with
  | ends => exact Move.knows_signal _ _
  | script | walk | schedule => exact Move.knows_call nofun
  | start => exact Move.knows_await nofun nofun
  | unbound | unboundInPanic => exact Move.knows_await (discards rfl) nofun
  | completed | completedInPanic => exact Move.knows_await (discards rfl) nofun

/-- A run never comes to speak of a slot that was not there. -/
theorem Moment.Step.known {m after : Moment} (step : m.Step after) (atHand : m.thread.Scoped)
    (slots : m.state.slots.map Slot.id = ids) (known : m.Known ids) : after.Known ids := by
  cases step with
  | call s call frames => exact Call.known_step atHand slots known
  | resume s signal frame frames =>
      have same := (frame.undisturbed_resume s signal).toSameSlots
      have own := known.frames frame List.mem_cons_self
      refine ((frame.flows s signal).knows own).onto (fun slot idle => ?_) (fun entry mem => ?_)
        fun other mem => known.frames other (List.mem_cons_of_mem _ mem)
      · rw [same.idle] at idle
        exact known.pools slot idle
      · rw [frame.due_resume] at mem
        exact known.due entry mem
  | begin s signal action =>
      have touches : ∀ slot ∈ (Control.call (.act none action)).touches, slot ∈ ids := nofun
      exact ⟨known.pools, known.due, touches, known.frames⟩
  | @deliver s slot status signal earlier later due =>
      refine ⟨known.pools, fun entry mem => known.due entry ?_, fun other mem => ?_, known.frames⟩
      · rw [show s.due = _ from due]
        rcases List.mem_append.mp mem with mem | mem
        · exact List.mem_append_left _ mem
        · exact List.mem_append_right _ (List.mem_cons_of_mem _ mem)
      · rw [List.mem_singleton.mp mem]
        refine known.due (slot, status) ?_
        rw [show s.due = _ from due]
        exact List.mem_append_right _ List.mem_cons_self
  | drop s signal =>
      refine ⟨fun slot idle => ?_, fun entry mem => ?_, known.control, known.frames⟩
      · exact known.pools slot (s.sameSlots_drop.idle slot.device ▸ idle)
      · exact known.due entry (s.due_drop ▸ mem)

end Steps

/-! ### Runs -/

/-- What holds at every moment of a run, whatever devices and callers do. -/
structure Moment.Grounded (m : Moment) : Prop where
  atHand : m.thread.Scoped
  distinct : (m.state.slots.map Slot.id).Nodup
  known : m.Known (m.state.slots.map Slot.id)

theorem Moment.Step.grounded {m after : Moment} (step : m.Step after) (grounded : m.Grounded) :
    after.Grounded := by
  refine ⟨step.keeps_scope grounded.atHand, ?_, ?_⟩
  · rw [step.keeps_slots]
    exact grounded.distinct
  · rw [step.keeps_slots]
    exact step.known grounded.atHand rfl grounded.known

/-- A dispatcher that was built speaks only of the slots it was built with. -/
theorem Run.grounded {backends : List Backend} {priorities : List Preference} {s : State}
    {past : List Moment} {now : Moment}
    (built : (construct backends priorities).result = .ok s) (run : Run (.initial s) past now) :
    now.Grounded := by
  induction run with
  | start =>
      obtain ⟨configured, distinct, rfl⟩ := construct_ok built
      refine ⟨⟨.none _, trivial⟩, State.nodup_slots_ofConfigured distinct, ?_⟩
      change ((Move.signal _ (.returned .done)).onto []).Known _
      refine (Move.knows_signal _ _).onto (fun slot idle => ?_) nofun (by simp)
      exact State.hasSlot_iff.mp ((State.exclusive_ofConfigured distinct).resting slot idle).1
  | next run step ih => exact step.grounded ih

end SlotDispatch
