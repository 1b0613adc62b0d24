import SlotDispatch.Proofs.Attempts

/-!
Units of work that keep to themselves. While a unit runs that does not re-enter the dispatcher, its
slot not completing meanwhile, nothing that scheduling looks at changes but this slot, and of it
only the input, the continuation and what a start changes (`Moment.Extent.confined`). Such a unit
may ask for anything, cancel requests, and tell devices how to conduct themselves.
-/

namespace SlotDispatch

/-! ### Re-entering the dispatcher -/

/-- Whether an action makes the dispatcher schedule or end its service, or lets a slot complete. -/
def Action.reenters : Action → Bool
  | .submit _ _ | .request _ _ _ _ _ | .infer _ _ _ _ | .setPriorities _ | .setConfig _ | .shutdown
  | .complete _ _ | .finish _ _ => true
  | _ => false

/-- Whether a call takes such an action, or lets a slot complete that was just started. -/
def Call.reenters : Call → Bool
  | .act _ action => action.reenters
  | .complete _ _ => true
  | _ => false

/-- At this moment the code at hand re-enters the dispatcher. -/
def Moment.reenters (m : Moment) : Bool :=
  match m.thread.control with
  | .call call => call.reenters
  | .signal _ => false

/-- Whether a call makes a slot execute. -/
def Call.grants (s : State) : Call → Bool
  | .start slot => s.grants slot
  | _ => false

/-- At this moment a slot is started, and will execute. -/
def Moment.grants (m : Moment) : Bool :=
  match m.thread.control with
  | .call call => call.grants m.state
  | .signal _ => false

/-! ### What becomes of the slot -/

/-- A slot that a unit of work has used, and has started if so told: nothing else of it is changed
than its input, its continuation, and what the start changes. -/
def Slot.Used (started : Bool) (before after : Slot) : Prop :=
  ∃ input continuation, after = { before with
    input, continuation
    running := started || before.running
    output := if started then none else before.output }

theorem Slot.Used.refl (slot : Slot) : slot.Used false slot :=
  ⟨slot.input, slot.continuation, rfl⟩

theorem Slot.Used.trans {earlier later : Bool} {one two three : Slot} (first : one.Used earlier two)
    (second : two.Used later three) : one.Used (earlier || later) three := by
  obtain ⟨input, continuation, rfl⟩ := first
  obtain ⟨input', continuation', rfl⟩ := second
  exact ⟨input', continuation', by cases earlier <;> cases later <;> rfl⟩

namespace State

/-- Two states that differ, as far as scheduling is concerned, in the use of one slot only. -/
structure Confined (slot : SlotId) (started : Bool) (s t : State) : Prop extends SameWork s t where
  samePools : t.pools = s.pools
  sameIds : t.slots.map Slot.id = s.slots.map Slot.id
  others : ∀ other, other ≠ slot → t.slot other = s.slot other
  own : (s.slot slot).Used started (t.slot slot)

/-- A slot is there if its identity is listed. -/
theorem hasSlot_of_sameIds {s t : State} (same : t.slots.map Slot.id = s.slots.map Slot.id)
    (slot : SlotId) : t.hasSlot slot = s.hasSlot slot := by
  have listed (u : State) : u.hasSlot slot = (u.slots.map Slot.id).any (· == slot) := by
    rw [List.any_map]
    rfl
  rw [listed, listed, same]

section Confined

variable {s t u : State} {slot : SlotId} {started : Bool}

/-- A change that concerns no slot. -/
theorem confined_of_eq (work : SameWork s t) (pools : t.pools = s.pools)
    (slots : t.slots = s.slots) : Confined slot false s t := by
  have found (other : SlotId) : t.slot other = s.slot other := by rw [State.slot, slots, State.slot]
  refine ⟨work, pools, by rw [slots], fun other _ => found other, ?_⟩
  rw [found]
  exact .refl _

theorem Confined.refl (slot : SlotId) (s : State) : Confined slot false s s :=
  confined_of_eq ⟨rfl, rfl, rfl⟩ rfl rfl

theorem Confined.trans {earlier later : Bool} (first : Confined slot earlier s t)
    (second : Confined slot later t u) : Confined slot (earlier || later) s u where
  samePhase := second.samePhase.trans first.samePhase
  samePriorities := second.samePriorities.trans first.samePriorities
  sameQueue := second.sameQueue.trans first.sameQueue
  samePools := second.samePools.trans first.samePools
  sameIds := second.sameIds.trans first.sameIds
  others other differs := (second.others other differs).trans (first.others other differs)
  own := first.own.trans second.own

theorem Confined.hasSlot (confined : Confined slot started s t) (other : SlotId) :
    t.hasSlot other = s.hasSlot other := hasSlot_of_sameIds confined.sameIds other

/-- A change of the slot, by which it is used. -/
theorem confined_modifySlot {change : Slot → Slot} (present : s.hasSlot slot = true)
    (keeps : ∀ slot, (change slot).id = slot.id)
    (uses : ∀ slot : Slot, slot.Used started (change slot)) :
    Confined slot started s (s.modifySlot slot change) where
  samePhase := rfl
  samePriorities := rfl
  sameQueue := rfl
  samePools := rfl
  sameIds := s.slotIds_modifySlot slot keeps
  others other differs := slot_modifySlot_of_ne differs keeps
  own := by
    rw [slot_modifySlot_self present keeps]
    exact uses _

theorem confined_setContinuation (present : s.hasSlot slot = true) (continuation : Continuation) :
    Confined slot false s (s.setContinuation slot continuation) := by
  let left := s.modifySlot slot fun slot => { slot with continuation := some continuation }
  obtain ⟨requests, eq⟩ := left.dropContinuation_eq (s.slot slot).continuation
  have set : s.setContinuation slot continuation = { left with requests } := eq
  have confined : Confined slot false s left :=
    confined_modifySlot present (by intro; rfl) fun slot => ⟨slot.input, some continuation, rfl⟩
  have same : Confined slot false left { left with requests } :=
    confined_of_eq ⟨rfl, rfl, rfl⟩ rfl rfl
  rw [set]
  exact confined.trans same

end Confined

end State

/-! ### What the code at hand works on -/

/-- A frame that waits on behalf of a unit of work on this slot. -/
def Frame.WorksOn (slot : SlotId) : Frame → Prop
  | .script scope _ _ => scope.slot = slot
  | .preparing own _ _ _ => own = slot
  | .answer _ | .attempt | .refuse _ | .starting _ _ => True
  | _ => False

/-- A call on behalf of a unit of work on this slot, or a completion. -/
def Call.WorksOn (slot : SlotId) : Call → Prop
  | .act scope _ => ∃ own, scope = some own ∧ own.slot = slot
  | .script scope _ => scope.slot = slot
  | .start own => own = slot
  | .complete _ _ => True
  | _ => False

def Control.WorksOn (slot : SlotId) : Control → Prop
  | .call next => next.WorksOn slot
  | .signal _ => True

/-- Whether a move hands a signal back. -/
def Move.ends (move : Move) : Bool :=
  match move.control with
  | .signal _ => move.frames.isEmpty
  | .call _ => false

/-- A move that a unit of work on the slot makes. -/
structure Move.WorksOn (slot : SlotId) (started : Bool) (s : State) (move : Move) : Prop where
  confined : State.Confined slot started s move.state
  control : move.control.WorksOn slot
  frames : ∀ frame ∈ move.frames, frame.WorksOn slot

section Moves

variable {s t : State} {slot : SlotId} {started : Bool}

theorem Move.worksOn_of_ends {move : Move} (ends : move.ends = true)
    (confined : State.Confined slot started s move.state) : move.WorksOn slot started s := by
  obtain ⟨t, control, added⟩ := move
  cases control with
  | call call => cases ends
  | signal signal =>
      obtain rfl : added = [] := List.isEmpty_iff.mp ends
      exact ⟨confined, trivial, List.forall_mem_nil _⟩

theorem Move.worksOn_call {call : Call} (confined : State.Confined slot started s t)
    (works : call.WorksOn slot) : (Move.call t call).WorksOn slot started s :=
  ⟨confined, works, List.forall_mem_nil _⟩

theorem Move.worksOn_await {call : Call} {frame : Frame}
    (confined : State.Confined slot started s t) (works : call.WorksOn slot)
    (waits : frame.WorksOn slot) :
    (Move.await t call frame).WorksOn slot started s :=
  ⟨confined, works, List.forall_mem_singleton.mpr waits⟩

/-- A unit of work begins to run. -/
theorem Call.worksOn_perform (present : s.hasSlot slot = true) (work : Work) :
    (Call.step s (.perform slot work)).WorksOn slot false s := by
  cases work with
  | scripted id script =>
      have entered : State.Confined slot false s (s.enter .work id slot) :=
        State.confined_of_eq ⟨rfl, rfl, rfl⟩ rfl rfl
      exact Move.worksOn_call entered rfl
  | request id number job =>
      have entered : State.Confined slot false s (s.enter .prepare id slot) :=
        State.confined_of_eq ⟨rfl, rfl, rfl⟩ rfl rfl
      simp only [step, State.perform]
      repeat' split
      · exact Move.worksOn_of_ends rfl (State.confined_of_eq ⟨rfl, rfl, rfl⟩ rfl rfl)
      · have loaded : State.Confined slot false (s.enter .prepare id slot)
            ((s.enter .prepare id slot).modifySlot slot fun slot =>
              { slot with input := some job.value }) :=
          State.confined_modifySlot present (by intro; rfl)
            fun slot => ⟨some job.value, slot.continuation, rfl⟩
        exact Move.worksOn_await (entered.trans loaded) rfl rfl
      · exact Move.worksOn_of_ends rfl (State.confined_of_eq ⟨rfl, rfl, rfl⟩ rfl rfl)

/-- An action of the unit. -/
theorem State.Acts.worksOn {scope : Option Scope} {action : Action} {move : Move}
    (acts : s.Acts scope action move) (at' : ∃ own, scope = some own ∧ own.slot = slot)
    (present : s.hasSlot slot = true) (quiet : action.reenters = false) :
    move.WorksOn slot false s := by
  obtain ⟨own, rfl, rfl⟩ := at'
  have here := State.Confined.refl own.slot s
  cases acts with
  | answered devices pending answer none pools =>
      exact Move.worksOn_of_ends rfl (State.confined_of_eq ⟨rfl, rfl, rfl⟩ pools rfl)
  | cancelled | refused =>
      exact Move.worksOn_of_ends rfl (State.confined_of_eq ⟨rfl, rfl, rfl⟩ rfl rfl)
  | started scope' at' =>
      obtain rfl := Option.some.inj at'
      exact Move.worksOn_call here rfl
  | tried scope' at' =>
      obtain rfl := Option.some.inj at'
      exact Move.worksOn_await here rfl trivial
  | continued scope' id script at' =>
      obtain rfl := Option.some.inj at'
      exact Move.worksOn_of_ends rfl (State.confined_setContinuation present _)
  | failed | panicked => exact Move.worksOn_of_ends rfl here
  | completed => exact Move.worksOn_call here trivial
  | finished => exact Move.worksOn_await here trivial trivial
  | submitted _ _ _ own => simp [own, Action.reenters] at quiet
  | shutDown own => simp [own, Action.reenters] at quiet
  | requested _ _ _ _ _ _ unit =>
      cases action with
      | submit | request | infer => simp [Action.reenters] at quiet
      | _ => cases unit
  | reordered _ _ _ installs =>
      cases action with
      | setPriorities | setConfig => simp [Action.reenters] at quiet
      | _ => cases installs

/-- A call of the unit. -/
theorem Call.worksOn_step {call : Call} (works : call.WorksOn slot)
    (present : s.hasSlot slot = true) (quiet : call.reenters = false) :
    (call.step s).WorksOn slot (call.grants s) s := by
  have here := State.Confined.refl slot s
  cases call with
  | act scope action => exact (s.acts scope action).worksOn works present quiet
  | script scope rest =>
      cases rest with
      | nil => exact Move.worksOn_of_ends rfl here
      | cons action rest => exact Move.worksOn_await here ⟨scope, rfl, works⟩ works
  | start own =>
      obtain rfl : own = slot := works
      have noted : State.Confined own false s (s.note (.started own)) :=
        State.confined_of_eq ⟨rfl, rfl, rfl⟩ rfl rfl
      rcases s.start_cases own with ⟨error, refused, eq⟩ | ⟨granted, eq⟩
      · rw [step, eq, grants, refused]
        exact Move.worksOn_of_ends rfl noted
      · rw [step, eq, grants, granted]
        have started : State.Confined own true s (s.started own) :=
          noted.trans (State.confined_modifySlot present (by intro; rfl)
            fun slot => ⟨slot.input, slot.continuation, rfl⟩)
        simp only [State.launch]
        split
        · exact Move.worksOn_of_ends rfl started
        · exact Move.worksOn_call started trivial
        · exact Move.worksOn_await started trivial trivial
        · have due : State.Confined own false (s.started own) { s.started own with
              due := (s.started own).due ++ [(own, (s.conduct own.device).status)] } :=
            State.confined_of_eq ⟨rfl, rfl, rfl⟩ rfl rfl
          exact Move.worksOn_of_ends rfl (started.trans due)
  | complete => cases quiet
  | _ => exact works.elim

/-- A frame of the unit that is handed a signal. -/
theorem Frame.worksOn_resume {frame : Frame} (works : frame.WorksOn slot)
    (present : s.hasSlot slot = true) (signal : Signal) :
    (frame.resume s signal).WorksOn slot false s := by
  have quiet {t : State} (pools : t.pools = s.pools) (slots : t.slots = s.slots)
      (phase : t.phase = s.phase) (priorities : t.priorities = s.priorities)
      (queue : t.queue = s.queue) : State.Confined slot false s t :=
    State.confined_of_eq ⟨phase, priorities, queue⟩ pools slots
  cases frame with
  | script scope action rest =>
      cases signal with
      | returned answer =>
          have noted : State.Confined slot false s (s.note (.acted scope.id action answer)) :=
            quiet rfl rfl rfl rfl rfl
          exact Move.worksOn_call noted works
      | _ => exact Move.worksOn_of_ends rfl (quiet rfl rfl rfl rfl rfl)
  | preparing own id number complete =>
      obtain rfl : own = slot := works
      cases signal with
      | returned answer =>
          have held : State.Confined own false s
              (s.modifyRequest number (Request.hold .continuation)) := quiet rfl rfl rfl rfl rfl
          have present' := (held.hasSlot own).trans present
          have left := held.trans
            (State.confined_setContinuation present' (.request id number complete))
          exact Move.worksOn_await left rfl trivial
      | _ => exact Move.worksOn_of_ends rfl (quiet rfl rfl rfl rfl rfl)
  | answer | attempt | refuse | starting =>
      cases signal <;> exact Move.worksOn_of_ends rfl (quiet rfl rfl rfl rfl rfl)
  | _ => exact works.elim

end Moves

/-! ### While the unit runs -/

/-- A unit of work on the slot is at work above the frames. -/
structure Moment.WorksOn (slot : SlotId) (frames : List Frame) (m : Moment) : Prop where
  above : ∃ upper, m.thread.frames = upper ++ frames ∧ ∀ frame ∈ upper, frame.WorksOn slot
  control : m.thread.control.WorksOn slot

section Runs

variable {first last now after m : Moment} {frames upper : List Frame} {passed : List Moment}
  {slot : SlotId} {signal : Signal} {s : State} {work : Work} {started : Bool}

/-- No further unit of work begins meanwhile. -/
theorem Moment.WorksOn.assigns (works : m.WorksOn slot frames) : m.assigns = [] := by
  obtain ⟨s, ⟨control, waiting⟩⟩ := m
  have control' := works.control
  cases control with
  | signal signal => rfl
  | call call =>
      cases call with
      | perform => exact control'.elim
      | _ => rfl

theorem Move.WorksOn.onto {move : Move} (works : move.WorksOn slot started s)
    (waits : ∀ frame ∈ upper, frame.WorksOn slot) :
    (move.onto (upper ++ frames)).WorksOn slot frames := by
  refine ⟨⟨move.frames ++ upper, (List.append_assoc _ _ _).symm, fun frame mem => ?_⟩,
    works.control⟩
  rcases List.mem_append.mp mem with added | waiting
  · exact works.frames frame added
  · exact waits frame waiting

/-- A step of the unit. -/
theorem Moment.Step.worksOn (step : m.Step after) (above : m.Above frames)
    (works : m.WorksOn slot frames) (present : m.state.hasSlot slot = true)
    (quiet : m.reenters = false) :
    after.WorksOn slot frames ∧ State.Confined slot m.grants m.state after.state := by
  obtain ⟨⟨waiting, shape, waits⟩, control⟩ := works
  rcases above.cases step with ⟨s, call, upper, rfl, rfl⟩ | ⟨s, signal, frame, upper, rfl, rfl⟩
  · obtain rfl : upper = waiting := List.append_cancel_right shape
    have works : (call.step s).WorksOn slot (call.grants s) s :=
      call.worksOn_step control present quiet
    exact ⟨works.onto waits, works.confined⟩
  · obtain rfl : frame :: upper = waiting := List.append_cancel_right shape
    obtain ⟨here, waits⟩ := List.forall_mem_cons.mp waits
    have works := frame.worksOn_resume here present signal
    exact ⟨works.onto waits, works.confined⟩

/-- As long as the unit runs and does not re-enter the dispatcher, it keeps to its slot. -/
theorem Run.confined (run : Run first passed now) (above : ∀ m ∈ passed, m.Above frames)
    (quiet : ∀ m ∈ passed, m.reenters = false) (works : first.WorksOn slot frames)
    (present : first.state.hasSlot slot = true) :
    now.WorksOn slot frames
      ∧ State.Confined slot (passed.any Moment.grants) first.state now.state
      ∧ passed.flatMap Moment.assigns = [] := by
  induction run with
  | start => exact ⟨works, .refl slot _, rfl⟩
  | @next passed now after run step ih =>
      obtain ⟨here, confined, none⟩ := ih (fun m mem => above m (List.mem_append_left _ mem))
        fun m mem => quiet m (List.mem_append_left _ mem)
      have mem : now ∈ passed ++ [now] := List.mem_append_right _ List.mem_cons_self
      obtain ⟨works, confined'⟩ := step.worksOn (above now mem) here
        ((confined.hasSlot slot).trans present) (quiet now mem)
      refine ⟨works, ?_, ?_⟩
      · rw [List.any_append]
        simpa using confined.trans confined'
      · simp [none, here.assigns]

/-- What a unit of work does from its beginning to its end, if it does not re-enter the dispatcher,
is confined to its slot, and no other unit begins meanwhile. -/
theorem Moment.Extent.confined
    (extent : Moment.Extent ⟨s, ⟨.call (.perform slot work), .bound slot :: frames⟩⟩
      (.bound slot :: frames) passed signal last)
    (present : s.hasSlot slot = true) (quiet : ∀ m ∈ passed, m.reenters = false) :
    State.Confined slot (passed.any Moment.grants) s last.state
      ∧ passed.flatMap Moment.assigns = [(slot, work)] := by
  rcases extent.cases with ⟨-, -, back⟩ | ⟨after, rest, rfl, above, step, onward⟩
  · cases back
  · cases step
    have begins := Call.worksOn_perform present work
    have works : ((Call.step s (.perform slot work)).onto (.bound slot :: frames)).WorksOn slot
        (.bound slot :: frames) :=
      @Move.WorksOn.onto (.bound slot :: frames) [] _ _ _ _ begins (List.forall_mem_nil _)
    obtain ⟨-, confined, none⟩ := onward.run.confined onward.above
      (fun m mem => quiet m (List.mem_cons_of_mem _ mem)) works
      ((begins.confined.hasSlot slot).trans present)
    exact ⟨begins.confined.trans confined, by simp [none, Moment.assigns]⟩

end Runs

end SlotDispatch
