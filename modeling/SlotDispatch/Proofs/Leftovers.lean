import SlotDispatch.Proofs.Binding
import SlotDispatch.Proofs.FileSteps

/-!
Which continuations a unit of work finds on the slot that it is bound to. A unit that fails
has its slot cleared, and the continuation that a unit leaves is taken when the slot completes,
so that none of it is there when the next unit comes. Only what a continuation leaves, while
the completion of its own slot is being handled, stays: the slot returns to its pool with it,
and the next unit that is bound to the slot finds it there and has it run at its completion
(`continuations_can_leak`). That nothing else is ever found is `leftovers_stem_from_continuations`.

The proof names the slots that are vacant, those in their pools and on their way there or from
there to the next unit. A step leaves a continuation on a slot only if the code at hand asks
for it, and makes a slot vacant only if it takes away what was left on it.
-/

namespace SlotDispatch

/-! ### What is left on a slot -/

/-- The slot on which the next step leaves a continuation, if it leaves one: the code at hand
does, or the facade on behalf of a request whose first hook returns. -/
def Moment.registers? (m : Moment) : Option SlotId :=
  match m.thread with
  | ⟨.call (.act (some scope) (.andThen _)), _⟩ => some scope.slot
  | ⟨.signal (.returned _), .preparing slot _ _ _ :: _⟩ => some slot
  | _ => none

/-- At this moment a unit of work leaves a continuation only if it has not started its slot. -/
def Moment.Timely (counts : List Nat) (m : Moment) : Prop :=
  ∀ slot, m.registers? = some slot → activation m.thread.frames = some (.unit, slot) →
    counts.head? = some 0

/-- `Moment.Timely`, computed. -/
def Moment.isTimely (counts : List Nat) (m : Moment) : Bool :=
  m.registers?.isNone || (activation m.thread.frames).any (fun code => code.1 == .continuation)
    || counts.head? == some 0

theorem Moment.timely_of_isTimely {counts : List Nat} {m : Moment}
    (checked : m.isTimely counts = true) : m.Timely counts := by
  intro slot registers runs
  simpa [isTimely, registers, runs] using checked

/-- In a run with the moments `past` behind it, a continuation that ran on a slot left another
there, which has stayed there since. -/
def LeftByContinuation (past : List Moment) (slot : SlotId) (continuation : Continuation) : Prop :=
  ∃ before m since, past = before ++ m :: since
    ∧ m.registers? = some slot ∧ activation m.thread.frames = some (.continuation, slot)
    ∧ ∀ other ∈ since, (other.state.slot slot).continuation = some continuation

theorem LeftByContinuation.next {past : List Moment} {slot : SlotId} {continuation : Continuation}
    {m : Moment} (left : LeftByContinuation past slot continuation)
    (stays : (m.state.slot slot).continuation = some continuation) :
    LeftByContinuation (past ++ [m]) slot continuation := by
  obtain ⟨before, first, since, rfl, registers, runs, stayed⟩ := left
  refine ⟨before, first, since ++ [m], by simp, registers, runs, fun other mem => ?_⟩
  rcases List.mem_append.mp mem with mem | mem
  · exact stayed other mem
  · rwa [List.mem_singleton.mp mem]

namespace State

variable {s t : State}

theorem continuation_of_leftovers (same : t.leftovers = s.leftovers) (id : SlotId) :
    (t.slot id).continuation = (s.slot id).continuation :=
  view_slot_of_same same id

/-- A continuation that is taken off a slot is gone, and no other is. -/
theorem continuation_relieved (s : State) (id other : SlotId) :
    ((s.relieved id).slot other).continuation
      = if other = id then none else (s.slot other).continuation := by
  rw [relieved]
  split
  · next same =>
      subst same
      cases present : s.hasSlot other with
      | true => rw [slot_modifySlot_self present (by intro; rfl)]
      | false =>
          rw [modifySlot_of_absent present, slot_of_absent present]
          rfl
  · next differs => rw [slot_modifySlot_of_ne differs (by intro; rfl)]

theorem continuation_clearContinuation (s : State) (id other : SlotId) :
    ((s.clearContinuation id).slot other).continuation
      = if other = id then none else (s.slot other).continuation := by
  rw [clearContinuation, continuation_of_leftovers (leftovers_dropContinuation _ _)]
  exact s.continuation_relieved id other

theorem continuation_followUp (s : State) (id other : SlotId) (status : Status) :
    ((s.followUp id status).state.slot other).continuation
      = if other = id then none else (s.slot other).continuation := by
  rw [← s.continuation_relieved id other]
  simp only [followUp]
  repeat' split
  all_goals rfl

theorem continuation_setContinuation (s : State) {id other : SlotId} (differs : other ≠ id)
    (continuation : Continuation) :
    ((s.setContinuation id continuation).slot other).continuation
      = (s.slot other).continuation := by
  rw [setContinuation, continuation_of_leftovers (leftovers_dropContinuation _ _),
    slot_modifySlot_of_ne differs (by intro; rfl)]

theorem continuation_detach (s : State) (id other : SlotId) :
    ((s.detach id).slot other).continuation = (s.slot other).continuation
      ∨ ((s.detach id).slot other).continuation = none := by
  have kept : ((s.detach id).slot other).continuation
      = ((s.clearContinuation id).slot other).continuation :=
    continuation_of_leftovers (sameFiles_modifySlot _ id (by intro; rfl)).sameLeftovers other
  rw [kept, continuation_clearContinuation]
  split
  · exact .inr rfl
  · exact .inl rfl

theorem continuation_drop (s : State) (id : SlotId) :
    (s.drop.1.slot id).continuation = (s.slot id).continuation
      ∨ (s.drop.1.slot id).continuation = none := by
  simp only [drop]
  split
  · exact .inl rfl
  · refine @detachUnpinned_induction (fun t => (t.slot id).continuation = (s.slot id).continuation
      ∨ (t.slot id).continuation = none) _ ?_ ?_
    · left
      rcases State.shutdown_eq { s with pending := s.pending.filter fun entry => !entry.2.awaited }
        with ⟨-, eq⟩ | ⟨-, requests, eq⟩
      · rw [eq]
        rfl
      · rw [eq]
        rfl
    · intro t slot holds
      rcases t.continuation_detach slot id with same | none
      · rw [same]
        exact holds
      · exact .inr none

end State

/-! ### What a step leaves on a slot -/

section Steps

variable {s : State} {frames : List Frame}

theorem State.Acts.left_cases {scope : Option Scope} {action : Action} {move : Move}
    (acts : s.Acts scope action move) (slot : SlotId) :
    (move.state.slot slot).continuation = (s.slot slot).continuation
      ∨ Moment.registers? ⟨s, ⟨.call (.act scope action), frames⟩⟩ = some slot := by
  cases acts with
  | continued scope' id script at' none same =>
      by_cases own : slot = scope'.slot
      · subst at' same own
        exact .inr rfl
      · exact .inl (continuation_setContinuation s own _)
  | shutDown =>
      simp only [Move.done, Move.answer, Move.signal, State.slot, s.slots_shutdown, true_or]
  | _ => exact .inl rfl

theorem Call.left_cases (s : State) (call : Call) (slot : SlotId) :
    ((call.step s).state.slot slot).continuation = (s.slot slot).continuation
      ∨ ((call.step s).state.slot slot).continuation = none
      ∨ Moment.registers? ⟨s, ⟨.call call, frames⟩⟩ = some slot := by
  cases quiet : call.concernsRequests with
  | false =>
      exact .inl (State.continuation_of_leftovers (sameFiles_step s quiet).sameLeftovers slot)
  | true =>
      have changes := call.changes s
      generalize (call.step s).state = t at changes ⊢
      cases changes with
      | acted scope action => exact ((s.acts scope action).left_cases slot).imp_right .inr
      | performed => exact .inl rfl
      | loaded own id number job log =>
          exact .inl (State.continuation_of_leftovers
            (State.sameFiles_modifySlot { s with log } own (by intro; rfl)).sameLeftovers slot)
      | relieved own =>
          have relieved := s.continuation_relieved own slot
          split at relieved
          · exact .inr (.inl relieved)
          · exact .inl relieved
      | discarded own =>
          rw [State.continuation_clearContinuation]
          split
          · exact .inr (.inl rfl)
          · exact .inl rfl
      | _ => cases quiet

theorem Frame.left_cases (s : State) (frame : Frame) (signal : Signal) (slot : SlotId) :
    ((frame.resume s signal).state.slot slot).continuation = (s.slot slot).continuation
      ∨ ((frame.resume s signal).state.slot slot).continuation = none
      ∨ Moment.registers? ⟨s, ⟨.signal signal, frame :: frames⟩⟩ = some slot := by
  cases quiet : frame.concernsRequests with
  | false =>
      exact .inl (State.continuation_of_leftovers
        (sameFiles_resume s quiet signal).sameLeftovers slot)
  | true =>
      cases frame with
      | preparing own id number complete =>
          cases signal with
          | returned answer =>
              by_cases same : slot = own
              · exact .inr (.inr (same ▸ rfl))
              · exact .inl (State.continuation_setContinuation
                  (s.modifyRequest number (Request.hold .continuation)) same _)
          | _ => exact .inl rfl
      | parting own kept =>
          cases kept with
          | false => cases signal <;> exact .inl rfl
          | true =>
              have detached := s.continuation_detach own slot
              cases signal <;> exact detached.imp_right .inl
      | starting | collecting => cases signal <;> exact .inl rfl
      | _ => cases quiet

/-- A step leaves a continuation on a slot only if the code at hand asks for it. -/
theorem Moment.Step.left_cases {m after : Moment} (step : m.Step after) (slot : SlotId) :
    (after.state.slot slot).continuation = (m.state.slot slot).continuation
      ∨ (after.state.slot slot).continuation = none ∨ m.registers? = some slot := by
  cases step with
  | call s call frames => exact call.left_cases s slot
  | resume s signal frame frames => exact frame.left_cases s signal slot
  | begin s signal action => exact .inl rfl
  | deliver signal earlier later due => exact .inl rfl
  | drop s signal => exact (s.continuation_drop slot).imp_right .inl

/-! ### Vacant slots -/

/-- The slot on its way from its pool to a unit of work, or back once it is cleared. -/
def Control.passes? : Control → Option SlotId
  | .call (.offer slot _) | .call (.bind slot _) | .call (.perform slot _)
  | .call (.markIdle slot) | .call (.pushIdle slot) => some slot
  | _ => none

/-- A slot that is on its way from the completion of one unit of work to the binding of the
next: its completion is being handled, and its continuation has been taken; or it is in its
pool, or on its way. -/
structure Moment.Vacant (m : Moment) (slot : SlotId) : Prop where
  somewhere : slot.index ∈ m.state.idle slot.device ∨ m.thread.control.passes? = some slot
    ∨ .completing slot ∈ m.thread.frames
  taken : ∀ status, m.thread.control ≠ .call (.followUp slot status)

/-- Only a walk that finds a slot, and a slot that was cleared, begin such a way. -/
theorem Call.Flows.passes? {call : Call} {move : Move} (flows : call.Flows move) {slot : SlotId}
    (passes : move.control.passes? = some slot) :
    (Control.call call).passes? = some slot ∨ call = .discard slot
      ∨ ∃ rest handedBack, call = .walk (slot.device :: rest) handedBack := by
  cases flows with
  | used own devices work t => exact .inl passes
  | bind own work t => exact .inl passes
  | markIdle own t => exact .inl passes
  | discard own t =>
      obtain rfl : own = slot := Option.some.inj passes
      exact .inr (.inl rfl)
  | found device rest handedBack index t =>
      obtain rfl : ⟨device, index⟩ = slot := Option.some.inj passes
      exact .inr (.inr ⟨rest, handedBack, rfl⟩)
  | _ => cases passes

/-- Only a continuation that ends without a panic hands its slot on as it is. -/
theorem Frame.Flows.passes? {frame : Frame} {move : Move} (flows : frame.Flows move)
    {slot : SlotId} (passes : move.control.passes? = some slot) : frame = .completing slot := by
  cases flows with
  | completed own t =>
      obtain rfl : own = slot := Option.some.inj passes
      rfl
  | _ => cases passes

/-- A completion that begins to be handled has its continuation taken next. -/
theorem Call.Flows.follows_up {call : Call} {move : Move} (flows : call.Flows move)
    {slot : SlotId} (added : .completing slot ∈ move.frames) :
    ∃ status, move.control = .call (.followUp slot status) := by
  cases flows with
  | completing own status t =>
      obtain rfl : slot = own := by simpa [Move.await] using added
      exact ⟨status, rfl⟩
  | _ => simp [Move.signal, Move.call, Move.await] at added

theorem Frame.Flows.not_completing {frame : Frame} {move : Move} (flows : frame.Flows move)
    (slot : SlotId) : .completing slot ∉ move.frames := by
  cases flows <;> simp [Move.signal, Move.call, Move.await]

/-- A call makes a slot vacant only if it takes away what was left there. -/
theorem Call.vacant_cases {call : Call} {slot : SlotId}
    (vacant : ((call.step s).onto frames).Vacant slot) :
    Moment.Vacant ⟨s, ⟨.call call, frames⟩⟩ slot
      ∨ ((call.step s).state.slot slot).continuation = none := by
  by_cases follows : ∃ status, call = .followUp slot status
  · obtain ⟨status, rfl⟩ := follows
    right
    simp [step, State.continuation_followUp]
  · have taken : ∀ status, (Control.call call) ≠ .call (.followUp slot status) :=
      fun status same => follows ⟨status, Control.call.inj same⟩
    rcases vacant.somewhere with idle | passes | completing
    · left
      rcases (Moment.Step.call s call frames).idle_cases slot.device with
        same | ⟨index, popped⟩ | ⟨other, at', pushes, pushed⟩
      · rw [same] at idle
        exact ⟨.inl idle, taken⟩
      · exact ⟨.inl (popped ▸ List.mem_cons_of_mem _ idle), taken⟩
      · rw [pushed] at idle
        rcases List.mem_cons.mp idle with index | idle
        · obtain rfl : slot = other := SlotId.eq_of_parts at'.symm index
          exact ⟨.inr (.inl (congrArg Control.passes? pushes)), taken⟩
        · exact ⟨.inl idle, taken⟩
    · rcases (call.flows s).passes? passes with before | rfl | ⟨rest, handedBack, rfl⟩
      · exact .inl ⟨.inr (.inl before), taken⟩
      · right
        simp [step, Move.call, State.continuation_clearContinuation]
      · simp only [step] at passes
        split at passes
        · cases passes
        · next index t popped =>
            have same : (⟨slot.device, index⟩ : SlotId) = slot := Option.some.inj passes
            have first : index = slot.index := congrArg SlotId.index same
            refine .inl ⟨.inl ?_, taken⟩
            rw [State.idle_of_popIdle popped, first]
            exact List.mem_cons_self
    · rcases List.mem_append.mp completing with added | below
      · obtain ⟨status, follows⟩ := (call.flows s).follows_up added
        exact absurd follows (vacant.taken status)
      · exact .inl ⟨.inr (.inr below), taken⟩

theorem Frame.vacant_cases {frame : Frame} {signal : Signal} {slot : SlotId}
    (vacant : ((frame.resume s signal).onto frames).Vacant slot) :
    Moment.Vacant ⟨s, ⟨.signal signal, frame :: frames⟩⟩ slot := by
  refine ⟨?_, nofun⟩
  rcases vacant.somewhere with idle | passes | completing
  · left
    exact (frame.undisturbed_resume s signal).idle slot.device ▸ idle
  · rw [(frame.flows s signal).passes? passes]
    exact .inr (.inr List.mem_cons_self)
  · rcases List.mem_append.mp completing with added | below
    · exact absurd added ((frame.flows s signal).not_completing slot)
    · exact .inr (.inr (List.mem_cons_of_mem _ below))

/-- So it is with every step. -/
theorem Moment.Step.vacant_cases {m after : Moment} (step : m.Step after) {slot : SlotId}
    (vacant : after.Vacant slot) :
    m.Vacant slot ∨ (after.state.slot slot).continuation = none := by
  cases step with
  | call s call frames => exact Call.vacant_cases vacant
  | resume s signal frame frames => exact .inl (Frame.vacant_cases vacant)
  | begin s signal action =>
      exact .inl ⟨vacant.somewhere.imp_right fun rest => rest.elim nofun .inr, nofun⟩
  | deliver signal earlier later due =>
      exact .inl ⟨vacant.somewhere.imp_right fun rest => rest.elim nofun .inr, nofun⟩
  | drop s signal =>
      refine .inl ⟨vacant.somewhere.imp_left fun idle => ?_, nofun⟩
      exact s.sameSlots_drop.idle slot.device ▸ idle

/-! ### Units of work leave nothing on vacant slots -/

/-- A slot whose completion is being handled is on its way. -/
theorem mem_held_of_completing {slot : SlotId} (mem : .completing slot ∈ frames)
    (counts : List Nat) : slot ∈ held frames counts := by
  induction frames generalizing counts with
  | nil => cases mem
  | cons frame below ih =>
      rcases List.mem_cons.mp mem with rfl | inside
      · exact List.mem_cons_self
      · cases frame with
        | bound own =>
            simp only [held]
            split
            · exact List.mem_cons_of_mem _ (ih inside _)
            · exact ih inside _
        | completing | parting => exact List.mem_cons_of_mem _ (ih inside counts)
        | _ => exact ih inside counts

/-- The code that leaves a continuation runs on the slot where it does. -/
theorem Moment.activation_of_registers {m : Moment} {slot : SlotId} (atHand : m.thread.Scoped)
    (registers : m.registers? = some slot) :
    (∃ role, activation m.thread.frames = some (role, slot))
      ∧ m.thread.control.passes? = none := by
  obtain ⟨s, ⟨control, frames⟩⟩ := m
  have runs (at' : slotAtHand frames = some slot) :
      ∃ role, activation frames = some (role, slot) := by
    obtain ⟨⟨role, own⟩, runs, rfl⟩ := Option.map_eq_some_iff.mp at'
    exact ⟨role, runs⟩
  simp only [registers?] at registers
  split at registers
  · next scope script frames same =>
      obtain ⟨rfl, rfl⟩ := Thread.mk.inj same
      exact ⟨runs (atHand.control slot registers), rfl⟩
  · next answer own id number complete below same =>
      obtain ⟨rfl, rfl⟩ := Thread.mk.inj same
      refine ⟨runs ?_, rfl⟩
      rw [slotAtHand_cons_of_none rfl]
      exact atHand.frames.1 slot registers
  · cases registers

/-- A slot whose unit of work has not started it is not vacant. -/
theorem Moment.Exclusive.not_vacant {m : Moment} {counts : List Nat} {slot : SlotId}
    (exclusive : m.Exclusive counts) (runs : activation m.thread.frames = some (.unit, slot))
    (fresh : counts.head? = some 0) (passes : m.thread.control.passes? = none) :
    ¬ m.Vacant slot := by
  intro vacant
  have owned := exclusive.once
  have away := exclusive.away slot
  rw [Moment.owners, held_of_started runs fresh] at owned away
  rcases vacant.somewhere with idle | leaves | completing
  · exact away (by simp) idle
  · rw [passes] at leaves
    cases leaves
  · have again := mem_held_of_completing completing (counts.modifyHead (· + 1))
    exact (List.nodup_cons.mp (List.nodup_append.mp owned).2.1).1 again

end Steps

/-! ### The law -/

section Runs

variable {backends : List Backend} {priorities : List Preference} {s : State}
  {past : List Moment} {now : Moment} {slot : SlotId} {continuation : Continuation}

/-- What is found on a vacant slot was left there by a continuation. -/
theorem Run.leftBy (built : (construct backends priorities).result = .ok s)
    (run : Run (.initial s) past now) (tidy : Throughout Moment.Tidy past)
    (timely : Throughout Moment.Timely past) (vacant : now.Vacant slot)
    (left : (now.state.slot slot).continuation = some continuation) :
    LeftByContinuation past slot continuation := by
  induction run with
  | start =>
      obtain ⟨configured, -, rfl⟩ := construct_ok built
      simp only [Moment.initial, State.slot_ofConfigured] at left
      cases left
  | @next past now after run step ih =>
      obtain ⟨tidy, here⟩ := throughout_append_singleton.mp tidy
      obtain ⟨timely, timelyHere⟩ := throughout_append_singleton.mp timely
      have before : now.Vacant slot := (step.vacant_cases vacant).resolve_right (by simp [left])
      rcases step.left_cases slot with same | none | registers
      · rw [same] at left
        exact (ih tidy timely before left).next left
      · rw [left] at none
        cases none
      · have sound := run.sound_of_tidy built tidy
        obtain ⟨⟨role, runs⟩, passes⟩ := Moment.activation_of_registers sound.atHand registers
        cases role with
        | unit =>
            have fresh := timelyHere slot registers runs
            exact absurd before (sound.exclusive.not_vacant runs fresh passes)
        | continuation =>
            exact ⟨past, now, [], rfl, registers, runs, List.forall_mem_nil _⟩

/-- Leftovers stem from continuations. If units of work leave continuations only before they
start their slots, the continuation that a unit finds on the slot that it is bound to, if it
finds one, was left there by a continuation that ran on the slot, and has been there since. No
unit finds what another unit left. -/
theorem leftovers_stem_from_continuations (built : (construct backends priorities).result = .ok s)
    (run : Run (.initial s) past now) (tidy : Throughout Moment.Tidy past)
    (timely : Throughout Moment.Timely past) {work : Work}
    (begins : now.thread.control = .call (.perform slot work))
    (left : (now.state.slot slot).continuation = some continuation) :
    LeftByContinuation past slot continuation := by
  refine run.leftBy built tidy timely ⟨.inr (.inl ?_), fun status same => ?_⟩ left
  · rw [begins]
    rfl
  · rw [begins] at same
    cases same

end Runs

/-- One slot and two units of work. The continuation of the first leaves another, and the second
unit is bound to the slot with it. -/
theorem leftovers_stem_from_continuations_single :
    let (past, _) := (Moment.initial (.single ⟨.manual, .ok, none⟩)).operations 60
      [.submit "u" [.andThen [.andThen []], .start], .submit "v" [.start], .complete ⟨"A", 0⟩ .ok]
    ∃ m ∈ past[40]?, Throughout Moment.Tidy (past.take 40) ∧ Throughout Moment.Timely (past.take 40)
      ∧ m.thread.control = .call (.perform ⟨"A", 0⟩ (.scripted "v" [.start]))
      ∧ LeftByContinuation (past.take 40) ⟨"A", 0⟩ (.scripted "u>>" []) := by
  have run := Run.operations 60 (.initial (.single ⟨.manual, .ok, none⟩))
    [.submit "u" [.andThen [.andThen []], .start], .submit "v" [.start], .complete ⟨"A", 0⟩ .ok]
  generalize played : Moment.operations 60 _ _ = outcome at run
  have passed : 40 < outcome.1.length := by
    subst played
    decide +kernel
  have tidy : Throughout Moment.Tidy (outcome.1.take 40) := by
    subst played
    exact (throughout_of_passes (fun _ _ => Moment.orderly_of_isOrderly) (by decide +kernel)).mono
      fun _ _ => Moment.Orderly.tidy
  have timely : Throughout Moment.Timely (outcome.1.take 40) := by
    subst played
    exact throughout_of_passes (fun _ _ => Moment.timely_of_isTimely) (by decide +kernel)
  have begins : outcome.1[40].thread.control
      = .call (.perform ⟨"A", 0⟩ (.scripted "v" [.start])) := by
    subst played
    rfl
  have left : (outcome.1[40].state.slot ⟨"A", 0⟩).continuation = some (.scripted "u>>" []) := by
    subst played
    rfl
  exact ⟨outcome.1[40], List.getElem?_eq_getElem passed, tidy, timely, begins,
    leftovers_stem_from_continuations (State.construct_single _) (run.take 40 passed) tidy timely
      begins left⟩

/-- So a unit of work can find a continuation that an earlier owner left on its slot, although
units start their slots once, after they have left their continuations, and nothing fails or
panics. -/
theorem continuations_can_leak :
    ¬ ∀ (backends : List Backend) (priorities : List Preference) (s : State)
        (past : List Moment) (now : Moment) (slot : SlotId) (work : Work),
      (construct backends priorities).result = .ok s → Run (.initial s) past now →
        Throughout Moment.Orderly past → Throughout Moment.Timely past →
          now.thread.control = .call (.perform slot work) →
            (now.state.slot slot).continuation = none := by
  intro claim
  have run := Run.operations 60 (.initial (.single ⟨.manual, .ok, none⟩))
    [.submit "u" [.andThen [.andThen []], .start], .submit "v" [.start], .complete ⟨"A", 0⟩ .ok]
  generalize played : Moment.operations 60 _ _ = outcome at run
  have passed : 40 < outcome.1.length := by
    subst played
    decide +kernel
  have left : (outcome.1[40].state.slot ⟨"A", 0⟩).continuation = some (.scripted "u>>" []) := by
    subst played
    rfl
  have clear := claim _ _ _ _ _ ⟨"A", 0⟩ (.scripted "v" [.start]) (State.construct_single _)
    (run.take 40 passed)
  rw [left] at clear
  subst played
  have empty := clear
    (throughout_of_passes (fun _ _ => Moment.orderly_of_isOrderly) (by decide +kernel))
    (throughout_of_passes (fun _ _ => Moment.timely_of_isTimely) (by decide +kernel)) rfl
  cases empty

end SlotDispatch
