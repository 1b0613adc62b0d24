import SlotDispatch.Proofs.Delivery
import SlotDispatch.Proofs.Engagement
import SlotDispatch.Proofs.Resolution

/-!
The pin of a slot tells whether the slot is engaged. It is set as a unit of work is bound, and
taken as the completion of the slot is told, or as the slot is handed back; what takes it away
at any other time would lose a completion, what leaves it would keep the slot for good. A
completion that comes in while the unit still runs has the slot handed back and bound anew, so
that the frames of both units lie on one stack; `Moment.Tethered` says for every moment of such
a run what the pin, the start of the slot and the units on the stack have to do with each other.
-/

namespace SlotDispatch

/-! ### Attachments -/

namespace State

/-- Of every slot, whether a completion of it reaches anyone. -/
def attachments (s : State) : List (SlotId × Bool) :=
  s.slots.map fun slot => (slot.id, slot.attached)

variable {s t : State}

theorem attached_of_attachments (same : t.attachments = s.attachments) (id : SlotId) :
    (t.slot id).attached = (s.slot id).attached :=
  view_slot_of_same same id

/-- A change of one slot that does not detach it. -/
theorem attachments_modifySlot (s : State) (id : SlotId) {change : Slot → Slot}
    (keeps : ∀ slot : Slot, ((change slot).id, (change slot).attached) = (slot.id, slot.attached)) :
    (s.modifySlot id change).attachments = s.attachments :=
  s.map_slots_modifySlot id keeps

theorem attachments_dropContinuation (s : State) (continuation : Option Continuation) :
    (s.dropContinuation continuation).attachments = s.attachments := by
  obtain ⟨requests, eq⟩ := s.dropContinuation_eq continuation
  rw [eq]
  rfl

theorem attachments_setContinuation (s : State) (slot : SlotId) (continuation : Continuation) :
    (s.setContinuation slot continuation).attachments = s.attachments :=
  (attachments_dropContinuation _ _).trans (s.attachments_modifySlot slot fun _ => rfl)

theorem Acts.attachments {scope : Option Scope} {action : Action} {move : Move}
    (acts : s.Acts scope action move) : move.state.attachments = s.attachments := by
  cases acts with
  | continued scope' id script => exact s.attachments_setContinuation _ _
  | shutDown => simp only [Move.done, Move.answer, Move.signal, State.attachments, s.slots_shutdown]
  | _ => rfl

/-- Nothing is seen of a slot that is forgotten in any other. -/
theorem slot_detach_of_ne (s : State) {slot other : SlotId} (ne : other ≠ slot) :
    (s.detach slot).slot other = s.slot other := by
  obtain ⟨requests, eq⟩ := (s.relieved slot).dropContinuation_eq (s.slot slot).continuation
  have cleared : s.clearContinuation slot = { s.relieved slot with requests } := eq
  rw [detach, slot_modifySlot_of_ne ne (by intro; rfl), cleared]
  exact slot_modifySlot_of_ne ne (by intro; rfl)

/-- A pinned slot outlasts the drop of the dispatcher as it is. -/
theorem slot_drop {id : SlotId} (distinct : (s.slots.map Slot.id).Nodup)
    (pinned : (s.slot id).pinned = true) : s.drop.1.slot id = s.slot id := by
  simp only [drop]
  split
  · rfl
  · refine @detachUnpinned_induction_of_mem (fun t => t.slot id = s.slot id) _ ?_ ?_
    · simp only [State.slot, slots_shutdown]
    · intro t slot mem free same
      simp only [slots_shutdown] at mem
      have own : s.slot slot.id = slot := slot_eq_of_mem distinct mem
      have differs : id ≠ slot.id := by
        rintro rfl
        rw [own, free] at pinned
        cases pinned
      rw [t.slot_detach_of_ne differs]
      exact same

end State

section Attachments

open State

/-- No call detaches a slot. -/
theorem Call.attachments_step (s : State) (call : Call) :
    (call.step s).state.attachments = s.attachments := by
  have changes := call.changes s
  generalize (call.step s).state = t at changes ⊢
  cases changes with
  | acted scope action => exact (s.acts scope action).attachments
  | bound slot | loaded slot | granted slot | completed slot | notified slot | relieved slot
  | freed slot => exact s.attachments_modifySlot slot fun _ => rfl
  | discarded slot =>
      exact (attachments_dropContinuation _ _).trans (s.attachments_modifySlot slot fun _ => rfl)
  | _ => rfl

/-- Only a continuation that parts with its slot detaches it. -/
theorem Frame.attached_resume (s : State) (frame : Frame) (signal : Signal) (slot : SlotId)
    (stays : ∀ kept, frame ≠ .parting slot kept) :
    ((frame.resume s signal).state.slot slot).attached = (s.slot slot).attached := by
  have changes := frame.changes s signal
  generalize (frame.resume s signal).state = t at changes ⊢
  cases changes with
  | registered own id number complete =>
      exact attached_of_attachments
        (attachments_setContinuation (s.modifyRequest number (Request.hold .continuation)) _ _) slot
  | detached own =>
      refine s.attached_detach ?_
      rintro rfl
      exact stays true rfl
  | _ => rfl

end Attachments

/-! ### What a step does to a slot -/

section Steps

variable {m after : Moment} {slot : SlotId}

/-- A slot that is handed back, or whose completion is told, is let go, whatever it was before. -/
theorem Moment.Step.frees (step : m.Step after)
    (told : (∃ status, m.thread.control = .call (.notify slot status))
      ∨ m.thread.control = .call (.markIdle slot)) : (after.state.slot slot).pinned = false := by
  have free (s : State) (change : Slot → Slot) (keeps : ∀ slot, (change slot).id = slot.id)
      (frees : ∀ slot, (change slot).pinned = false) :
      ((s.modifySlot slot change).slot slot).pinned = false := by
    cases present : s.hasSlot slot with
    | false =>
        rw [State.modifySlot_of_absent present, State.slot_of_absent present]
        rfl
    | true =>
        rw [State.slot_modifySlot_self present keeps]
        exact frees _
  cases step with
  | call s call frames =>
      rcases told with ⟨status, same⟩ | same
      · obtain rfl : call = .notify slot status := by simpa using same
        exact free s (fun slot => { slot with pinned := false, last := status }) (by intro; rfl)
          fun _ => rfl
      · obtain rfl : call = .markIdle slot := by simpa using same
        exact free s (fun slot => { slot with bound := false, pinned := false }) (by intro; rfl)
          fun _ => rfl
  | _ => rcases told with ⟨status, ⟨⟩⟩ | ⟨⟨⟩⟩

/-! ### Slots that are not engaged -/

/-- The slot is idle, or on its way to its pool or from there, or its completion is being
handled. -/
def Moment.Loose (m : Moment) (slot : SlotId) : Prop :=
  slot.index ∈ m.state.idle slot.device ∨ slot ∈ m.thread.control.holds
    ∨ .completing slot ∈ m.thread.frames

/-- A slot that the control takes into its hands was loose, or completes. -/
theorem Call.loose_step {s : State} {call : Call} {frames : List Frame}
    (mem : slot ∈ (call.step s).control.holds) :
    Moment.Loose ⟨s, ⟨.call call, frames⟩⟩ slot ∨ ∃ status, call = .complete slot status := by
  have flows := call.flows s
  cases call with
  | walk devices handedBack =>
      cases devices with
      | nil =>
          generalize Call.step s (.walk [] handedBack) = move at flows mem
          cases flows <;> cases mem
      | cons device rest =>
          simp only [step] at mem
          split at mem
          · cases mem
          · next index t popped =>
              obtain rfl := List.mem_singleton.mp mem
              refine .inl (.inl ?_)
              rw [State.idle_of_popIdle popped]
              exact List.mem_cons_self
  | complete own status =>
      generalize Call.step s (.complete own status) = move at flows mem
      cases flows with
      | ends => cases mem
      | notify =>
          obtain rfl := List.mem_singleton.mp mem
          exact .inr ⟨status, rfl⟩
  | offer own devices =>
      refine .inl (.inr (.inl ?_))
      generalize Call.step s (.offer own devices) = move at flows mem
      cases flows with
      | ends => cases mem
      | unused | used => exact mem
  | discard own =>
      refine .inl (.inr (.inl ?_))
      generalize Call.step s (.discard own) = move at flows mem
      cases flows with
      | ends => cases mem
      | discard => exact mem
  | markIdle own =>
      refine .inl (.inr (.inl ?_))
      generalize Call.step s (.markIdle own) = move at flows mem
      cases flows with
      | ends => cases mem
      | markIdle => exact mem
  | _ =>
      generalize Call.step s _ = move at flows mem
      cases flows <;> cases mem

/-- A slot becomes loose only as it completes, or as a unit of work that was bound to it fails. -/
theorem Moment.Step.loosens (step : m.Step after) (loose : after.Loose slot) :
    m.Loose slot ∨ (∃ status, m.thread.control = .call (.complete slot status))
      ∨ ∃ signal below, m.thread = ⟨.signal signal, .bound slot :: below⟩
        ∧ ∀ answer, signal ≠ .returned answer := by
  rcases loose with idle | holds | completing
  · left
    rcases step.idle_cases slot.device with same | ⟨index, taken⟩ | ⟨other, at', returns, pushed⟩
    · exact .inl (same ▸ idle)
    · left
      rw [taken]
      exact List.mem_cons_of_mem _ idle
    · rw [pushed] at idle
      rcases List.mem_cons.mp idle with same | idle
      · right
        left
        rw [returns, SlotId.eq_of_parts at'.symm same]
        exact List.mem_cons_self
      · exact .inl idle
  · cases step with
    | call s call frames =>
        rcases Call.loose_step holds with loose | ⟨status, rfl⟩
        · exact .inl loose
        · exact .inr (.inl ⟨status, rfl⟩)
    | resume s signal frame frames =>
        have flows := frame.flows s signal
        cases frame with
        | bound own =>
            cases signal with
            | returned answer => cases holds
            | _ =>
                obtain rfl := List.mem_singleton.mp holds
                exact .inr (.inr ⟨_, frames, rfl, nofun⟩)
        | completing own =>
            simp only [Move.onto] at holds
            generalize Frame.resume s (.completing own) signal = move at flows holds
            cases flows with
            | ends => cases holds
            | completed | completedInPanic =>
                obtain rfl := List.mem_singleton.mp holds
                exact .inl (.inr (.inr List.mem_cons_self))
        | _ =>
            simp only [Move.onto] at holds
            generalize Frame.resume s _ signal = move at flows holds
            cases flows <;> cases holds
    | begin s signal action => cases holds
    | deliver signal earlier later due => cases holds
    | drop s signal => cases holds
  · left
    cases step with
    | call s call frames =>
        have flows := call.flows s
        simp only [Move.onto] at completing
        rcases List.mem_append.mp completing with added | there
        · generalize Call.step s call = move at flows added
          cases flows with
          | completing own status t =>
              obtain rfl : slot = own := by simpa [Move.await] using added
              exact .inr (.inl List.mem_cons_self)
          | _ => simp [Move.signal, Move.call, Move.await] at added
        · exact .inr (.inr there)
    | resume s signal frame frames =>
        have flows := frame.flows s signal
        simp only [Move.onto] at completing
        rcases List.mem_append.mp completing with added | there
        · generalize frame.resume s signal = move at flows added
          cases flows <;> simp [Move.signal, Move.call, Move.await] at added
        · exact .inr (.inr (List.mem_cons_of_mem _ there))
    | begin s signal action => cases completing
    | deliver signal earlier later due => cases completing
    | drop s signal => cases completing

end Steps

/-! ### Pins that hold -/

/-- A pinned slot is attached, and no continuation is about to part with it. -/
structure Moment.Secured (m : Moment) : Prop where
  attached : ∀ slot, (m.state.slot slot).pinned = true → (m.state.slot slot).attached = true
  kept : ∀ slot held, .parting slot held ∈ m.thread.frames → (m.state.slot slot).pinned = false

section Steps

variable {m after : Moment} {slot : SlotId}

/-- A slot that is not about to part stays attached if it is pinned. -/
theorem Moment.Step.keeps_attached (step : m.Step after)
    (distinct : (m.state.slots.map Slot.id).Nodup) (attached : (m.state.slot slot).attached = true)
    (kept : ∀ held, .parting slot held ∉ m.thread.frames)
    (pinned : (after.state.slot slot).pinned = true) : (after.state.slot slot).attached = true := by
  cases step with
  | call s call frames =>
      exact (State.attached_of_attachments (call.attachments_step s) slot).trans attached
  | resume s signal frame frames =>
      refine (frame.attached_resume s signal slot fun held same => ?_).trans attached
      exact kept held (same ▸ List.mem_cons_self)
  | begin s signal action => exact attached
  | deliver signal earlier later due => exact attached
  | drop s signal =>
      rw [State.pinned_of_moorings s.moorings_drop] at pinned
      rw [State.slot_drop distinct pinned]
      exact attached

/-- A unit of work is bound only while the dispatcher serves. -/
theorem Moment.Searching.serving_of_binds {work : Work} (searching : m.Searching)
    (binds : m.thread.control = .call (.bind slot work)) : m.state.serving = true := by
  have seeks := searching.seeks
  simp only [Moment.Seeks, binds] at seeks
  exact seeks.1

theorem Moment.Linked.not_parting {held : Bool} (linked : m.Linked)
    (serving : m.state.serving = true) : .parting slot held ∉ m.thread.frames := by
  intro mem
  have dropped := linked.parting _ mem rfl
  simp [State.serving, dropped] at serving

/-- A continuation parts with its slot after a completion only. -/
theorem Moment.Step.parting_cases {held : Bool} (step : m.Step after)
    (mem : .parting slot held ∈ after.thread.frames) :
    .parting slot held ∈ m.thread.frames
      ∨ ∃ status, m.thread.control = .call (.notify slot status) := by
  cases step with
  | call s call frames =>
      have flows := call.flows s
      simp only [Move.onto] at mem
      rcases List.mem_append.mp mem with added | there
      · generalize Call.step s call = move at flows added
        cases flows with
        | parting own status kept t =>
            obtain ⟨rfl, rfl⟩ : slot = own ∧ held = kept := by simpa [Move.await] using added
            exact .inr ⟨status, rfl⟩
        | _ => simp [Move.signal, Move.call, Move.await] at added
      · exact .inl there
  | resume s signal frame frames =>
      have flows := frame.flows s signal
      simp only [Move.onto] at mem
      rcases List.mem_append.mp mem with added | there
      · generalize frame.resume s signal = move at flows added
        cases flows <;> simp [Move.signal, Move.call, Move.await] at added
      · exact .inl (List.mem_cons_of_mem _ there)
  | begin s signal action => cases mem
  | deliver signal earlier later due => cases mem
  | drop s signal => cases mem

/-- Every step leaves pinned slots attached. -/
theorem Moment.Step.secured (step : m.Step after) (linked : m.Linked) (searching : m.Searching)
    (distinct : (m.state.slots.map Slot.id).Nodup) (secured : m.Secured) : after.Secured := by
  constructor
  · intro slot pinned
    rcases step.pins pinned with before | ⟨work, binds⟩
    · refine step.keeps_attached distinct (secured.attached slot before) (fun held mem => ?_) pinned
      simp [secured.kept slot held mem] at before
    · have serving := searching.serving_of_binds binds
      refine step.keeps_attached distinct ?_ (fun held => linked.not_parting serving) pinned
      exact (linked.attached fun gone => by simp [State.serving, gone] at serving).slot slot
  · intro slot held mem
    rcases step.parting_cases mem with there | ⟨status, told⟩
    · rw [Bool.eq_false_iff]
      intro pinned
      rcases step.pins pinned with before | ⟨work, binds⟩
      · simp [secured.kept slot held there] at before
      · exact linked.not_parting (searching.serving_of_binds binds) there
    · exact step.frees (.inl ⟨status, told⟩)

end Steps

/-! ### Slots that are about to be let go -/

/-- A slot that is about to be let go is in the hands of the control. -/
theorem Control.holds_of_unpins {control : Control} {slot : SlotId}
    (unpins : slot ∈ control.unpins) : slot ∈ control.holds := by
  unfold Control.unpins at unpins
  split at unpins
  · exact unpins
  · exact unpins
  · exact unpins
  · cases unpins

section Steps

variable {m after : Moment} {slot : SlotId}

/-- The dispatcher is told of the completion of an attached slot. -/
theorem Moment.Step.tells {status : Status} (step : m.Step after)
    (completes : m.thread.control = .call (.complete slot status))
    (attached : (m.state.slot slot).attached = true) : slot ∈ after.thread.control.unpins := by
  cases step with
  | call s call frames =>
      obtain rfl : call = .complete slot status := by simpa using completes
      have reaches : ((s.modifySlot slot fun slot =>
          { slot with output := slot.input, running := false }).slot slot).attached = true := by
        have same := @State.attachments_modifySlot s slot
          (fun slot => { slot with output := slot.input, running := false }) fun _ => rfl
        exact (State.attached_of_attachments same slot).trans attached
      simp only [Move.onto, Call.step, State.complete, reaches, if_true]
      exact List.mem_cons_self
  | _ => cases completes

/-- The slot of a unit that fails is handed back. -/
theorem Moment.Step.discards {signal : Signal} {below : List Frame} (step : m.Step after)
    (ends : m.thread = ⟨.signal signal, .bound slot :: below⟩)
    (fails : ∀ answer, signal ≠ .returned answer) : slot ∈ after.thread.control.unpins := by
  cases step with
  | resume s signal frame frames =>
      cases ends
      cases signal with
      | returned answer => exact absurd rfl (fails answer)
      | _ => exact List.mem_cons_self
  | _ => cases ends

/-- A slot that is about to be let go is let go at once, unless its continuation is destroyed
first. -/
theorem Moment.Step.unpins_on (step : m.Step after) (unpins : slot ∈ m.thread.control.unpins)
    (pinned : (after.state.slot slot).pinned = true) : slot ∈ after.thread.control.unpins := by
  cases step with
  | call s call frames =>
      cases call with
      | notify own status =>
          obtain rfl := List.mem_singleton.mp unpins
          have free := (Moment.Step.call s (.notify slot status) frames).frees (.inl ⟨status, rfl⟩)
          simp [free] at pinned
      | markIdle own =>
          obtain rfl := List.mem_singleton.mp unpins
          simp [(Moment.Step.call s (.markIdle slot) frames).frees (.inr rfl)] at pinned
      | discard own => exact unpins
      | _ => cases unpins
  | _ => cases unpins

end Steps

/-! ### Tethers -/

/-- A slot that is engaged is pinned and not loose; a pinned slot is engaged or about to be let
go; and a slot that executes, or that a unit of work has yet to start, is engaged by that unit. -/
structure Moment.Tethered (past : List Moment) (counts : List Nat) (m : Moment) : Prop where
  pinned : ∀ slot, Engaged past slot → (m.state.slot slot).pinned = true
  tied : ∀ slot, Engaged past slot → ¬ m.Loose slot
  engaged : ∀ slot, (m.state.slot slot).pinned = true →
    Engaged past slot ∨ slot ∈ m.thread.control.unpins
  running : ∀ slot, (m.state.slot slot).running = true → Engaged past slot
  units : ∀ slot below, (slot, below) ∈ underway m.thread.frames counts → EngagedAt past slot below

section Steps

variable {past : List Moment} {counts : List Nat} {m after : Moment} {slot : SlotId}

/-- A unit of work that fails was the last one bound to its slot. -/
theorem Moment.Tethered.eq_of_fails {signal : Signal} {frames below : List Frame}
    (tethered : m.Tethered past counts) (orderly : m.Orderly counts)
    (engaged : EngagedAt past slot frames)
    (ends : m.thread = ⟨.signal signal, .bound slot :: below⟩)
    (fails : ∀ answer, signal ≠ .returned answer) : frames = below :=
  engaged.unique (tethered.units slot below (orderly.underway_of_fails ends fails))

/-- A slot that has just been bound is pinned, and it is not loose. -/
theorem Moment.Step.binds {s : State} {work : Work} {frames : List Frame}
    (step : Step ⟨s, ⟨.call (.bind slot work), frames⟩⟩ after)
    (exclusive : Moment.Exclusive counts ⟨s, ⟨.call (.bind slot work), frames⟩⟩)
    (later : after.Exclusive (0 :: counts)) :
    (after.state.slot slot).pinned = true ∧ ¬ after.Loose slot := by
  cases step
  have owners : ((Call.step s (.bind slot work)).onto frames).owners (0 :: counts)
      = slot :: held frames counts := rfl
  refine ⟨?_, ?_⟩
  · have present : s.hasSlot slot = true := exclusive.known slot List.mem_cons_self
    simp only [Move.onto, Call.step, Move.await]
    rw [State.slot_modifySlot_self present (by intro; rfl)]
  · rintro (idle | holds | completing)
    · exact later.away slot (owners ▸ List.mem_cons_self) idle
    · cases holds
    · have there : .completing slot ∈ frames := by
        simpa [Move.onto, Call.step, Move.await] using completing
      have once := later.once
      rw [owners] at once
      exact (List.nodup_cons.mp once).1 (mem_held_of_completing there counts)

/-- Every step of an orderly run leaves the slots tethered. -/
theorem Moment.Step.tethered (step : m.Step after) (atHand : m.thread.Scoped)
    (orderly : m.Orderly counts) (exclusive : m.Exclusive counts)
    (later : after.Exclusive (m.tally counts)) (secured : m.Secured)
    (tethered : m.Tethered past counts) : after.Tethered (past ++ [m]) (m.tally counts) := by
  -- A slot that is bound is in the hands of the control, so it neither executes nor is in others.
  have taken {slot : SlotId} {work : Work} (binds : m.thread.control = .call (.bind slot work)) :
      slot ∈ m.thread.control.holds := by
    rw [binds]
    exact List.mem_cons_self
  have bare {slot : SlotId} (owned : slot ∈ held m.thread.frames counts) :
      (m.state.slot slot).running = false ∧ slot ∉ m.thread.control.holds :=
    ⟨exclusive.still slot (List.mem_append_right _ owned), fun holds =>
      (List.nodup_append.mp exclusive.once).2.2 slot holds slot owned rfl⟩
  refine ⟨?_, ?_, ?_, ?_, ?_⟩
  · rintro slot ⟨frames, engaged⟩
    rcases engagedAt_append_singleton.mp engaged with ⟨s, work, rfl⟩ | ⟨engaged, -⟩
    · exact (step.binds exclusive later).1
    · by_contra free
      have loose : m.Loose slot := by
        rcases step.lets_go (tethered.pinned slot ⟨frames, engaged⟩) (by simpa using free)
          with ⟨status, told⟩ | marks
        · exact .inr (.inl (told ▸ List.mem_cons_self))
        · exact .inr (.inl (marks ▸ List.mem_cons_self))
      exact tethered.tied slot ⟨frames, engaged⟩ loose
  · rintro slot ⟨frames, engaged⟩ loose
    rcases engagedAt_append_singleton.mp engaged with ⟨s, work, rfl⟩ | ⟨engaged, leaves⟩
    · exact (step.binds exclusive later).2 loose
    · rcases step.loosens loose with loose | ⟨status, completes⟩ | ⟨signal, below, ends, fails⟩
      · exact tethered.tied slot ⟨frames, engaged⟩ loose
      · exact leaves.completes status completes
      · obtain rfl := tethered.eq_of_fails orderly engaged ends fails
        obtain ⟨answer, returned⟩ := leaves.fails signal ends
        exact fails answer returned
  · intro slot pinned
    rcases step.pins pinned with before | ⟨work, binds⟩
    · rcases tethered.engaged slot before with ⟨frames, engaged⟩ | unpins
      · rcases engaged.next m with
          stays | ⟨work, binds⟩ | ⟨status, completes⟩ | ⟨signal, ends, fails⟩
        · exact .inl ⟨frames, stays⟩
        · exact absurd (.inr (.inl (taken binds))) (tethered.tied slot ⟨frames, engaged⟩)
        · exact .inr (step.tells completes (secured.attached slot before))
        · exact .inr (step.discards ends fails)
      · right
        exact step.unpins_on unpins pinned
    · obtain ⟨s, control, frames⟩ := m
      obtain rfl : control = _ := binds
      exact .inl ⟨frames, engagedAt_append_singleton.mpr (.inl ⟨s, work, rfl⟩)⟩
  · intro slot running
    rcases step.runs running with starts' | ⟨before, stays⟩
    · obtain ⟨below, unit⟩ := orderly.underway atHand starts'
      have engaged := tethered.units slot below unit
      refine ⟨below, engagedAt_append_singleton.mpr (.inr ⟨engaged, ?_, ?_, ?_⟩)⟩
      · simp [starts']
      · simp [starts']
      · intro signal same
        simp [same] at starts'
    · obtain ⟨frames, engaged⟩ := tethered.running slot before
      rcases engaged.next m with stays | ⟨work, binds⟩ | ⟨status, completes⟩ | ⟨signal, ends, fails⟩
      · exact ⟨frames, stays⟩
      · have still := exclusive.still slot (List.mem_append_left _ (taken binds))
        simp [still] at before
      · exact absurd completes (stays status)
      · have unit := orderly.underway_of_fails ends fails
        simp [(bare (mem_held_of_underway unit)).1] at before
  · intro slot below unit
    rcases step.underway_cases unit with bind | ⟨unit, goes⟩
    · exact engagedAt_append_singleton.mpr (.inl bind)
    · have bare := bare (mem_held_of_underway unit)
      rcases (tethered.units slot below unit).next m with
        stays | ⟨work, binds⟩ | ⟨status, completes⟩ | ⟨signal, ends, -⟩
      · exact stays
      · exact absurd (taken binds) bare.2
      · have running := orderly.delivered slot status completes
        simp [bare.1] at running
      · exact absurd ends (goes signal)

end Steps

/-! ### The law -/

section Runs

variable {backends : List Backend} {priorities : List Preference} {s : State}
  {past : List Moment} {now : Moment}

/-- A run leaves pinned slots attached, whatever devices and callers do. -/
theorem Run.secured (built : (construct backends priorities).result = .ok s)
    (run : Run (.initial s) past now) : now.Secured := by
  induction run with
  | start =>
      obtain ⟨configured, -, rfl⟩ := construct_ok built
      refine ⟨fun slot _ => ?_, nofun⟩
      simp only [Moment.initial, State.slot_ofConfigured]
      rfl
  | next run step ih =>
      exact step.secured (run.linked built) run.searching (run.grounded built).distinct ih

/-- An orderly run leaves the slots tethered. -/
theorem Run.tethered (built : (construct backends priorities).result = .ok s)
    (run : Run (.initial s) past now) (orderly : Throughout Moment.Orderly past) :
    now.Tethered past (starts past) := by
  induction run with
  | start =>
      obtain ⟨configured, -, rfl⟩ := construct_ok built
      have none (slot : SlotId) : ¬ Engaged [] slot := fun ⟨frames, engaged⟩ =>
        not_engagedAt_nil engaged
      refine ⟨fun slot engaged => absurd engaged (none slot),
        fun slot engaged => absurd engaged (none slot), fun slot pinned => ?_,
        fun slot running => ?_, nofun⟩
      · simp only [Moment.initial, State.slot_ofConfigured] at pinned
        cases pinned
      · simp only [Moment.initial, State.slot_ofConfigured] at running
        cases running
  | @next past now after run step ih =>
      have whole := orderly
      obtain ⟨orderly, here⟩ := throughout_append_singleton.mp orderly
      have sound := run.sound built orderly
      have later := ((run.next step).sound built whole).exclusive
      rw [starts_append_singleton] at later ⊢
      exact step.tethered sound.atHand here sound.exclusive later (run.secured built) (ih orderly)

/-- In a run with the moments `past` behind it that has come to `now`, pins track execution. -/
structure PinsTrack (past : List Moment) (now : Moment) : Prop where
  /-- Between operations a slot is pinned if a unit of work was bound to it, the last such unit
  has succeeded, and no completion of the slot has been delivered since. -/
  tracks : now.AtRest → ∀ slot, (now.state.slot slot).pinned = true ↔ ∃ frames since,
    BoundLast past slot frames since ∧ Succeeded slot frames since ∧ Uncompleted slot since
  /-- A slot that executes is pinned, so a drop of the dispatcher leaves it as it is. -/
  running : ∀ slot, (now.state.slot slot).running = true →
    (now.state.slot slot).pinned = true ∧ now.state.drop.1.slot slot = now.state.slot slot
  /-- Its completion reaches the continuation that it holds, dropped or not. -/
  reaches : ∀ slot status frames, now.thread = ⟨.call (.complete slot status), frames⟩ →
    (now.state.slot slot).running = true → ∃ told followed frame,
      now.Step told ∧ told.Step followed ∧ frame.awaitsFollowUp = true
        ∧ followed.thread = ⟨.call (.followUp slot status), frame :: frames⟩
        ∧ (followed.state.slot slot).continuation = (now.state.slot slot).continuation
  /-- An idle slot is not pinned. -/
  idle : ∀ slot : SlotId, slot.index ∈ now.state.idle slot.device →
    (now.state.slot slot).pinned = false
  /-- Between operations, neither is one that has completed after the end of the service. -/
  closed : now.AtRest → ∀ slot, ∀ m ∈ past, ∀ status,
    m.thread.control = .call (.complete slot status) → m.state.serving = false →
      (now.state.slot slot).pinned = false
  /-- A pin is taken by the completion of the slot and the failure of the unit that was bound to it
  last, and by nothing else: whatever outer frames are handed a signal, it stays. -/
  stays : ∀ slot frames since, BoundLast past slot frames since → Unfailed slot frames since →
    Uncompleted slot since → (now.state.slot slot).pinned = true

/-- A slot that has completed after the end of the service is not engaged. -/
theorem Run.not_engaged (run : Run (.initial s) past now) {m : Moment} (mem : m ∈ past)
    {slot : SlotId} {status : Status} (completes : m.thread.control = .call (.complete slot status))
    (ended : m.state.serving = false) : ¬ Engaged past slot := by
  rintro ⟨frames, since, ⟨⟨before, t, work, rfl⟩, -⟩, -, uncompleted⟩
  rcases List.mem_append.mp mem with earlier | mem
  · -- No unit is bound once the service has ended.
    obtain ⟨first, rest, rfl⟩ := List.append_of_mem earlier
    have binding := run.split.1
    have serving := binding.searching.serving_of_binds rfl
    have terminated := binding.split.2.terminated ended
    rw [terminated] at serving
    cases serving
  · rcases List.mem_cons.mp mem with rfl | later
    · cases completes
    · exact uncompleted m later status completes

/-- Pins track execution. In every orderly run, with shutdowns and drops and with completions
that come in while the unit still runs, a slot is pinned between operations if the unit of work
that was bound to it last has succeeded and the slot has not completed since. So a slot that
executes is pinned, and a slot that is idle or has completed after the end is not. -/
theorem pins_track_execution (built : (construct backends priorities).result = .ok s)
    (run : Run (.initial s) past now) (orderly : Throughout Moment.Orderly past) :
    PinsTrack past now := by
  have sound := run.sound built orderly
  have secured := run.secured built
  have tethered := run.tethered built orderly
  have pinned (slot : SlotId) (running : (now.state.slot slot).running = true) :=
    tethered.pinned slot (tethered.running slot running)
  have engaged (atRest : now.AtRest) (slot : SlotId) :
      (now.state.slot slot).pinned = true ↔ Engaged past slot := by
    obtain ⟨signal, rest⟩ := atRest
    refine ⟨fun pinned => (tethered.engaged slot pinned).resolve_right ?_, tethered.pinned slot⟩
    simp [rest, Control.unpins]
  refine ⟨fun atRest slot => (engaged atRest slot).trans (run.engaged_iff atRest),
    ?_, ?_, ?_, ?_, ?_⟩
  · exact fun slot running =>
      ⟨pinned slot running, State.slot_drop sound.distinct (pinned slot running)⟩
  · rintro slot status frames completes running
    obtain ⟨t, thread⟩ := now
    obtain rfl : thread = _ := completes
    obtain ⟨u, v, frame, told, follows, waits, -, -, -, -, held⟩ :=
      Moment.delivery_begins status frames (State.hasSlot_of_running running)
        (secured.attached slot (pinned slot running))
    exact ⟨_, _, frame, told, follows, waits, rfl, held⟩
  · intro slot idle
    rw [Bool.eq_false_iff]
    intro pinned
    rcases tethered.engaged slot pinned with engaged | unpins
    · exact tethered.tied slot engaged (.inl idle)
    · refine sound.exclusive.away slot (List.mem_append_left _ ?_) idle
      exact Control.holds_of_unpins unpins
  · intro atRest slot m mem status completes ended
    rw [Bool.eq_false_iff]
    intro pinned
    exact run.not_engaged mem completes ended ((engaged atRest slot).mp pinned)
  · intro slot frames since bound unfailed uncompleted
    exact tethered.pinned slot ⟨frames, since, bound, unfailed, uncompleted⟩

end Runs

/-- One slot, which completes as it is started: the unit that starts it is still running when the
slot is bound anew, to a unit that does not start it. The pin outlasts the end of the first. -/
theorem pins_track_execution_single :
    let (past, last) := (Moment.initial (.single ⟨.immediate, .ok, none⟩)).operations 60
      [.submit "u" [.submit "v" [], .start]]
    Throughout Moment.Orderly past ∧ (last.state.slot ⟨"A", 0⟩).pinned = true
      ∧ ∃ frames since, BoundLast past ⟨"A", 0⟩ frames since
        ∧ Succeeded ⟨"A", 0⟩ frames since ∧ Uncompleted ⟨"A", 0⟩ since := by
  have run := Run.operations 60 (.initial (.single ⟨.immediate, .ok, none⟩))
    [.submit "u" [.submit "v" [], .start]]
  generalize played : Moment.operations 60 _ _ = outcome at run
  have orderly : Throughout Moment.Orderly outcome.1 := by
    subst played
    exact throughout_of_passes (fun _ _ => Moment.orderly_of_isOrderly) (by decide +kernel)
  have atRest : outcome.2.AtRest := by
    subst played
    exact ⟨_, rfl⟩
  have pinned : (outcome.2.state.slot ⟨"A", 0⟩).pinned = true := by
    subst played
    decide +kernel
  have track := pins_track_execution (State.construct_single _) run orderly
  exact ⟨orderly, pinned, (track.tracks atRest _).mp pinned⟩

end SlotDispatch
