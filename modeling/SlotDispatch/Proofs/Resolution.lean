import SlotDispatch.Proofs.Attribution
import SlotDispatch.Proofs.Parting

/-!
How a request that executes is resolved once no unit of work is bound any more. Its outcome stays
open until the completion of its slot comes in. If the execution failed, that settles it; else
the last hook runs, and what the hook ends with settles it (`ownResult`). `Moment.Resolving` is
what holds of a request on the way there, and every step after a shutdown keeps it
(`Moment.Resolving.step`).
-/

namespace SlotDispatch

/-! ### How hooks end -/

/-- The failure with which a script ends that neither starts a slot nor panics, if it fails. -/
def scriptFailure? : Script → Option BackendError
  | [] => none
  | .fail error :: _ => some error
  | _ :: rest => scriptFailure? rest

/-- The failure that a control is about to hand back, if none of the code that it calls fails. -/
def Control.failure? : Control → Option BackendError
  | .call (.act (some _) (.fail error)) => some error
  | .call (.script _ rest) => scriptFailure? rest
  | .signal (.failed error) => some error
  | _ => none

/-- The failure that a frame hands on, given the one that it is handed. -/
def Frame.handsOn (above : Option BackendError) : Frame → Option BackendError
  | .script _ _ rest => above.or (scriptFailure? rest)
  | .answer _ => above
  | _ => none

/-- The failure that comes out below some frames. -/
def failureBelow (control : Control) (frames : List Frame) : Option BackendError :=
  frames.foldl Frame.handsOn control.failure?

/-- What a last hook comes to that finds a value in its slot: the value, unless the hook fails. -/
def hookEnd (value : String) (complete : Script) : Except BackendError String :=
  match scriptFailure? complete with
  | some error => .error error
  | none => .ok value

/-- What the execution of request `n` on a slot comes to that ends with a status: it fails, or
else its last hook settles the request. -/
def ownResult (n : Nat) (slot : SlotId) (value : String) (complete : Script) (status : Status) :
    Outcome :=
  if status.isOk then collectedOutcome n slot (hookEnd value complete)
  else .error (.backend slot.device (.ofStatus status))

/-! ### What the steps after a shutdown do -/

/-- A moment after a shutdown at which nothing is under way but completions, and hooks that do
not use the dispatcher. -/
def Moment.Winding (m : Moment) : Prop := ∃ d : Moment, d.Mirrors m

section Steps

variable {s t : State} {frames : List Frame} {n : Nat}

/-- What an action can come to that does not use the dispatcher. -/
theorem State.act_of_isDetached (s : State) (scope : Option Scope) {action : Action}
    (detached : action.isDetached = true) :
    ((Control.call (.act scope action)).failure? = none
        ∧ ((∃ t answer, s.act scope action = .answer t answer ∧ t.outcome? = s.outcome?)
          ∨ (∃ slot status, s.act scope action = .call s (.complete slot status))
          ∨ ∃ slot status, s.act scope action
            = .await s (.complete slot status) (.answer (.finished slot))))
      ∨ ∃ error, (Control.call (.act scope action)).failure? = some error
        ∧ s.act scope action = .signal s (.failed error) := by
  have kept {t : State} (changed : ∃ pending, t = { s with pending }) :
      t.outcome? = s.outcome? := by
    obtain ⟨pending, rfl⟩ := changed
    rfl
  have beside {t : State} (beside : s.Beside t) : t.outcome? = s.outcome? :=
    funext beside.alike.outcome?
  by_cases fails : ∃ error, action = .fail error
  · obtain ⟨error, rfl⟩ := fails
    cases scope with
    | none => exact .inl ⟨rfl, .inl ⟨s, _, rfl, rfl⟩⟩
    | some scope => exact .inr ⟨error, rfl, rfl⟩
  refine .inl ⟨?_, ?_⟩
  · cases scope with
    | none => rfl
    | some scope => cases action <;> first | rfl | exact absurd ⟨_, rfl⟩ fails
  cases action with
  | fail error => exact absurd ⟨error, rfl⟩ fails
  | slot => cases scope <;> exact .inl ⟨s, _, rfl, rfl⟩
  | complete slot status =>
      simp only [act, completeSlot]
      repeat' split
      · exact .inl ⟨s, _, rfl, rfl⟩
      · exact .inr (.inl ⟨_, _, rfl⟩)
      · exact .inl ⟨s, _, rfl, rfl⟩
  | finish position status =>
      simp only [act, finish]
      split
      · exact .inl ⟨s, _, rfl, rfl⟩
      · exact .inr (.inr ⟨_, _, rfl⟩)
  | conduct name conduct =>
      obtain ⟨devices, -, eq⟩ := s.setConduct_eq name conduct
      exact .inl ⟨_, _, rfl, by rw [eq]; rfl⟩
  | state | isCancelled id => exact .inl ⟨s, _, rfl, rfl⟩
  | tryOutcome id => exact .inl ⟨_, _, rfl, kept (s.tryOutcome_eq id)⟩
  | poll id => exact .inl ⟨_, _, rfl, kept (s.poll_eq id)⟩
  | wait id => exact .inl ⟨_, _, rfl, kept (s.wait_eq id)⟩
  | cancel id => exact .inl ⟨_, _, rfl, beside (s.beside_cancel id)⟩
  | cancelPending id => exact .inl ⟨_, _, rfl, beside (s.beside_cancelPending id)⟩
  | forget id => exact .inl ⟨_, _, rfl, rfl⟩
  | _ => cases detached

theorem failureBelow_append (control : Control) (upper frames : List Frame) :
    failureBelow control (upper ++ frames)
      = frames.foldl Frame.handsOn (failureBelow control upper) :=
  List.foldl_append

/-- A call comes to the failure that it is about to come to. -/
theorem Call.failureBelow_step {control : Control} {call : Call}
    (mirrors : control.Mirrors (.call call)) (detached : s.Detached) :
    failureBelow (call.step s).control (call.step s).frames = (Control.call call).failure? := by
  cases mirrors with
  | act scope action detached =>
      rcases s.act_of_isDetached scope detached with
        ⟨none, ⟨t, answer, eq, -⟩ | ⟨slot, status, eq⟩ | ⟨slot, status, eq⟩⟩ | ⟨error, fails, eq⟩
      · rw [none, step, eq]
        rfl
      · rw [none, step, eq]
        rfl
      · rw [none, step, eq]
        rfl
      · rw [fails, step, eq]
        rfl
  | script scope rest detached =>
      cases rest with
      | nil => rfl
      | cons action rest => cases action <;> rfl
  | complete slot status =>
      simp only [step, State.complete]
      split <;> rfl
  | notify slot status =>
      simp only [step, State.notify]
      split <;> rfl
  | followUp slot status =>
      rw [step]
      cases left : (s.slot slot).continuation with
      | none =>
          rw [State.followUp, left]
          rfl
      | some continuation =>
          have detached := detached.slot left
          cases continuation with
          | scripted id script => cases detached
          | request id number complete =>
              rw [State.followUp_request left]
              split <;> rfl

/-- So does a frame that is handed a signal. -/
theorem Frame.failureBelow_resume {control : Control} {signal : Signal} {frame other : Frame}
    (mirrors : control.Mirrors (.signal signal)) (waits : other.Mirrors frame)
    (ended : s.serving = false) :
    failureBelow (frame.resume s signal).control (frame.resume s signal).frames
      = frame.handsOn (Control.signal signal).failure? := by
  cases waits with
  | parting slot held =>
      cases mirrors <;>
        simp only [resume, ended, Bool.false_eq_true, if_false] <;> rfl
  | _ => cases mirrors <;> rfl

/-- No slot starts. -/
theorem Moment.Winding.running {m after : Moment} {slot : SlotId} (winding : m.Winding)
    (step : m.Step after) (running : (after.state.slot slot).running = true) :
    (m.state.slot slot).running = true := by
  obtain ⟨d, mirrors⟩ := winding
  rcases step.runs running with starts | ⟨before, -⟩
  · have control := mirrors.control
    rw [starts] at control
    generalize d.thread.control = first at control
    cases control
  · exact before

/-- A request that is settled and let go of has the outcome it had, or the one that is reported. -/
theorem State.outcome?_settle_release (s : State) (number : Nat) (outcome : Outcome)
    (holder : Holder) (n : Nat) :
    ((s.settle number outcome).release number holder).outcome? n = s.outcome? n
      ∨ ((s.settle number outcome).release number holder).outcome? n = some outcome := by
  simp only [State.outcome?, release, settle, requests_modifyRequest]
  by_cases same : number = n
  · cases found : s.requests[n]? with
    | none => simp [same]
    | some request =>
        simp only [same, if_true, Option.map_some]
        cases settled : request.outcome with
        | none =>
            right
            exact Request.outcome_release_of_some holder
              (Request.outcome_settle_of_none outcome settled)
        | some old =>
            left
            exact Request.outcome_release_of_some holder
              (Request.outcome_settle_of_some outcome settled)
  · simp [same]

/-- No request is abandoned. -/
theorem Moment.Winding.unabandoned {m after : Moment} (winding : m.Winding) (step : m.Step after)
    (there : after.state.phase ≠ .dropped)
    (before : m.state.outcome? n ≠ some (.error .abandoned)) :
    after.state.outcome? n ≠ some (.error .abandoned) := by
  obtain ⟨d, mirrors⟩ := winding
  have control := mirrors.control
  have settles {t : State} {number : Nat} {outcome : Outcome}
      (same : t.outcome? n = m.state.outcome? n)
      (other : outcome ≠ .error .abandoned) :
      ((t.settle number outcome).release number .continuation).outcome? n
        ≠ some (.error .abandoned) := by
    rcases t.outcome?_settle_release number outcome .continuation n with eq | eq
    · rw [eq, same]
      exact before
    · rw [eq]
      simpa using other
  cases step with
  | call s call frames =>
      generalize d.thread.control = first at control
      cases control with
      | act scope action detached =>
          rcases s.act_of_isDetached scope detached with
            ⟨-, ⟨t, answer, eq, same⟩ | ⟨slot, status, eq⟩ | ⟨slot, status, eq⟩⟩ | ⟨error, -, eq⟩
          · simp only [Move.onto, Call.step, eq, Move.answer, Move.signal, same]
            exact before
          · simp only [Move.onto, Call.step, eq]
            exact before
          · simp only [Move.onto, Call.step, eq]
            exact before
          · simp only [Move.onto, Call.step, eq]
            exact before
      | script scope rest detached => cases rest <;> exact before
      | complete slot status =>
          simp only [Move.onto, Call.step, State.complete]
          split <;> exact before
      | notify slot status => exact before
      | followUp slot status =>
          simp only [Move.onto, Call.step]
          cases left : (s.slot slot).continuation with
          | none =>
              rw [State.followUp, left]
              exact before
          | some continuation =>
              have detached := mirrors.detached.slot left
              cases continuation with
              | scripted id script => cases detached
              | request id number complete =>
                  rw [State.followUp_request left]
                  split
                  · exact before
                  · exact settles (t := s.relieved slot) rfl (by simp)
  | resume s signal frame frames =>
      obtain ⟨other, ahead, waits, -, -⟩ := List.forall₂_cons_right_iff.mp mirrors.frames
      have phase : s.phase = .shutDown := mirrors.ended
      have ended : s.serving = false := by simp [State.serving, phase]
      generalize d.thread.control = first at control
      cases waits with
      | script scope action rest detached => cases control <;> exact before
      | answer given => cases control <;> exact before
      | collecting slot number =>
          cases control with
          | returned answer handed =>
              refine settles (t := s) rfl ?_
              simp only [State.collected]
              split <;> simp
          | failed error => exact settles (t := s) rfl (by simp)
      | parting slot held =>
          cases control <;>
            simp only [Move.onto, Frame.resume, ended, Bool.false_eq_true, if_false] <;>
              exact before
  | begin s signal action => exact before
  | deliver signal earlier later due => exact before
  | drop s signal => exact absurd s.phase_drop there

/-- All that happens to a request is that its continuation is taken, or that its last hook ends. -/
theorem Moment.Winding.happens {m : Moment} (winding : m.Winding) {happening : Happening}
    (mem : happening ∈ m.happens n) :
    (∃ slot status, m.thread.control = .call (.followUp slot status) ∧ slot ∈ m.state.keptBy n
        ∧ happening = .taken status)
      ∨ ∃ signal slot below, m.thread = ⟨.signal signal, .collecting slot n :: below⟩
        ∧ happening = .collected (m.state.hookResult slot signal) := by
  obtain ⟨d, mirrors⟩ := winding
  have control := mirrors.control
  have frames := mirrors.frames
  generalize d.thread.control = first at control
  generalize d.thread.frames = ahead at frames
  obtain ⟨s, thread⟩ := m
  simp only [Moment.happens] at mem
  split at mem
  case h_1 => cases control
  case h_2 slot status below =>
    split at mem
    · next kept => exact .inl ⟨slot, status, rfl, kept, List.mem_singleton.mp mem⟩
    · cases mem
  case h_6 signal slot number below =>
    split at mem
    · next same =>
        subst same
        exact .inr ⟨signal, slot, below, rfl, List.mem_singleton.mp mem⟩
    · cases mem
  case h_7 => cases mem
  all_goals
    obtain ⟨other, rest, waits, -⟩ := List.forall₂_cons_right_iff.mp frames
    cases waits

/-- Nothing is left on a slot. -/
theorem Moment.Winding.registers {m : Moment} (winding : m.Winding) : m.registers? = none := by
  obtain ⟨d, mirrors⟩ := winding
  have control := mirrors.control
  have frames := mirrors.frames
  generalize d.thread.control = first at control
  generalize d.thread.frames = ahead at frames
  obtain ⟨s, thread⟩ := m
  simp only [Moment.registers?]
  split
  · cases control with
    | act _ _ detached => cases detached
  · obtain ⟨other, rest, waits, -⟩ := List.forall₂_cons_right_iff.mp frames
    cases waits
  · rfl

/-- A completion is told of right after it came in, and its continuation is run right after. -/
theorem Moment.Step.heard {m after : Moment} {slot : SlotId} {status : Status} (step : m.Step after)
    (tells : after.thread.control = .call (.notify slot status)
      ∨ after.thread.control = .call (.followUp slot status)) :
    m.thread.control = .call (.complete slot status)
      ∨ m.thread.control = .call (.notify slot status) := by
  cases step with
  | call s call frames =>
      have flows := call.flows s
      simp only [Move.onto] at tells
      generalize Call.step s call = move at flows tells
      cases flows with
      | notify own status t =>
          rcases tells with same | same
          · cases same
            exact .inl rfl
          · cases same
      | completing own status t =>
          rcases tells with same | same
          · cases same
          · cases same
            exact .inr rfl
      | parting own status held t =>
          rcases tells with same | same
          · cases same
          · cases same
            exact .inr rfl
      | _ => rcases tells with same | same <;> cases same
  | resume s signal frame frames =>
      have flows := frame.flows s signal
      simp only [Move.onto] at tells
      generalize frame.resume s signal = move at flows tells
      cases flows <;> rcases tells with same | same <;> cases same
  | begin s signal action => rcases tells with same | same <;> cases same
  | deliver signal earlier later due => rcases tells with same | same <;> cases same
  | drop s signal => rcases tells with same | same <;> cases same

end Steps

/-! ### A request on its way -/

/-- A completion of the slot has come in with the status. -/
def CameIn (path : List Moment) (slot : SlotId) (status : Status) : Prop :=
  ∃ m ∈ path, m.thread.control = .call (.complete slot status)

/-- The completion of the slot is being handled on behalf of request `n`. -/
def Moment.Handles (n : Nat) (slot : SlotId) (m : Moment) : Prop :=
  (∃ status, m.thread.control = .call (.notify slot status)
      ∨ m.thread.control = .call (.followUp slot status))
    ∨ .collecting slot n ∈ m.thread.frames

/-- What holds of a request that was executing on a slot when the dispatcher was shut down, after
the moments `path`: its start was all that had happened to it, it is settled by the completion of
the slot, or by the hook that runs then, and the slot does not execute any more. -/
structure Moment.Resolving (n : Nat) (slot : SlotId) (value : String) (complete : Script)
    (path : List Moment) (m : Moment) : Prop where
  file : Consistent n (startedOn slot (history n path)) (m.file n)
  happened : ∀ happening ∈ history n path,
    (∃ status, happening = .taken status ∧ CameIn path slot status)
      ∨ happening = .collected (some (hookEnd value complete))
  /-- A completion is told of once it has come in. -/
  heard : ∀ own status, m.thread.control = .call (.notify own status)
    ∨ m.thread.control = .call (.followUp own status) → CameIn path own status
  still : ∀ status, CameIn path slot status → (m.state.slot slot).running = false
  follows : ∀ status, CameIn path slot status → .taken status ∈ history n path
    ∨ history n path = [] ∧ (m.thread.control = .call (.notify slot status)
      ∨ m.thread.control = .call (.followUp slot status))
  /-- The hook that runs is the one that the request has left. -/
  hook : ∀ upper own below, m.thread.frames = upper ++ .collecting own n :: below →
    failureBelow m.thread.control upper = scriptFailure? complete
  left : ∀ own id script, (m.state.slot own).continuation = some (.request id n script) →
    script = complete
  unabandoned : m.state.outcome? n ≠ some (.error .abandoned)

/-- What stands in one of two lists that are related member by member is related to what stands
in the other. -/
theorem exists_of_mem_forall₂ {α β : Type} {related : α → β → Prop} {ones : List α}
    {others : List β}
    (pairs : List.Forall₂ related ones others) {other : β} (mem : other ∈ others) :
    ∃ one ∈ ones, related one other := by
  induction pairs with
  | nil => cases mem
  | cons first rest ih =>
      rcases List.mem_cons.mp mem with rfl | mem
      · exact ⟨_, List.mem_cons_self, first⟩
      · obtain ⟨one, there, same⟩ := ih mem
        exact ⟨one, List.mem_cons_of_mem _ there, same⟩

section Requests

variable {n : Nat} {slot : SlotId} {value : String} {complete : Script} {path : List Moment}
  {m after : Moment} {status other : Status}

theorem CameIn.append (came : CameIn path slot status) (later : List Moment) :
    CameIn (path ++ later) slot status := by
  obtain ⟨m, mem, completes⟩ := came
  exact ⟨m, List.mem_append_left _ mem, completes⟩

theorem cameIn_append_singleton :
    CameIn (path ++ [m]) slot status
      ↔ CameIn path slot status ∨ m.thread.control = .call (.complete slot status) := by
  simp only [CameIn, List.mem_append, List.mem_singleton]
  constructor
  · rintro ⟨e, mem | rfl, completes⟩
    · exact .inl ⟨e, mem, completes⟩
    · exact .inr completes
  · rintro (⟨e, mem, completes⟩ | completes)
    · exact ⟨e, .inl mem, completes⟩
    · exact ⟨m, .inr rfl, completes⟩

/-- How far a request can have come that executed on a slot and is not abandoned. -/
inductive Resolves (n : Nat) (slot : SlotId) : List Happening → File → Prop where
  /-- Its continuation is still left on the slot. -/
  | waits {file : File} : file.kept = [slot] → file.request.bind Request.outcome = none →
      Resolves n slot [] file
  /-- Its last hook runs. -/
  | collects (status : Status) {file : File} : status.isOk = true →
      .collecting slot n ∈ file.traces → file.kept = [] →
      file.request.bind Request.outcome = none → Resolves n slot [.taken status] file
  | failed (status : Status) {file : File} : status.isOk = false → file.kept = [] →
      file.request.bind Request.outcome
        = some (.error (.backend slot.device (.ofStatus status))) →
      Resolves n slot [.taken status] file
  | ended (status : Status) (result : Except BackendError String) {file : File} :
      status.isOk = true → file.kept = [] →
      file.request.bind Request.outcome = some (collectedOutcome n slot result) →
      Resolves n slot [.taken status, .collected (some result)] file

theorem Consistent.resolves {happened : List Happening} {file : File}
    (holds : Consistent n (startedOn slot happened) file)
    (traces : ∀ frame ∈ file.traces, ∃ own, frame = .collecting own n)
    (kinds : ∀ happening ∈ happened,
      (∃ status, happening = .taken status) ∨ ∃ result, happening = .collected (some result))
    (unabandoned : file.request.bind Request.outcome ≠ some (.error .abandoned)) :
    Resolves n slot happened file := by
  have noStart (own : SlotId) (mem : .starting own n ∈ file.traces) : False := by
    obtain ⟨other, same⟩ := traces _ mem
    cases same
  have noRefusal {error : BackendError} (mem : .refused error ∈ happened) : False := by
    rcases kinds _ mem with ⟨status, same⟩ | ⟨result, same⟩ <;> cases same
  -- Without a refusal nothing but the end of the continuation has happened.
  have closes {own : SlotId} {request : Request} {ending : List Happening} (ends : Ending ending)
      (same : startedOn own ending = startedOn slot happened)
      (settled : request.outcome
        = (Stage.reached n (startedOn own ending)).outcome false)
      (here : file = ⟨0, [], [], some request⟩) : Resolves n slot happened file := by
    obtain ⟨rfl, rfl⟩ : own = slot ∧ ending = happened := by simpa using same
    subst here
    cases ends with
    | none => exact absurd settled unabandoned
    | taken status =>
        cases succeeds : status.isOk with
        | true =>
            rw [Stage.reached] at settled
            simp only [List.foldl, Stage.react, succeeds, if_true, Stage.outcome] at settled
            exact absurd settled unabandoned
        | false =>
            refine .failed status succeeds rfl (settled.trans ?_)
            simp [Stage.reached, Stage.react, succeeds, Stage.outcome]
    | collected status result succeeds =>
        cases result with
        | none => rcases kinds (.collected none) (by simp) with ⟨_, same⟩ | ⟨_, same⟩ <;> cases same
        | some result =>
            refine .ended status result succeeds rfl (settled.trans ?_)
            simp [Stage.reached, Stage.react, succeeds, Stage.outcome]
  generalize whole : startedOn slot happened = history at holds
  cases holds with
  | unmade | queued | preparing => simp at whole
  | starting own => exact (noStart own (by simp)).elim
  | bereft own => exact (noStart own (by simp)).elim
  | outrun own => exact (noStart own (by simp)).elim
  | collectingWithin own => exact (noStart own (by simp)).elim
  | granted own cancelled =>
      obtain ⟨rfl, rfl⟩ : slot = own ∧ happened = [] := by simpa using whole
      exact .waits rfl rfl
  | collecting own status cancelled succeeds =>
      obtain ⟨rfl, rfl⟩ : slot = own ∧ happened = [.taken status] := by simpa using whole
      exact .collects status succeeds List.mem_cons_self rfl rfl
  | left own error =>
      obtain ⟨rfl, rfl⟩ : slot = own ∧ happened = [.refused error] := by simpa using whole
      exact (noRefusal List.mem_cons_self).elim
  | collectingLate own error status =>
      obtain ⟨rfl, rfl⟩ : slot = own ∧ happened = [.refused error, .taken status] := by
        simpa using whole
      exact (noRefusal List.mem_cons_self).elim
  | closed told settled =>
      cases told with
      | nothing | cancelled | begun | unprepared => simp at whole
      | ended own refusal ends =>
          cases refusal with
          | none =>
              rw [List.append_nil] at whole settled
              exact closes ends whole.symm settled rfl
          | refused error =>
              obtain ⟨-, rfl⟩ : slot = own ∧ happened = _ := by simpa using whole
              exact (noRefusal (List.mem_append_right _ List.mem_cons_self)).elim
      | refused own refusal ends =>
          cases refusal with
          | none => exact closes ends whole.symm settled rfl
          | refused error =>
              obtain ⟨-, rfl⟩ : slot = own ∧ happened = _ := by simpa using whole
              exact (noRefusal List.mem_cons_self).elim

theorem Moment.outcome?_eq_file (m : Moment) (n : Nat) :
    m.state.outcome? n = (m.file n).request.bind Request.outcome := by
  simp only [State.outcome?, Moment.file, State.file]
  cases m.state.requests[n]? <;> rfl

/-- Only last hooks wait on behalf of requests. -/
theorem Moment.Winding.traces (winding : m.Winding) :
    ∀ frame ∈ (m.file n).traces, ∃ own, frame = .collecting own n := by
  obtain ⟨d, mirrors⟩ := winding
  intro frame mem
  obtain ⟨mem, own⟩ := List.mem_filter.mp mem
  obtain ⟨other, -, waits⟩ := exists_of_mem_forall₂ mirrors.frames mem
  cases waits with
  | collecting slot number =>
      obtain rfl : number = n := by simpa [Frame.ofRequest] using own
      exact ⟨slot, rfl⟩
  | _ => cases own

theorem Moment.Resolving.resolves (resolving : m.Resolving n slot value complete path)
    (winding : m.Winding) : Resolves n slot (history n path) (m.file n) := by
  refine resolving.file.resolves winding.traces (fun happening mem => ?_) ?_
  · rcases resolving.happened happening mem with ⟨status, same, -⟩ | same
    · exact .inl ⟨status, same⟩
    · exact .inr ⟨_, same⟩
  · rw [← m.outcome?_eq_file]
    exact resolving.unabandoned

/-- Where a request stands after the moments `path` that executed on a slot: its outcome is open
until the completion of the slot comes in, and while that is handled, and is settled then. -/
structure Moment.Stands (n : Nat) (slot : SlotId) (result : Status → Outcome) (path : List Moment)
    (m : Moment) : Prop where
  before : (∀ status, ¬ CameIn path slot status) → m.state.outcome? n = none
  after : ∀ status, CameIn path slot status → m.state.outcome? n = some (result status)
    ∨ m.state.outcome? n = none ∧ m.Handles n slot

theorem Moment.Resolving.stands (resolving : m.Resolving n slot value complete path)
    (winding : m.Winding) : m.Stands n slot (ownResult n slot value complete) path := by
  have happened := resolving.happened
  have resolves := resolving.resolves winding
  -- A status with which the completion came in is the one that the history tells.
  have told {status other : Status} {rest : List Happening}
      (history : history n path = .taken status :: rest)
      (others : ∀ happening ∈ rest, happening ≠ .taken other) (came : CameIn path slot other) :
      other = status := by
    rcases resolving.follows other came with taken | ⟨none, -⟩
    · rw [history] at taken
      rcases List.mem_cons.mp taken with same | mem
      · cases same
        rfl
      · exact absurd rfl (others _ mem)
    · rw [history] at none
      cases none
  have came {status : Status} (taken : .taken status ∈ history n path) :
      CameIn path slot status := by
    rcases happened _ taken with ⟨_, same, came⟩ | same
    · cases same
      exact came
    · cases same
  generalize same : history n path = happenings at resolves
  cases resolves with
  | waits kept unsettled =>
      rw [← m.outcome?_eq_file] at unsettled
      refine ⟨fun _ => unsettled, fun status came => .inr ⟨unsettled, .inl ⟨status, ?_⟩⟩⟩
      rcases resolving.follows status came with taken | ⟨-, tells⟩
      · rw [same] at taken
        cases taken
      · exact tells
  | collects status succeeds waits kept unsettled =>
      rw [← m.outcome?_eq_file] at unsettled
      exact ⟨fun _ => unsettled, fun _ _ =>
        .inr ⟨unsettled, .inr (List.mem_filter.mp waits).1⟩⟩
  | failed status fails kept settled =>
      rw [← m.outcome?_eq_file] at settled
      refine ⟨fun never => absurd (came (same ▸ List.mem_cons_self)) (never status), ?_⟩
      intro other arrives
      obtain rfl := told same nofun arrives
      exact .inl (settled.trans (by simp [ownResult, fails]))
  | ended status result succeeds kept settled =>
      rw [← m.outcome?_eq_file] at settled
      refine ⟨fun never => absurd (came (same ▸ List.mem_cons_self)) (never status), ?_⟩
      intro other arrives
      obtain rfl := told same (by simp) arrives
      obtain rfl : result = hookEnd value complete := by
        rcases happened (.collected (some result)) (by simp [same]) with ⟨_, other, -⟩ | ends
        · cases other
        · simpa using ends
      exact .inl (settled.trans (by simp [ownResult, succeeds]))

/-! ### Every step keeps it -/

/-- The frame that waits for a last hook is put there right above the hook's own script. -/
theorem Call.collects_of_mem {s : State} {call : Call} {own : SlotId}
    (mem : .collecting own n ∈ (call.step s).frames) :
    ∃ id script, (s.slot own).continuation = some (.request id n script)
      ∧ (call.step s).frames = [.collecting own n]
      ∧ (call.step s).control = .call (.script ⟨id, own⟩ script) := by
  have follows : ∃ slot status, call = .followUp slot status := by
    have flows := call.flows s
    generalize call.step s = move at flows mem
    cases flows with
    | collects slot status => exact ⟨slot, status, rfl⟩
    | _ => simp [Move.await, Move.call, Move.signal] at mem
  obtain ⟨slot, status, rfl⟩ := follows
  rw [step] at mem ⊢
  cases left : (s.slot slot).continuation with
  | none =>
      rw [State.followUp, left] at mem
      cases mem
  | some continuation =>
      cases continuation with
      | scripted id script =>
          rw [State.followUp, left] at mem
          cases mem
      | request id number script =>
          rw [State.followUp_request left] at mem ⊢
          split at mem
          · next succeeds =>
              obtain ⟨rfl, rfl⟩ : own = slot ∧ n = number := by simpa [Move.await] using mem
              rw [if_pos succeeds]
              exact ⟨id, script, left, rfl, rfl⟩
          · cases mem

theorem Frame.Flows.not_collecting {frame : Frame} {move : Move} (flows : frame.Flows move)
    (own : SlotId) : .collecting own n ∉ move.frames := by
  cases flows <;> simp [Move.await, Move.call, Move.signal]

/-- What comes out of the hook stays what it was. -/
theorem Moment.Resolving.hook_step (resolving : m.Resolving n slot value complete path)
    (winding : m.Winding) (step : m.Step after) (there : after.state.phase ≠ .dropped) :
    ∀ upper own below, after.thread.frames = upper ++ .collecting own n :: below →
      failureBelow after.thread.control upper = scriptFailure? complete := by
  intro upper own below shape
  -- The frame was there before, or has just been put there.
  have split {added frames : List Frame}
      (shape : added ++ frames = upper ++ .collecting own n :: below) :
      (∃ rest, upper = added ++ rest ∧ frames = rest ++ .collecting own n :: below)
        ∨ ∃ rest, added = upper ++ .collecting own n :: rest := by
    rcases List.append_eq_append_iff.mp shape with ⟨rest, rfl, same⟩ | ⟨rest, rfl, same⟩
    · exact .inl ⟨rest, rfl, same⟩
    · cases rest with
      | nil => exact .inl ⟨[], by simp, by simpa using same.symm⟩
      | cons first rest =>
          obtain ⟨rfl, -⟩ := List.cons.inj same
          exact .inr ⟨rest, rfl⟩
  obtain ⟨d, mirrors⟩ := winding
  have control := mirrors.control
  cases step with
  | call s call frames =>
      rcases split shape with ⟨rest, rfl, rfl⟩ | ⟨rest, fresh⟩
      · rw [failureBelow_append]
        simp only [Move.onto]
        rw [Call.failureBelow_step control mirrors.detached]
        exact resolving.hook rest own below rfl
      · have mem : .collecting own n ∈ (call.step s).frames := by
          rw [fresh]
          exact List.mem_append_right _ List.mem_cons_self
        obtain ⟨id, script, left, added, next⟩ := Call.collects_of_mem mem
        rw [added] at fresh
        obtain rfl : upper = [] := by
          cases upper with
          | nil => rfl
          | cons first upper => simp at fresh
        simp only [Move.onto, next]
        exact congrArg scriptFailure? (resolving.left own id script left)
  | resume s signal frame frames =>
      have ended : s.serving = false := by
        have phase : s.phase = .shutDown := mirrors.ended
        simp [State.serving, phase]
      obtain ⟨other, ahead, waits, -, -⟩ := List.forall₂_cons_right_iff.mp mirrors.frames
      rcases split shape with ⟨rest, rfl, rfl⟩ | ⟨rest, fresh⟩
      · rw [failureBelow_append]
        simp only [Move.onto]
        rw [Frame.failureBelow_resume control waits ended]
        exact resolving.hook (frame :: rest) own below rfl
      · refine absurd ?_ ((frame.flows s signal).not_collecting (n := n) own)
        rw [fresh]
        exact List.mem_append_right _ List.mem_cons_self
  | begin s signal action => simp [Thread.ofCall] at shape
  | deliver signal earlier later due => simp [Thread.ofCall] at shape
  | drop s signal => exact absurd s.phase_drop there

/-- A slot whose completion comes in does not execute any more. -/
theorem Moment.Step.stopped (step : m.Step after)
    (completes : m.thread.control = .call (.complete slot status))
    (running : (m.state.slot slot).running = true) :
    (after.state.slot slot).running = false := by
  cases step with
  | call s call frames =>
      obtain rfl : call = .complete slot status := Control.call.inj completes
      have stops : ((s.modifySlot slot fun slot =>
          { slot with output := slot.input, running := false }).slot slot).running = false := by
        rw [State.slot_modifySlot_self (State.hasSlot_of_running running) (by intro; rfl)]
      simp only [Move.onto, Call.step, State.complete]
      split <;> exact stops
  | _ => cases completes

/-- What the completion of a slot is told of at a moment, and then run, was next before. -/
theorem Moment.Step.goes_on (step : m.Step after) (attached : m.state.Attached) :
    (∀ slot status, m.thread.control = .call (.complete slot status) →
        after.thread.control = .call (.notify slot status))
      ∧ ∀ slot status, m.thread.control = .call (.notify slot status) →
        after.thread.control = .call (.followUp slot status) := by
  cases step with
  | call s call frames =>
      refine ⟨?_, ?_⟩
      · rintro slot status same
        obtain rfl : call = .complete slot status := Control.call.inj same
        have reaches : ((s.modifySlot slot fun slot =>
            { slot with output := slot.input, running := false }).slot slot).attached = true :=
          State.Attached.slot (State.Attached.modifySlot attached slot (by intro; rfl)) slot
        simp only [Move.onto, Call.step, State.complete, reaches, if_true, Move.call]
      · rintro slot status same
        obtain rfl : call = .notify slot status := Control.call.inj same
        rfl
  | resume s signal frame frames => exact ⟨by rintro _ _ ⟨⟩, by rintro _ _ ⟨⟩⟩
  | begin s signal action => exact ⟨by rintro _ _ ⟨⟩, by rintro _ _ ⟨⟩⟩
  | deliver signal earlier later due => exact ⟨by rintro _ _ ⟨⟩, by rintro _ _ ⟨⟩⟩
  | drop s signal => exact ⟨by rintro _ _ ⟨⟩, by rintro _ _ ⟨⟩⟩

/-- What happens to the request is what its own slot and its own hook have come to. -/
theorem Moment.Resolving.happens (resolving : m.Resolving n slot value complete path)
    (winding : m.Winding) (bears : m.Bears n value) :
    ∀ happening ∈ m.happens n, (∃ status, happening = .taken status ∧ CameIn path slot status)
      ∨ happening = .collected (some (hookEnd value complete)) := by
  intro happening mem
  rcases winding.happens mem with
    ⟨own, status, follows, kept, rfl⟩ | ⟨signal, own, below, same, rfl⟩
  · have mine : own = slot := by
      have kept : own ∈ (m.file n).kept := kept
      have resolves := resolving.resolves winding
      generalize history n path = happenings at resolves
      cases resolves with
      | waits only =>
          rw [only] at kept
          exact List.mem_singleton.mp kept
      | collects _ _ _ none | failed _ _ none | ended _ _ _ none =>
          rw [none] at kept
          cases kept
    subst mine
    exact .inl ⟨status, rfl, resolving.heard own status (.inr follows)⟩
  · have ends := resolving.hook [] own below (congrArg Thread.frames same)
    have output : (m.state.slot own).output = some value :=
      bears.collected own (same ▸ List.mem_cons_self)
    obtain ⟨d, mirrors⟩ := winding
    have control := mirrors.control
    rw [same] at control ends
    generalize d.thread.control = first at control
    have ends : (Control.signal signal).failure? = scriptFailure? complete := ends
    cases control with
    | returned answer handed =>
        have none : scriptFailure? complete = none := ends.symm
        simp [State.hookResult, output, hookEnd, none]
    | failed error =>
        have fails : scriptFailure? complete = some error := ends.symm
        simp [State.hookResult, hookEnd, fails]

/-- Every step after a shutdown leaves a request on its way. -/
theorem Moment.Resolving.step (resolving : m.Resolving n slot value complete path)
    (winding : m.Winding) (step : m.Step after) (there : after.state.phase ≠ .dropped)
    (grounded : m.Grounded) (attached : m.state.Attached) (bears : m.Bears n value)
    (delivered : ∀ slot status, m.thread.control = .call (.complete slot status) →
      (m.state.slot slot).running = true) :
    after.Resolving n slot value complete (path ++ [m]) := by
  obtain ⟨tells, follows⟩ := step.goes_on attached
  have resolves := resolving.resolves winding
  refine ⟨?_, ?_, ?_, ?_, ?_, resolving.hook_step winding step there, ?_,
    winding.unabandoned step there resolving.unabandoned⟩
  · rw [history_append, history_singleton]
    exact step.consistent grounded resolving.file
  · intro happening mem
    rw [history_append, history_singleton] at mem
    rcases List.mem_append.mp mem with mem | mem
    · rcases resolving.happened happening mem with ⟨status, same, came⟩ | same
      · exact .inl ⟨status, same, came.append _⟩
      · exact .inr same
    · rcases resolving.happens winding bears happening mem with ⟨status, same, came⟩ | same
      · exact .inl ⟨status, same, came.append _⟩
      · exact .inr same
  · intro own status heard
    rcases step.heard heard with completes | notifies
    · exact cameIn_append_singleton.mpr (.inr completes)
    · exact (resolving.heard own status (.inl notifies)).append _
  · intro status came
    rcases cameIn_append_singleton.mp came with came | completes
    · have still := resolving.still status came
      cases runs : (after.state.slot slot).running with
      | false => rfl
      | true => rw [winding.running step runs] at still; cases still
    · exact step.stopped completes (delivered slot status completes)
  · intro status came
    rw [history_append, history_singleton]
    rcases cameIn_append_singleton.mp came with came | completes
    · rcases resolving.follows status came with taken | ⟨none, notifies | handles⟩
      · exact .inl (List.mem_append_left _ taken)
      · refine .inr ⟨?_, .inr (follows slot status notifies)⟩
        rw [none, List.nil_append]
        apply List.eq_nil_iff_forall_not_mem.mpr
        intro happening mem
        rcases winding.happens mem with ⟨own, other, same, -⟩ | ⟨signal, own, below, same, -⟩
        · rw [same] at notifies
          cases notifies
        · rw [same] at notifies
          cases notifies
      · rw [none] at resolves
        cases resolves with
        | waits kept =>
            refine .inl (List.mem_append_right _ ?_)
            have kept : m.state.keptBy n = [slot] := kept
            obtain ⟨s, control, frames⟩ := m
            obtain rfl : control = .call (.followUp slot status) := handles
            have kept : s.keptBy n = [slot] := kept
            simp [Moment.happens, kept]
    · -- A completion that comes in finds the slot executing, so none has come in before.
      have none : history n path = [] := by
        have running := delivered slot status completes
        have never (status : Status) (taken : .taken status ∈ history n path) : False := by
          rcases resolving.happened _ taken with ⟨_, same, came⟩ | same
          · cases same
            rw [resolving.still _ came] at running
            cases running
          · cases same
        generalize history n path = happenings at resolves never
        cases resolves with
        | waits => rfl
        | collects status | failed status | ended status =>
            exact (never status List.mem_cons_self).elim
      refine .inr ⟨?_, .inl (tells slot status completes)⟩
      rw [none, List.nil_append]
      apply List.eq_nil_iff_forall_not_mem.mpr
      intro happening mem
      rcases winding.happens mem with ⟨own, other, same, -⟩ | ⟨signal, own, below, same, -⟩
      · rw [same] at completes
        cases completes
      · rw [same] at completes
        cases completes
  · intro own id script left
    rcases step.left_cases own with same | none | registers
    · exact resolving.left own id script (same ▸ left)
    · rw [none] at left
      cases left
    · rw [winding.registers] at registers
      cases registers

end Requests

end SlotDispatch
