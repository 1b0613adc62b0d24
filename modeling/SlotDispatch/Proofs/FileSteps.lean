import SlotDispatch.Proofs.Happenings
import SlotDispatch.Proofs.Known

/-!
Every step keeps the file of a request and what has happened to it together
(`Moment.Step.consistent`). Actions make and cancel requests, a unit of work that begins and
a completion call their hooks, and the frames of a request settle it. A frame of another request
at most destroys what the request has left on a slot (`Frame.consistent_other`).
-/

namespace SlotDispatch

section Steps

variable {s : State} {n : Nat} {history : List Happening} {frames : List Frame}

/-! ### Actions -/

/-- A request that is made enters the file of its own number. -/
theorem requests_append (s : State) (request : Request) (n : Nat) :
    (s.requests ++ [request])[n]?
      = if s.requests.length = n then some request else s.requests[n]? := by
  by_cases new : s.requests.length = n
  · rw [if_pos new, ← new]
    simp
  · rw [if_neg new]
    by_cases known : n < s.requests.length
    · rw [List.getElem?_append_left known]
    · rw [List.getElem?_eq_none (by simp; omega), List.getElem?_eq_none (by omega)]

/-- An action makes, cancels and destroys requests, but none of their hooks ends with it. -/
theorem State.Acts.consistent {scope : Option Scope} {action : Action} {move : Move}
    (acts : s.Acts scope action move) (distinct : (s.slots.map Slot.id).Nodup)
    (holds : Consistent n history (Moment.file n ⟨s, ⟨.call (.act scope action), frames⟩⟩)) :
    Consistent n history ((move.onto frames).file n) := by
  have untraced : move.Untraced n := by
    apply acts.flows.untraced
    · rintro slot work ⟨⟩
    · rintro slot status ⟨⟩
  rw [Moment.file, untraced.traces_onto]
  have holds : Consistent n history (s.file n (s.queue.countP (Work.ofRequest n))
    (frames.filter (Frame.ofRequest n))) := holds
  cases acts with
  | answered devices pending answer => exact holds
  | cancelled number answer =>
      change Consistent n history ((s.modifyRequest number fun request =>
        { request with cancelled := true }).file n _ _)
      by_cases own : number = n
      · rw [own, file_modifyRequest]
        exact holds.cancel
      · rw [file_modifyRequest_of_ne own]
        exact holds
  | refused cancelled handles answer ended =>
      let made := { s with requests := s.requests ++ [Request.new cancelled], handles }
      change Consistent n history
        ((made.modifyRequest s.requests.length (Request.release .unit)).file n _ _)
      by_cases own : s.requests.length = n
      · have entry : made.requests[n]? = some (.new cancelled) := by
          rw [requests_append, if_pos own]
        rw [own, file_modifyRequest, entry]
        rw [file, List.getElem?_eq_none (Nat.le_of_eq own)] at holds
        exact holds.refused cancelled
      · have entry : made.requests[n]? = s.requests[n]? := by
          rw [requests_append, if_neg own]
        rw [file_modifyRequest_of_ne own, file, entry]
        exact holds
  | submitted id script =>
      have same : (s.queue ++ [Work.scripted id script]).countP (Work.ofRequest n)
          = s.queue.countP (Work.ofRequest n) := by
        rw [List.countP_append]
        rfl
      change Consistent n history (s.file n ((s.queue ++ [_]).countP (Work.ofRequest n)) _)
      rw [same]
      exact holds
  | requested id job cancelled handles frame serving unit waits =>
      change Consistent n history
        ⟨(s.queue ++ [Work.request id s.requests.length job]).countP (Work.ofRequest n), _,
          s.keptBy n, (s.requests ++ [Request.new cancelled])[n]?⟩
      rw [requests_append, List.countP_append]
      by_cases own : s.requests.length = n
      · rw [if_pos own]
        rw [file, List.getElem?_eq_none (Nat.le_of_eq own)] at holds
        have one : [Work.request id s.requests.length job].countP (Work.ofRequest n) = 1 := by
          simp [Work.ofRequest, own]
        rw [one]
        exact holds.made cancelled
      · rw [if_neg own]
        have none : [Work.request id s.requests.length job].countP (Work.ofRequest n) = 0 := by
          simp [Work.ofRequest, own]
        rw [none]
        exact holds
  | continued scope' id script =>
      have other : (Continuation.scripted id script).ofRequest n = false := rfl
      have queue := (undisturbed_setContinuation s scope'.slot (.scripted id script)).sameQueue
      change Consistent n history
        (file _ n ((s.setContinuation scope'.slot _).queue.countP (Work.ofRequest n)) _)
      rw [queue]
      exact consistent_setContinuation holds distinct scope'.slot other
  | shutDown => exact consistent_shutdown holds
  | started scope' => exact holds
  | tried scope' => exact holds
  | failed error => exact holds
  | panicked message => exact holds
  | completed slot status => exact holds
  | finished slot status => exact holds
  | reordered entries text => exact holds

/-! ### Where a request is found after a move -/

theorem Move.file_signal (t : State) (signal : Signal) (frames : List Frame) (n : Nat) :
    ((Move.signal t signal).onto frames).file n
      = t.file n (t.queue.countP (Work.ofRequest n)) (frames.filter (Frame.ofRequest n)) := rfl

theorem Move.file_call {call : Call} (passes : (Control.call call).inHand = []) (t : State)
    (frames : List Frame) (n : Nat) :
    ((Move.call t call).onto frames).file n
      = t.file n (t.queue.countP (Work.ofRequest n)) (frames.filter (Frame.ofRequest n)) := by
  simp only [Moment.file, Moment.waiting, Moment.inHand, Move.onto, Move.call, passes]
  rfl

theorem Move.file_await {call : Call} (passes : (Control.call call).inHand = []) (t : State)
    (frame : Frame) (frames : List Frame) (n : Nat) :
    ((Move.await t call frame).onto frames).file n
      = t.file n (t.queue.countP (Work.ofRequest n))
        ((frame :: frames).filter (Frame.ofRequest n)) := by
  simp only [Moment.file, Moment.waiting, Moment.inHand, Move.onto, Move.await, passes]
  rfl

/-! ### Units of work that begin -/

/-- The unit of work of a request ends at once if the request was cancelled, or if its job
cannot reach the slot. -/
theorem State.perform_cases (s : State) (slot : SlotId) (id : String) (number : Nat) (job : Job) :
    s.isCancelled number = true ∧ s.perform slot (.request id number job)
        = .signal ((s.settle number (.error .cancelled)).release number .unit) .declined
      ∨ s.isCancelled number = false ∧ ∃ t, s.SameFiles t ∧ t.queue = s.queue
        ∧ (s.reachable slot.device = true ∧ s.perform slot (.request id number job)
            = .await t (.script ⟨id, slot⟩ job.prepare) (.preparing slot id number job.complete)
          ∨ s.reachable slot.device = false ∧ s.perform slot (.request id number job)
            = .signal ((t.settle number (.error (.backend slot.device Backend.unreachable))).release
              number .unit) (.failed Backend.unreachable)) := by
  have entered : s.SameFiles (s.enter .prepare id slot) := .of_eq rfl rfl
  simp only [perform]
  split
  · next cancelled => exact .inl ⟨cancelled, rfl⟩
  · next wanted =>
      refine .inr ⟨by simpa using wanted, ?_⟩
      split
      · next reachable =>
          have loaded : (s.enter .prepare id slot).SameFiles
              ((s.enter .prepare id slot).modifySlot slot fun slot =>
                { slot with input := some job.value }) :=
            sameFiles_modifySlot _ slot fun _ => rfl
          exact ⟨_, entered.trans loaded, rfl, .inl ⟨reachable, rfl⟩⟩
      · next foreign => exact ⟨_, entered, rfl, .inr ⟨Bool.eq_false_iff.mpr foreign, rfl⟩⟩

/-- A unit of work that begins to run was the one that waited. -/
theorem Call.consistent_perform {slot : SlotId} {work : Work}
    (holds : Consistent n history (Moment.file n ⟨s, ⟨.call (.perform slot work), frames⟩⟩)) :
    Consistent n (history ++ Moment.happens n ⟨s, ⟨.call (.perform slot work), frames⟩⟩)
      (((Call.step s (.perform slot work)).onto frames).file n) := by
  have holds : Consistent n history (s.file n (s.queue.countP (Work.ofRequest n)
    + [work].countP (Work.ofRequest n)) (frames.filter (Frame.ofRequest n))) := holds
  rw [Call.step]
  cases work with
  | scripted id script =>
      rw [Moment.happens, List.append_nil]
      exact holds
  | request id number job =>
      by_cases own : number = n
      · subst own
        have one : [Work.request id number job].countP (Work.ofRequest number) = 1 := by
          simp [Work.ofRequest]
        have begins : Moment.happens number
            ⟨s, ⟨.call (.perform slot (.request id number job)), frames⟩⟩
            = s.beginning number slot := if_pos rfl
        rw [one] at holds
        rw [begins, State.beginning]
        rcases s.perform_cases slot id number job with
          ⟨cancelled, eq⟩ | ⟨wanted, t, same, queue, ⟨reachable, eq⟩ | ⟨foreign, eq⟩⟩
        · rw [eq, if_pos cancelled, Move.file_signal, State.file_settle_release]
          exact holds.begunCancelled slot
        · rw [eq, if_neg (by simp [wanted]), if_pos reachable, Move.file_await rfl,
            same.file, queue,
            List.filter_cons_of_pos (by simp [Frame.ofRequest])]
          exact holds.begunPreparing slot id job.complete
        · rw [← same.file, ← queue] at holds
          rw [eq, if_neg (by simp [wanted]), if_neg (by simp [foreign]), Move.file_signal,
            State.file_settle_release, List.append_cons]
          exact (holds.begunPreparing slot id job.complete).preparedFailed Backend.unreachable
      · have none : [Work.request id number job].countP (Work.ofRequest n) = 0 := by
          simp [Work.ofRequest, own]
        have begins : Moment.happens n ⟨s, ⟨.call (.perform slot (.request id number job)), frames⟩⟩
            = [] := if_neg own
        rw [none] at holds
        rw [begins, List.append_nil]
        rcases s.perform_cases slot id number job with
          ⟨cancelled, eq⟩ | ⟨wanted, t, same, queue, ⟨reachable, eq⟩ | ⟨foreign, eq⟩⟩
        · rw [eq, Move.file_signal, State.file_settle_release_of_ne own]
          exact holds
        · rw [eq, Move.file_await rfl, same.file, queue,
            List.filter_cons_of_neg (by simp [Frame.ofRequest, own])]
          exact holds
        · rw [← same.file, ← queue] at holds
          rw [eq, Move.file_signal, State.file_settle_release_of_ne own]
          exact holds

/-! ### Completions -/

/-- A slot whose continuation was taken off. -/
def State.relieved (s : State) (slot : SlotId) : State :=
  s.modifySlot slot fun slot => { slot with continuation := none }

theorem State.file_relieved (s : State) (slot : SlotId) (n waiting : Nat) (traces : List Frame) :
    (s.relieved slot).file n waiting traces
      = ⟨waiting, traces, (s.keptBy n).filter (· ≠ slot), s.requests[n]?⟩ := by
  rw [file, relieved, keptBy_modifySlot s slot fun _ => rfl]
  rfl

theorem State.followUp_request {slot : SlotId} {status : Status} {id : String} {number : Nat}
    {complete : Script} (left : (s.slot slot).continuation = some (.request id number complete)) :
    s.followUp slot status
      = if status.isOk then
          .await ((s.relieved slot).enter (.complete status) id slot)
            (.script ⟨id, slot⟩ complete) (.collecting slot number)
        else
          .done (((s.relieved slot).settle number
            (.error (.backend slot.device (.ofStatus status)))).release number .continuation) := by
  rw [followUp, left]
  rfl

/-- A completion takes the continuation that it finds on its slot. -/
theorem Call.consistent_followUp {slot : SlotId} {status : Status}
    (distinct : (s.slots.map Slot.id).Nodup)
    (holds : Consistent n history (Moment.file n ⟨s, ⟨.call (.followUp slot status), frames⟩⟩)) :
    Consistent n (history ++ Moment.happens n ⟨s, ⟨.call (.followUp slot status), frames⟩⟩)
      (((Call.step s (.followUp slot status)).onto frames).file n) := by
  have holds : Consistent n history (s.file n (s.queue.countP (Work.ofRequest n))
    (frames.filter (Frame.ofRequest n))) := holds
  have mem : slot ∈ s.keptBy n ↔ (s.slot slot).continuation.any (Continuation.ofRequest n) = true :=
    State.mem_keptBy distinct
  have foreign (other : (s.slot slot).continuation.any (Continuation.ofRequest n) = false) :
      Moment.happens n ⟨s, ⟨.call (.followUp slot status), frames⟩⟩ = []
        ∧ Consistent n history ((s.relieved slot).file n (s.queue.countP (Work.ofRequest n))
          (frames.filter (Frame.ofRequest n))) := by
    have absent : slot ∉ s.keptBy n := by
      rw [mem, other]
      simp
    refine ⟨if_neg absent, ?_⟩
    rw [State.file_relieved, Consistent.filter_ne_of_not_mem absent]
    exact holds
  rw [Call.step]
  cases left : (s.slot slot).continuation with
  | none =>
      obtain ⟨nothing, holds⟩ := foreign (by rw [left]; rfl)
      rw [nothing, List.append_nil, State.followUp, left]
      exact holds
  | some continuation =>
      cases continuation with
      | scripted id script =>
          obtain ⟨nothing, holds⟩ := foreign (by rw [left]; rfl)
          rw [nothing, List.append_nil, State.followUp, left]
          exact holds
      | request id number complete =>
          by_cases own : number = n
          · subst own
            have there : slot ∈ s.keptBy number := by
              rw [mem, left]
              simp [Continuation.ofRequest]
            have takes : Moment.happens number ⟨s, ⟨.call (.followUp slot status), frames⟩⟩
                = [.taken status] := if_pos there
            rw [takes, State.followUp_request left]
            by_cases succeeds : status.isOk = true
            · rw [if_pos succeeds, Move.file_await rfl,
                List.filter_cons_of_pos (by simp [Frame.ofRequest])]
              change Consistent number _ ((s.relieved slot).file number (s.queue.countP _) _)
              rw [State.file_relieved]
              exact holds.takenOk there succeeds
            · rw [if_neg succeeds, Move.done, Move.answer, Move.file_signal,
                State.file_settle_release, State.relieved,
                State.keptBy_modifySlot s slot fun _ => rfl]
              exact holds.takenFailed there (Bool.eq_false_iff.mpr succeeds)
          · obtain ⟨nothing, holds⟩ := foreign (by simp [left, Continuation.ofRequest, own])
            rw [nothing, List.append_nil, State.followUp_request left]
            by_cases succeeds : status.isOk = true
            · rw [if_pos succeeds, Move.file_await rfl,
                List.filter_cons_of_neg (by simp [Frame.ofRequest, own])]
              exact holds
            · rw [if_neg succeeds, Move.done, Move.answer, Move.file_signal,
                State.file_settle_release_of_ne own]
              exact holds

/-! ### Frames of other requests -/

/-- The state that a frame comes to is as consistent as before, unless the frame waits on behalf
of the request itself. At most a continuation of the request is lost from the slot. -/
theorem Frame.consistent_state {frame : Frame} (other : frame.ofRequest n = false)
    (distinct : (s.slots.map Slot.id).Nodup) {waiting : Nat} {traces : List Frame}
    (holds : Consistent n history (s.file n waiting traces)) (signal : Signal) :
    Consistent n history ((frame.resume s signal).state.file n waiting traces) := by
  have changes := frame.changes s signal
  generalize (frame.resume s signal).state = t at changes ⊢
  cases changes with
  | registered slot id number complete =>
      have differs : number ≠ n := by simpa [ofRequest] using other
      have foreign : (Continuation.request id number complete).ofRequest n = false := by
        simp [Continuation.ofRequest, differs]
      let held := s.modifyRequest number (Request.hold .continuation)
      have kept : Consistent n history (held.file n waiting traces) := by
        rw [State.file_modifyRequest_of_ne differs]
        exact holds
      exact State.consistent_setContinuation kept distinct slot foreign
  | unprepared slot id number complete requests others
  | handedOn slot number requests others
  | collected slot number requests others =>
      have differs : number ≠ n := by simpa [ofRequest] using other
      rw [State.file, others n differs]
      exact holds
  | detached slot => exact State.consistent_detach holds distinct slot
  | _ => exact holds

/-- A frame that waits on behalf of another request, or of none, keeps the file of the request
and what has happened to it together. -/
theorem Frame.consistent_other {frame : Frame} {signal : Signal} (other : frame.ofRequest n = false)
    (distinct : (s.slots.map Slot.id).Nodup)
    (holds : Consistent n history (Moment.file n ⟨s, ⟨.signal signal, frame :: frames⟩⟩)) :
    Consistent n (history ++ Moment.happens n ⟨s, ⟨.signal signal, frame :: frames⟩⟩)
      (((frame.resume s signal).onto frames).file n) := by
  have waits : ((frame.resume s signal).onto frames).waiting n
      = Moment.waiting n ⟨s, ⟨.signal signal, frame :: frames⟩⟩ := by
    apply (Moment.Step.resume s signal frame frames).waiting_eq
    · rfl
    · rfl
    · rintro (⟨scope, below, same⟩ | ⟨last, same⟩) <;> cases same
  have traced : Moment.traces n ⟨s, ⟨.signal signal, frame :: frames⟩⟩
      = frames.filter (Frame.ofRequest n) := List.filter_cons_of_neg (by simp [other])
  rw [Moment.file, traced] at holds
  rw [Moment.happens_signal other, List.append_nil, Moment.file, waits,
    ((frame.flows s signal).untraced other).traces_onto]
  exact frame.consistent_state other distinct holds signal

/-! ### Hooks and starts that end -/

/-- A frame that waits on behalf of the request stands before its other traces. -/
theorem Moment.file_signal {frame : Frame} (own : frame.ofRequest n = true) (signal : Signal) :
    Moment.file n ⟨s, ⟨.signal signal, frame :: frames⟩⟩
      = s.file n (s.queue.countP (Work.ofRequest n))
        (frame :: frames.filter (Frame.ofRequest n)) := by
  rw [← List.filter_cons_of_pos own]
  rfl

/-- The first hook of the request ends. -/
theorem Frame.consistent_preparing {slot : SlotId} {id : String} {complete : Script}
    {signal : Signal} (distinct : (s.slots.map Slot.id).Nodup) (present : s.hasSlot slot = true)
    (holds : Consistent n history (s.file n (s.queue.countP (Work.ofRequest n))
      (.preparing slot id n complete :: frames.filter (Frame.ofRequest n)))) :
    Consistent n (history ++ Moment.happens n
        ⟨s, ⟨.signal signal, .preparing slot id n complete :: frames⟩⟩)
      (((Frame.resume s (.preparing slot id n complete) signal).onto frames).file n) := by
  cases signal with
  | returned answer =>
      have ends : Moment.happens n
          ⟨s, ⟨.signal (.returned answer), .preparing slot id n complete :: frames⟩⟩
            = [.prepared none] := if_pos rfl
      let held := s.modifyRequest n (Request.hold .continuation)
      have distinct : (held.slots.map Slot.id).Nodup := distinct
      have present : held.hasSlot slot = true := present
      have none : held.keptBy n = [] := holds.kept_of_preparing
      have own : (Continuation.request id n complete).ofRequest n = true := by
        simp [Continuation.ofRequest]
      have request : held.requests[n]? = s.requests[n]?.map (Request.hold .continuation) := by
        rw [State.requests_modifyRequest, if_pos rfl]
      have queue := (held.undisturbed_setContinuation slot (.request id n complete)).sameQueue
      rw [ends, resume, Move.file_await rfl, List.filter_cons_of_pos (by simp [ofRequest]), queue,
        State.file_setContinuation distinct present own none, request]
      exact holds.preparedReturned
  | failed error =>
      have ends : Moment.happens n
          ⟨s, ⟨.signal (.failed error), .preparing slot id n complete :: frames⟩⟩
            = [.prepared (some error)] := if_pos rfl
      rw [ends, resume, Move.file_signal, State.settleFailed, State.file_settle_release]
      exact holds.preparedFailed error
  | declined | panicked message =>
      simp only [Moment.happens, List.append_nil]
      change Consistent n history ((s.modifyRequest n (Request.release .unit)).file n _ _)
      rw [State.file_modifyRequest]
      exact holds.preparedLost

/-- The start that the request waits for ends. -/
theorem Frame.consistent_starting {slot : SlotId} {signal : Signal}
    (holds : Consistent n history (s.file n (s.queue.countP (Work.ofRequest n))
      (.starting slot n :: frames.filter (Frame.ofRequest n)))) :
    Consistent n (history ++ Moment.happens n ⟨s, ⟨.signal signal, .starting slot n :: frames⟩⟩)
      (((Frame.resume s (.starting slot n) signal).onto frames).file n) := by
  cases signal with
  | failed error =>
      have ends : Moment.happens n ⟨s, ⟨.signal (.failed error), .starting slot n :: frames⟩⟩
          = [.refused error] := if_pos rfl
      rw [ends, resume, Move.file_signal, State.settleFailed, State.file_settle_release]
      exact holds.startFailed error
  | returned answer | declined | panicked message =>
      simp only [Moment.happens, List.append_nil]
      change Consistent n history ((s.modifyRequest n (Request.release .unit)).file n _ _)
      rw [State.file_modifyRequest]
      exact holds.startEnded

theorem State.collected_eq (s : State) (slot : SlotId) (number : Nat) :
    s.collected slot number = collectedOutcome number slot (match (s.slot slot).output with
      | none => .error Backend.noOutput
      | some value => .ok value) := by
  cases found : (s.slot slot).output <;> simp only [collected, found] <;> rfl

/-- The last hook of the request ends. -/
theorem Frame.consistent_collecting {slot : SlotId} {signal : Signal}
    (holds : Consistent n history (s.file n (s.queue.countP (Work.ofRequest n))
      (.collecting slot n :: frames.filter (Frame.ofRequest n)))) :
    Consistent n (history ++ Moment.happens n ⟨s, ⟨.signal signal, .collecting slot n :: frames⟩⟩)
      (((Frame.resume s (.collecting slot n) signal).onto frames).file n) := by
  have ends : Moment.happens n ⟨s, ⟨.signal signal, .collecting slot n :: frames⟩⟩
      = [.collected (s.hookResult slot signal)] := by
    cases signal <;> exact if_pos rfl
  have collected := holds.collected (s.hookResult slot signal)
  rw [ends]
  cases signal with
  | returned answer =>
      rw [resume, Move.done, Move.answer, Move.file_signal, State.file_settle_release,
        State.collected_eq]
      exact collected
  | failed error =>
      rw [resume, Move.done, Move.answer, Move.file_signal, State.settleFailed,
        State.file_settle_release]
      exact collected
  | declined | panicked message =>
      change Consistent n _ ((s.modifyRequest n (Request.release .continuation)).file n _ _)
      rw [State.file_modifyRequest]
      exact collected

/-! ### Every step -/

theorem Call.consistent_discard {slot : SlotId} (distinct : (s.slots.map Slot.id).Nodup)
    (found : Consistent n history (Moment.file n ⟨s, ⟨.call (.discard slot), frames⟩⟩)) :
    Consistent n history (((Call.step s (.discard slot)).onto frames).file n) := by
  have holds : Consistent n history (s.file n (s.queue.countP (Work.ofRequest n))
    (frames.filter (Frame.ofRequest n))) := found
  have queue := (s.undisturbed_clearContinuation slot).sameQueue
  rw [Call.step, Move.file_call rfl, queue]
  exact State.consistent_clearContinuation holds distinct slot

/-- Every step keeps the file of a request and what has happened to it together. -/
theorem Moment.Step.consistent {m after : Moment} (step : m.Step after) (grounded : m.Grounded)
    (holds : Consistent n history (m.file n)) :
    Consistent n (history ++ m.happens n) (after.file n) := by
  cases step with
  | call s call frames =>
      cases call with
      | act scope action =>
          rw [Moment.happens, List.append_nil]
          exact (s.acts scope action).consistent grounded.distinct holds
      | perform slot work => exact Call.consistent_perform holds
      | followUp slot status => exact Call.consistent_followUp grounded.distinct holds
      | discard slot =>
          rw [Moment.happens, List.append_nil]
          exact Call.consistent_discard grounded.distinct holds
      | _ =>
          rw [Moment.happens, List.append_nil]
          exact Call.consistent_quiet rfl holds
  | resume s signal frame frames =>
      cases own : frame.ofRequest n with
      | false => exact Frame.consistent_other own grounded.distinct holds
      | true =>
          rw [Moment.file_signal own] at holds
          cases frame with
          | preparing slot id number complete =>
              have present : s.hasSlot slot = true := by
                apply State.hasSlot_iff.mpr
                exact mem_of_slotAtHand
                  (fun frame mem => grounded.known.frames frame (List.mem_cons_of_mem _ mem))
                  (grounded.atHand.frames.1 slot rfl)
              obtain rfl : number = n := by simpa [Frame.ofRequest] using own
              exact Frame.consistent_preparing grounded.distinct present holds
          | starting slot number =>
              obtain rfl : number = n := by simpa [Frame.ofRequest] using own
              exact Frame.consistent_starting holds
          | collecting slot number =>
              obtain rfl : number = n := by simpa [Frame.ofRequest] using own
              exact Frame.consistent_collecting holds
          | _ => cases own
  | begin s signal action =>
      rw [Moment.happens_between, List.append_nil]
      exact holds
  | deliver signal earlier later due =>
      rw [Moment.happens_between, List.append_nil]
      exact holds
  | drop s signal =>
      rw [Moment.happens_between, List.append_nil]
      exact State.consistent_drop grounded.distinct holds

end Steps

end SlotDispatch
