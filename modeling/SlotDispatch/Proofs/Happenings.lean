import SlotDispatch.Proofs.Conservation
import SlotDispatch.Proofs.FileChanges

/-!
What a step means to a request. `Moment.happens` reads off a moment what the next step means
to request `n`, and `Moment.file` where the request is found. Most steps mean nothing to any
request and leave every file as it is.
-/

namespace SlotDispatch

/-- Whether a frame waits on behalf of request `n`. -/
def Frame.ofRequest (n : Nat) : Frame → Bool
  | .preparing _ _ number _ | .starting _ number | .collecting _ number => number == n
  | _ => false

/-- What it means to request `n` that its unit of work begins. The first hook fails at once
where the job cannot reach the slot. -/
def State.beginning (s : State) (n : Nat) (slot : SlotId) : List Happening :=
  if s.isCancelled n then [.begun slot true]
  else if s.reachable slot.device then [.begun slot false]
  else [.begun slot false, .prepared (some Backend.unreachable)]

/-- What the last hook of a request has returned once the signal comes from it: the output of
its slot, unless the hook failed. -/
def State.hookResult (s : State) (slot : SlotId) : Signal → Option (Except BackendError String)
  | .returned _ =>
      some (match (s.slot slot).output with
        | none => .error Backend.noOutput
        | some value => .ok value)
  | .failed error => some (.error error)
  | _ => none

namespace Moment

/-- What the next step means to request `n`. -/
def happens (n : Nat) (m : Moment) : List Happening :=
  match m.thread with
  | ⟨.call (.perform slot (.request _ number _)), _⟩ =>
      if number = n then m.state.beginning n slot else []
  | ⟨.call (.followUp slot status), _⟩ =>
      if slot ∈ m.state.keptBy n then [.taken status] else []
  | ⟨.signal (.returned _), .preparing _ _ number _ :: _⟩ =>
      if number = n then [.prepared none] else []
  | ⟨.signal (.failed error), .preparing _ _ number _ :: _⟩ =>
      if number = n then [.prepared (some error)] else []
  | ⟨.signal (.failed error), .starting _ number :: _⟩ =>
      if number = n then [.refused error] else []
  | ⟨.signal signal, .collecting slot number :: _⟩ =>
      if number = n then [.collected (m.state.hookResult slot signal)] else []
  | _ => []

/-- How many units of work of request `n` have not begun to run. -/
def waiting (n : Nat) (m : Moment) : Nat :=
  m.state.queue.countP (Work.ofRequest n) + m.inHand.countP (Work.ofRequest n)

/-- The frames that wait on behalf of request `n`. -/
def traces (n : Nat) (m : Moment) : List Frame := m.thread.frames.filter (Frame.ofRequest n)

/-- Where request `n` is found. -/
def file (n : Nat) (m : Moment) : File := m.state.file n (m.waiting n) (m.traces n)

end Moment

/-! ### Units of work that wait, and frames -/

section Steps

variable {s : State} {n : Nat} {history : List Happening} {frames : List Frame}

/-- The units that wait change by the one that begins and the one that is accepted. -/
theorem Moment.Passes.waiting {m after : Moment} (passes : m.Passes after) (n : Nat) :
    m.begins.countP (Work.ofRequest n) + after.waiting n
      = m.waiting n + m.accepts.countP (Work.ofRequest n) := by
  have counts := congrArg (List.countP (Work.ofRequest n)) passes.units
  simp only [List.countP_append] at counts
  simp only [Moment.waiting]
  omega

/-- A step that neither begins, accepts nor destroys a unit of work leaves as many waiting. -/
theorem Moment.Step.waiting_eq {m after : Moment} (step : m.Step after) (begins : m.begins = [])
    (accepts : m.accepts = []) (stays : ¬ m.MayEnd) (n : Nat) :
    after.waiting n = m.waiting n := by
  rcases step.passes_or_ends with passes | ends
  · have counts := passes.waiting n
    rw [begins, accepts] at counts
    simpa using counts
  · exact absurd ends.cause stays

/-- The frames that a move adds do not wait on behalf of request `n`. -/
def Move.Untraced (n : Nat) (move : Move) : Prop :=
  ∀ frame ∈ move.frames, frame.ofRequest n = false

theorem Move.untraced_signal (s : State) (signal : Signal) : (Move.signal s signal).Untraced n :=
  nofun

theorem Move.untraced_call (s : State) (call : Call) : (Move.call s call).Untraced n := nofun

theorem Move.untraced_await {call : Call} {frame : Frame} (other : frame.ofRequest n = false) :
    (Move.await s call frame).Untraced n := by
  intro added mem
  rw [List.mem_singleton.mp mem]
  exact other

theorem Move.Untraced.traces_onto {move : Move} (untraced : move.Untraced n)
    (frames : List Frame) :
    (move.onto frames).traces n = frames.filter (Frame.ofRequest n) := by
  have own : move.frames.filter (Frame.ofRequest n) = [] := by
    apply List.filter_eq_nil_iff.mpr
    intro frame mem
    simp [untraced frame mem]
  simp only [Moment.traces, Move.onto, List.filter_append, own, List.nil_append]

/-- A step that touches neither requests nor continuations. -/
theorem Consistent.quiet {m after : Moment} (holds : Consistent n history (m.file n))
    (same : m.state.SameFiles after.state) (waiting : after.waiting n = m.waiting n)
    (traces : after.traces n = m.traces n) : Consistent n history (after.file n) := by
  rw [Moment.file, same.file, waiting, traces]
  exact holds

/-! ### Calls that mean nothing to requests -/

/-- Whether a call may change a request or a continuation. -/
def Call.concernsRequests : Call → Bool
  | .act _ _ | .perform _ _ | .followUp _ _ | .discard _ => true
  | _ => false

/-- Two states that differ in nothing that has to do with requests. -/
theorem State.SameFiles.of_eq {s t : State} (requests : t.requests = s.requests)
    (slots : t.slots = s.slots) : SameFiles s t :=
  ⟨requests, by simp only [leftovers, slots]⟩

open State in
/-- The other calls leave every file as it is. -/
theorem Call.sameFiles_step (s : State) {call : Call} (quiet : call.concernsRequests = false) :
    SameFiles s (call.step s).state := by
  have changes := call.changes s
  generalize (call.step s).state = t at changes ⊢
  cases changes with
  | acted | performed | loaded | relieved | discarded => cases quiet
  | bound slot | completed slot | notified slot | freed slot =>
      exact sameFiles_modifySlot s slot fun _ => rfl
  | granted slot due =>
      have started : SameFiles s (s.started slot) :=
        .trans (t := s.note (.started slot)) (.of_eq rfl rfl)
          (sameFiles_modifySlot _ slot (by intro; rfl))
      exact started.trans (.of_eq rfl rfl)
  | _ => exact .of_eq rfl rfl

/-- Only a unit of work and a continuation that it left wait on behalf of a request. -/
theorem Call.Flows.untraced {call : Call} {move : Move} (flows : call.Flows move)
    (performs : ∀ slot work, call ≠ .perform slot work)
    (follows : ∀ slot status, call ≠ .followUp slot status) : move.Untraced n := by
  cases flows with
  | prepares slot id number job t => exact absurd rfl (performs slot (.request id number job))
  | runs slot id script t => exact absurd rfl (performs slot (.scripted id script))
  | collects slot status id number complete t => exact absurd rfl (follows slot status)
  | continues slot status id script t => exact absurd rfl (follows slot status)
  | ends => exact Move.untraced_signal _ _
  | answers | keeps | looks | tries | finishes | script | unused | bind | completesAndFails
  | completing | parting => exact Move.untraced_await rfl
  | _ => exact Move.untraced_call _ _

theorem Call.consistent_quiet {call : Call} (quiet : call.concernsRequests = false)
    (holds : Consistent n history (Moment.file n ⟨s, ⟨.call call, frames⟩⟩)) :
    Consistent n history (((call.step s).onto frames).file n) := by
  have untraced : (call.step s).Untraced n := by
    apply (call.flows s).untraced
    · rintro slot work rfl
      simp [concernsRequests] at quiet
    · rintro slot status rfl
      simp [concernsRequests] at quiet
  refine holds.quiet (sameFiles_step s quiet) ?_ (untraced.traces_onto frames)
  apply (Moment.Step.call s call frames).waiting_eq
  · cases call <;> first | rfl | simp [concernsRequests] at quiet
  · cases call <;> first | rfl | simp [concernsRequests] at quiet
  · rintro (⟨scope, below, same⟩ | ⟨signal, same⟩)
    · cases same
      simp [concernsRequests] at quiet
    · cases same

/-! ### Signals that mean nothing to requests -/

/-- Whether a frame may change a request or a continuation. -/
def Frame.concernsRequests : Frame → Bool
  | .preparing _ _ _ _ | .starting _ _ | .collecting _ _ | .parting _ _ => true
  | _ => false

open State in
/-- The other frames leave every file as it is. -/
theorem Frame.sameFiles_resume (s : State) {frame : Frame} (quiet : frame.concernsRequests = false)
    (signal : Signal) : SameFiles s (frame.resume s signal).state := by
  have changes := frame.changes s signal
  generalize (frame.resume s signal).state = t at changes ⊢
  cases changes with
  | registered | unprepared | handedOn | collected | detached => cases quiet
  | _ => exact .of_eq rfl rfl

/-- What goes on waiting on behalf of a request did so before. -/
theorem Frame.Flows.untraced {frame : Frame} {move : Move} (flows : frame.Flows move)
    (other : frame.ofRequest n = false) : move.Untraced n := by
  cases flows with
  | start slot id number complete t => exact Move.untraced_await other
  | ends => exact Move.untraced_signal _ _
  | script | walk | schedule => exact Move.untraced_call _ _
  | unbound | unboundInPanic | completed | completedInPanic => exact Move.untraced_await rfl

/-- A signal means something only to the request that its frame waits on behalf of. -/
theorem Moment.happens_signal {signal : Signal} {frame : Frame}
    (other : frame.ofRequest n = false) :
    Moment.happens n ⟨s, ⟨.signal signal, frame :: frames⟩⟩ = [] := by
  cases frame with
  | preparing slot id number complete =>
      have differs : number ≠ n := by simpa [Frame.ofRequest] using other
      cases signal <;> first | rfl | exact if_neg differs
  | starting slot number =>
      have differs : number ≠ n := by simpa [Frame.ofRequest] using other
      cases signal <;> first | rfl | exact if_neg differs
  | collecting slot number =>
      have differs : number ≠ n := by simpa [Frame.ofRequest] using other
      cases signal <;> exact if_neg differs
  | _ => cases signal <;> rfl

theorem Moment.happens_between (signal : Signal) :
    Moment.happens n ⟨s, ⟨.signal signal, []⟩⟩ = [] := by
  cases signal <;> rfl

end Steps

end SlotDispatch
