import SlotDispatch.Proofs.FileSteps

/-!
No request is forgotten, no outcome is written twice, and no cancellation is taken back.
`State.Lasting` relates a state to a later one in this respect; every step is such a change, so
a whole run is.
-/

namespace SlotDispatch

namespace Request

/-- What a request may become: it keeps the outcome that it has, and stays cancelled. -/
structure Becomes (request later : Request) : Prop where
  settled : ∀ outcome, request.outcome = some outcome → later.outcome = some outcome
  cancelled : request.cancelled = true → later.cancelled = true

variable {request later last : Request}

theorem Becomes.refl (request : Request) : request.Becomes request := ⟨fun _ same => same, id⟩

theorem Becomes.trans (first : request.Becomes later) (second : later.Becomes last) :
    request.Becomes last where
  settled outcome settled := second.settled outcome (first.settled outcome settled)
  cancelled flag := second.cancelled (first.cancelled flag)

theorem becomes_settle (outcome : Outcome) (request : Request) :
    request.Becomes (request.settle outcome) := by
  refine ⟨fun _ => outcome_settle_of_some _, fun flag => ?_⟩
  unfold settle
  split <;> exact flag

theorem becomes_release (holder : Holder) (request : Request) :
    request.Becomes (request.release holder) := by
  refine ⟨fun _ => outcome_release_of_some _, fun flag => ?_⟩
  simp only [release]
  split
  · exact (becomes_settle _ _).cancelled flag
  · exact flag

end Request

namespace State

/-- The requests of one state are all there in another, or what they have become. -/
def Lasting (s t : State) : Prop :=
  ∀ (n : Nat) (request : Request), s.requests[n]? = some request →
    ∃ later : Request, t.requests[n]? = some later ∧ request.Becomes later

namespace Lasting

variable {s t u : State}

theorem of_eq (same : t.requests = s.requests) : Lasting s t := by
  intro n request found
  exact ⟨request, same ▸ found, .refl request⟩

theorem trans (first : Lasting s t) (second : Lasting t u) : Lasting s u := by
  intro n request found
  obtain ⟨middle, found, kept⟩ := first n request found
  obtain ⟨last, found, kept'⟩ := second n middle found
  exact ⟨last, found, kept.trans kept'⟩

theorem outcome? {n : Nat} {outcome : Outcome} (lasting : Lasting s t)
    (settled : s.outcome? n = some outcome) : t.outcome? n = some outcome := by
  cases found : s.requests[n]? with
  | none => simp [State.outcome?, found] at settled
  | some request =>
      obtain ⟨later, found', kept⟩ := lasting n request found
      simp only [State.outcome?, found] at settled
      simp only [State.outcome?, found']
      exact kept.settled outcome settled

theorem isCancelled {n : Nat} (lasting : Lasting s t) (flag : s.isCancelled n = true) :
    t.isCancelled n = true := by
  cases found : s.requests[n]? with
  | none => simp [State.isCancelled, found] at flag
  | some request =>
      obtain ⟨later, found', kept⟩ := lasting n request found
      simp only [State.isCancelled, found] at flag
      simp only [State.isCancelled, found']
      exact kept.cancelled flag

end Lasting

/-! ### Elementary changes -/

theorem lasting_modifyRequest (s : State) (number : Nat) {change : Request → Request}
    (becomes : ∀ request : Request, request.Becomes (change request)) :
    Lasting s (s.modifyRequest number change) := by
  intro n request found
  rw [requests_modifyRequest, found]
  by_cases own : number = n
  · rw [if_pos own]
    exact ⟨change request, rfl, becomes request⟩
  · rw [if_neg own]
    exact ⟨request, rfl, .refl request⟩

theorem lasting_settle (s : State) (number : Nat) (outcome : Outcome) :
    Lasting s (s.settle number outcome) :=
  lasting_modifyRequest s number (Request.becomes_settle outcome)

theorem lasting_release (s : State) (number : Nat) (holder : Holder) :
    Lasting s (s.release number holder) :=
  lasting_modifyRequest s number (Request.becomes_release holder)

theorem lasting_settle_release (s : State) (number : Nat) (outcome : Outcome) (holder : Holder) :
    Lasting s ((s.settle number outcome).release number holder) :=
  (lasting_settle s number outcome).trans (lasting_release _ number holder)

theorem lasting_dropContinuation (s : State) (continuation : Option Continuation) :
    Lasting s (s.dropContinuation continuation) := by
  rcases continuation with - | ⟨id, script⟩ | ⟨id, number, complete⟩
  · exact .of_eq rfl
  · exact .of_eq rfl
  · exact lasting_release s number .continuation

theorem lasting_clearContinuation (s : State) (slot : SlotId) :
    Lasting s (s.clearContinuation slot) := by
  apply Lasting.trans (t := s.modifySlot slot fun slot => { slot with continuation := none })
  · exact .of_eq rfl
  · exact lasting_dropContinuation _ _

theorem lasting_setContinuation (s : State) (slot : SlotId) (continuation : Continuation) :
    Lasting s (s.setContinuation slot continuation) := by
  apply Lasting.trans
    (t := s.modifySlot slot fun slot => { slot with continuation := some continuation })
  · exact .of_eq rfl
  · exact lasting_dropContinuation _ _

theorem lasting_foldl_dropWork (works : List Work) (s : State) :
    Lasting s (works.foldl dropWork s) := by
  induction works generalizing s with
  | nil => exact .of_eq rfl
  | cons work rest ih =>
      refine Lasting.trans ?_ (ih (s.dropWork work))
      cases work with
      | scripted id script => exact .of_eq rfl
      | request id number job => exact lasting_release s number .unit

theorem lasting_shutdown (s : State) : Lasting s s.shutdown := by
  simp only [shutdown]
  split
  · let closed := { s with phase := .shutDown, priorities := [], queue := [] }
    have same : Lasting s closed := .of_eq rfl
    exact same.trans (lasting_foldl_dropWork s.queue closed)
  · exact .of_eq rfl

theorem lasting_detachUnpinned (s : State) : Lasting s s.detachUnpinned := by
  apply detachUnpinned_induction (.of_eq rfl)
  intro t slot lasting
  exact lasting.trans (lasting_clearContinuation t slot)

theorem lasting_drop (s : State) : Lasting s s.drop.1 := by
  simp only [drop]
  split
  · exact .of_eq rfl
  · let filtered := { s with pending := s.pending.filter fun entry => !entry.2.awaited }
    let ended := { filtered.shutdown with phase := .dropped }
    have filters : Lasting s filtered := .of_eq rfl
    have ends : Lasting filtered ended := filtered.lasting_shutdown
    exact (filters.trans ends).trans ended.lasting_detachUnpinned

/-! ### Steps -/

theorem Acts.lasting {s : State} {scope : Option Scope} {action : Action} {move : Move}
    (acts : s.Acts scope action move) : Lasting s move.state := by
  have made (request : Request) {t : State} (more : t.requests = s.requests ++ [request]) :
      Lasting s t := by
    intro n known found
    refine ⟨known, ?_, .refl known⟩
    rw [more, List.getElem?_append_left (List.getElem?_eq_some_iff.mp found).1]
    exact found
  cases acts with
  | cancelled number answer =>
      exact lasting_modifyRequest s number fun _ => ⟨fun _ settled => settled, fun _ => rfl⟩
  | refused cancelled handles answer =>
      let grown := { s with requests := s.requests ++ [Request.new cancelled], handles }
      have grows : Lasting s grown := made (.new cancelled) rfl
      exact grows.trans (grown.lasting_release s.requests.length .unit)
  | requested id job cancelled handles => exact made (.new cancelled) rfl
  | continued scope' id script => exact lasting_setContinuation s scope'.slot _
  | shutDown => exact s.lasting_shutdown
  | _ => exact .of_eq rfl

end State

open State in
theorem Call.lasting_step (s : State) (call : Call) : Lasting s (call.step s).state := by
  cases call with
  | act scope action => exact (s.acts scope action).lasting
  | perform slot work =>
      cases work with
      | scripted id script => exact .of_eq rfl
      | request id number job =>
          rcases s.perform_cases slot id number job with
            ⟨-, eq⟩ | ⟨-, t, same, -, ⟨-, eq⟩ | ⟨-, eq⟩⟩
          · simp only [step, eq]
            exact lasting_settle_release s number _ _
          · simp only [step, eq]
            exact .of_eq same.sameRequests
          · simp only [step, eq]
            exact Lasting.trans (.of_eq same.sameRequests) (lasting_settle_release t number _ _)
  | followUp slot status =>
      have relieved : Lasting s (s.relieved slot) := .of_eq rfl
      cases left : (s.slot slot).continuation with
      | none =>
          rw [step, State.followUp, left]
          exact relieved
      | some continuation =>
          cases continuation with
          | scripted id script =>
              rw [step, State.followUp, left]
              exact relieved
          | request id number complete =>
              rw [step, followUp_request left]
              split
              · exact relieved
              · exact relieved.trans (lasting_settle_release _ number _ _)
  | discard slot => exact lasting_clearContinuation s slot
  | _ => exact .of_eq (sameFiles_step s rfl).sameRequests

open State in
theorem Frame.lasting_resume (s : State) (frame : Frame) (signal : Signal) :
    Lasting s (frame.resume s signal).state := by
  cases frame with
  | preparing slot id number complete =>
      cases signal with
      | returned answer =>
          let held := s.modifyRequest number (Request.hold .continuation)
          have holds : Lasting s held :=
            lasting_modifyRequest s number fun _ => ⟨fun _ settled => settled, fun flag => flag⟩
          exact holds.trans (held.lasting_setContinuation slot _)
      | failed error => exact lasting_settle_release s number _ _
      | declined | panicked message => exact lasting_release s number .unit
  | starting slot number =>
      cases signal with
      | failed error => exact lasting_settle_release s number _ _
      | returned answer | declined | panicked message => exact lasting_release s number .unit
  | collecting slot number =>
      cases signal with
      | returned answer | failed error => exact lasting_settle_release s number _ _
      | declined | panicked message => exact lasting_release s number .continuation
  | parting slot kept =>
      have detached : Lasting s (s.detach slot) := lasting_clearContinuation s slot
      cases kept with
      | false => cases signal <;> exact .of_eq rfl
      | true => cases signal <;> exact detached
  | _ => exact .of_eq (sameFiles_resume s rfl signal).sameRequests

/-- No step forgets a request, changes an outcome or takes a cancellation back. -/
theorem Moment.Step.lasting {m after : Moment} (step : m.Step after) :
    m.state.Lasting after.state := by
  cases step with
  | call s call frames => exact call.lasting_step s
  | resume s signal frame frames => exact frame.lasting_resume s signal
  | begin s signal action => exact .of_eq rfl
  | deliver signal earlier later due => exact .of_eq rfl
  | drop s signal => exact s.lasting_drop

/-- Nor does a run. -/
theorem Run.lasting {first now : Moment} {past : List Moment} (run : Run first past now) :
    first.state.Lasting now.state := by
  induction run with
  | start => exact .of_eq rfl
  | next run step ih => exact ih.trans step.lasting

end SlotDispatch
