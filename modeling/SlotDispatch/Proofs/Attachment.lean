import SlotDispatch.Proofs.Accounted
import SlotDispatch.Proofs.Known
import SlotDispatch.Proofs.Shape

/-!
Completions reach the dispatcher until it is dropped, whatever devices and callers do and
whatever panics: a slot is detached only by the drop, and by a continuation that runs after it
(`Run.linked`).
-/

namespace SlotDispatch

/-- A continuation that parts with its slot runs only once the dispatcher is dropped, and
until then no slot is detached. -/
structure Moment.Linked (m : Moment) : Prop where
  parting : ∀ frame ∈ m.thread.frames, frame.isParting = true → m.state.phase = .dropped
  attached : m.state.phase ≠ .dropped → m.state.Attached

/-- Only a completion has a continuation part with its slot. -/
theorem Call.Flows.adds_no_parting {call : Call} {move : Move} (flows : call.Flows move)
    (other : ∀ slot status, call ≠ .notify slot status) :
    ∀ frame ∈ move.frames, frame.isParting = false := by
  cases flows with
  | completing | parting => exact absurd rfl (other _ _)
  | _ => simp [Move.signal, Move.call, Move.await, Frame.isParting]

theorem Frame.Flows.adds_no_parting {frame : Frame} {move : Move} (flows : frame.Flows move) :
    ∀ frame ∈ move.frames, frame.isParting = false := by
  cases flows <;> simp [Move.signal, Move.call, Move.await, Frame.isParting]

section Steps

variable {s : State} {frames : List Frame}

/-- A call that adds no parting continuation. -/
theorem Moment.Linked.onto {move : Move}
    (parting : ∀ frame ∈ frames, frame.isParting = true → s.phase = .dropped)
    (added : ∀ frame ∈ move.frames, frame.isParting = true → move.state.phase = .dropped)
    (dropped : s.phase = .dropped → move.state.phase = .dropped)
    (attached : move.state.phase ≠ .dropped → move.state.Attached) :
    (move.onto frames).Linked := by
  refine ⟨fun frame mem parts => ?_, attached⟩
  rcases List.mem_append.mp mem with mem | mem
  · exact added frame mem parts
  · exact dropped (parting frame mem parts)

theorem Call.linked_step {call : Call} (linked : Moment.Linked ⟨s, ⟨.call call, frames⟩⟩) :
    ((call.step s).onto frames).Linked := by
  have dropped : s.phase = .dropped → (call.step s).state.phase = .dropped :=
    fun gone => (Moment.Step.call s call frames).keeps_dropped gone
  refine Moment.Linked.onto linked.parting ?_ dropped fun there => ?_
  · intro frame mem parts
    by_cases notifies : ∃ slot status, call = .notify slot status
    · obtain ⟨slot, status, rfl⟩ := notifies
      by_cases gone : s.phase = .dropped
      · exact dropped gone
      · simp only [step, State.notify, gone, if_false, Move.await, List.mem_singleton] at mem
        rw [mem] at parts
        cases parts
    · have none := (call.flows s).adds_no_parting
        (fun slot status same => notifies ⟨slot, status, same⟩)
        frame mem
      rw [none] at parts
      cases parts
  · exact (linked.attached fun gone => there (dropped gone)).call call

theorem Frame.linked_resume {signal : Signal} {frame : Frame}
    (linked : Moment.Linked ⟨s, ⟨.signal signal, frame :: frames⟩⟩) :
    ((frame.resume s signal).onto frames).Linked := by
  have same := (frame.undisturbed_resume s signal).samePhase
  refine Moment.Linked.onto (fun other mem => linked.parting other (List.mem_cons_of_mem _ mem)) ?_
    same.trans fun there => ?_
  · intro other mem parts
    rw [(frame.flows s signal).adds_no_parting other mem] at parts
    cases parts
  · rw [same] at there
    refine State.Attached.resume (linked.attached there) signal fun slot kept parts => there ?_
    exact linked.parting frame List.mem_cons_self (parts ▸ rfl)

/-- Every step leaves the slots attached, unless it drops the dispatcher. -/
theorem Moment.Step.linked {m after : Moment} (step : m.Step after) (linked : m.Linked) :
    after.Linked := by
  cases step with
  | call s call frames => exact Call.linked_step linked
  | resume s signal frame frames => exact Frame.linked_resume linked
  | begin s signal action => exact ⟨nofun, linked.attached⟩
  | deliver signal earlier later due => exact ⟨nofun, linked.attached⟩
  | drop s signal => exact ⟨nofun, fun there => absurd s.phase_drop there⟩

end Steps

/-- The completion of every slot reaches the dispatcher until it is dropped. -/
theorem Run.linked {backends : List Backend} {priorities : List Preference} {s : State}
    {past : List Moment} {now : Moment}
    (built : (construct backends priorities).result = .ok s) (run : Run (.initial s) past now) :
    now.Linked := by
  induction run with
  | start =>
      obtain ⟨configured, -, rfl⟩ := construct_ok built
      refine ⟨nofun, fun _ slot mem => ?_⟩
      obtain ⟨backend, count, -, index, -, rfl⟩ := State.mem_slots_ofConfigured.mp mem
      rfl
  | next run step ih => exact step.linked ih

end SlotDispatch
