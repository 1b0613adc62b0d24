import SlotDispatch.Proofs.Lasting

/-!
The outcome of a request. What happens to a request along a run is its `history`, and the
outcome is what the history makes of it. A request that is found cancelled has no other
history, one whose first hook fails is never started, and where the start and a completion
both settle a request the first of them does. A request is abandoned if neither its unit of
work nor its continuation is left to settle it.
-/

namespace SlotDispatch

/-- What has happened to request `n`, the oldest first. -/
def history (n : Nat) (past : List Moment) : List Happening := past.flatMap (Moment.happens n)

@[simp] theorem history_append (n : Nat) (past later : List Moment) :
    history n (past ++ later) = history n past ++ history n later := List.flatMap_append

@[simp] theorem history_singleton (n : Nat) (m : Moment) : history n [m] = m.happens n := by
  simp [history]

/-! ### Runs -/

section Run

variable {s : State} {backends : List Backend} {priorities : List Preference}
  {past : List Moment} {now : Moment} {n : Nat}

/-- A dispatcher that was just built knows of no request. -/
theorem consistent_ofConfigured {configured : List (Backend × Nat)} (n : Nat)
    (distinct : (configured.map fun entry => entry.1.name).Nodup) :
    Consistent n [] ((Moment.initial (.ofConfigured configured priorities)).file n) := by
  have none : (State.ofConfigured configured priorities).keptBy n = [] := by
    apply List.eq_nil_iff_forall_not_mem.mpr
    intro slot mem
    rw [State.mem_keptBy (State.nodup_slots_ofConfigured distinct), State.slot_ofConfigured] at mem
    simp [Slot.fresh] at mem
  rw [Moment.file, State.file, Moment.initial, none]
  exact .unmade

/-- In every run the file of a request belongs to its history. -/
theorem Run.consistent (built : (construct backends priorities).result = .ok s)
    (run : Run (.initial s) past now) (n : Nat) : Consistent n (history n past) (now.file n) := by
  induction run with
  | start =>
      obtain ⟨configured, distinct, rfl⟩ := construct_ok built
      exact consistent_ofConfigured n distinct
  | next run step ih =>
      rw [history_append, history_singleton]
      exact step.consistent (run.grounded built) ih

/-! ### Requests that were made -/

theorem State.Acts.made {scope : Option Scope} {action : Action} {move : Move} {id : String}
    {job : Job} (acts : s.Acts scope action move)
    (unit : s.acceptedUnit? action = some (.request id n job)) :
    n < move.state.requests.length := by
  cases acts with
  | requested id' job' cancelled handles frame serving own waits =>
      have same : Work.request id' s.requests.length job' = .request id n job := by
        simpa [acceptedUnit?, serving, own] using unit
      obtain ⟨-, rfl, -⟩ := Work.request.inj same
      simp [Move.await]
  | submitted id' script serving same =>
      subst same
      simp [acceptedUnit?, serving, Action.unit?] at unit
  | refused cancelled handles answer ended => simp [acceptedUnit?, ended] at unit
  | shutDown same =>
      subst same
      simp [acceptedUnit?, Action.unit?] at unit
  | answered _ _ _ none | cancelled _ _ none | continued _ _ _ _ none | started _ _ none
  | tried _ _ none | failed _ none | panicked _ none | completed _ _ none | finished _ _ none
  | reordered _ _ none => simp [none] at unit

/-- A unit of work that is accepted carries a request that is made with it. -/
theorem Moment.Step.made {m after : Moment} {id : String} {job : Job} (step : m.Step after)
    (accepts : .request id n job ∈ m.accepts) : n < after.state.requests.length := by
  cases step with
  | call s call frames =>
      cases call with
      | act scope action => exact (s.acts scope action).made (Option.mem_toList.mp accepts)
      | _ => simp [Moment.accepts] at accepts
  | _ => simp [Moment.accepts] at accepts

theorem Run.made {first : Moment} {id : String} {job : Job} (run : Run first past now)
    (made : .request id n job ∈ accepted past) : n < now.state.requests.length := by
  induction run with
  | start => simp [accepted] at made
  | @next past now after run step ih =>
      rw [accepted_append, accepted_singleton] at made
      rcases List.mem_append.mp made with made | made
      · have found := List.getElem?_eq_getElem (ih made)
        obtain ⟨later, found', -⟩ := step.lasting n _ found
        exact (List.getElem?_eq_some_iff.mp found').1
      · exact step.made made

/-! ### The law -/

theorem Run.outcome?_eq {id : String} {job : Job}
    (built : (construct backends priorities).result = .ok s) (run : Run (.initial s) past now)
    (made : .request id n job ∈ accepted past) :
    now.state.outcome? n = (Stage.reached n (history n past)).outcome (now.file n).held := by
  have found := List.getElem?_eq_getElem (run.made made)
  have there : (now.file n).request.isSome := by
    simp [Moment.file, State.file, found]
  rw [← (run.consistent built n).outcome_eq there]
  simp only [State.outcome?, Moment.file, State.file, found, Option.bind_some]

/-- What happened up to a moment of a run has happened in the run. -/
theorem Run.consistent_of_mem (built : (construct backends priorities).result = .ok s)
    (run : Run (.initial s) past now) {m : Moment} (mem : m ∈ past) (n : Nat) :
    ∃ before, Consistent n before (m.file n) ∧ before ⊆ history n past := by
  obtain ⟨earlier, later, rfl⟩ := List.append_of_mem mem
  refine ⟨history n earlier, run.split.1.consistent built n, ?_⟩
  rw [history_append]
  exact List.subset_append_left _ _

theorem Moment.mem_traces {m : Moment} {frame : Frame} (mem : frame ∈ m.thread.frames)
    (own : frame.ofRequest n = true) : frame ∈ (m.file n).traces := List.mem_filter.mpr ⟨mem, own⟩

end Run

end SlotDispatch
