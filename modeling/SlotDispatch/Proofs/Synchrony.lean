import SlotDispatch.Proofs.Attempts

/-!
Searches, and the executions that come to their end within the starts that a search makes. What
goes on within such a start is told once (`Moment.EndsWithin`, `Run.endsWithin`): the request is
settled, its slot is handed back, and another search goes on from there. What follows when the
start returns, or fails after all, is told beside it. From this, by induction on the units that
wait, a search that comes to one device first starts no slot of another (`Run.others_start`).
-/

namespace SlotDispatch

section Extents

variable {holds : Moment → Prop} {first middle last : Moment} {frames : List Frame}
  {passed : List Moment} {signal handed : Signal} {s t : State}

/-- What has begun goes on from where the thread has come to. -/
theorem Moment.Reaches.onward (reaches : first.Reaches holds frames middle)
    (extent : first.Extent frames passed signal last) :
    ∃ begun rest, passed = begun ++ rest ∧ first.Leads frames begun middle
      ∧ (∀ m ∈ begun, holds m) ∧ middle.Extent frames rest signal last := by
  obtain ⟨begun, leads, all⟩ := reaches
  obtain ⟨rest, same, onward⟩ := extent.onward leads
  exact ⟨begun, rest, same, leads, all, onward⟩

/-- What is handed back is what the thread comes to. -/
theorem Moment.Reaches.ends (reaches : first.Reaches holds frames ⟨t, ⟨.signal handed, frames⟩⟩)
    (extent : first.Extent frames passed signal last) :
    (∀ m ∈ passed, holds m) ∧ signal = handed ∧ last = ⟨t, ⟨.signal handed, frames⟩⟩ := by
  obtain ⟨begun, rest, rfl, -, all, onward⟩ := reaches.onward extent
  rcases onward.cases with ⟨rfl, rfl, back⟩ | ⟨after, rest, rfl, ⟨upper, shape, calls⟩, -⟩
  · simp only [Thread.mk.injEq, Control.signal.injEq] at back
    rw [List.append_nil]
    exact ⟨all, back.1.symm, rfl⟩
  · obtain rfl : upper = [] := by simpa using shape.symm
    obtain ⟨call, same⟩ := calls rfl
    cases same

/-! ### Searches that come to nothing -/

/-- Whether a thread does nothing but look for a slot, or hand one back. -/
def Control.looks : Control → Bool
  | .call .schedule | .call (.walk _ _) | .call (.offer _ _) | .call (.discard _)
  | .call (.markIdle _) | .call (.pushIdle _) | .signal (.returned _) => true
  | _ => false

/-- Without a unit of work that waits, a search comes to nothing. -/
theorem Moment.Extent.looks (extent : first.Extent frames passed signal last)
    (upper : List Frame) (shape : first.thread.frames = upper ++ frames)
    (queue : first.state.queue = []) (looks : first.thread.control.looks = true)
    (walks : ∀ frame ∈ upper, frame.isWalk = true) :
    (∀ m ∈ passed, m.GrantsNone) ∧ last.state.queue = [] := by
  have kept := extent.induction
    (fun s control upper => s.queue = [] ∧ control.looks = true
      ∧ ∀ frame ∈ upper, frame.isWalk = true) ?_ ?_ upper shape ⟨queue, looks, walks⟩
  · obtain ⟨all, final, -⟩ := kept
    refine ⟨fun m mem slot starts => ?_, final⟩
    obtain ⟨-, -, -, looks, -⟩ := all m mem
    rw [starts] at looks
    cases looks
  · rintro s call upper ⟨queue, looks, walks⟩
    cases call with
    | schedule =>
        simp only [Call.step]
        split <;> exact ⟨queue, rfl, walks⟩
    | walk devices handedBack =>
        cases devices with
        | nil =>
            simp only [Call.step]
            split <;> exact ⟨queue, rfl, walks⟩
        | cons device rest =>
            simp only [Call.step]
            split
            · exact ⟨queue, rfl, walks⟩
            · next index t popped =>
                obtain ⟨left, -, rfl⟩ := State.popIdle_eq_some popped
                exact ⟨queue, rfl, walks⟩
    | offer slot devices =>
        simp only [Call.step, queue]
        exact ⟨queue, rfl, List.forall_mem_cons.mpr ⟨rfl, walks⟩⟩
    | discard slot =>
        exact ⟨(State.undisturbed_clearContinuation s slot).sameQueue.trans queue, rfl, walks⟩
    | markIdle | pushIdle => exact ⟨queue, rfl, walks⟩
    | _ => cases looks
  · rintro s signal frame upper ⟨queue, looks, walks⟩
    obtain ⟨own, below⟩ := List.forall_mem_cons.mp walks
    cases frame with
    | walk devices =>
        cases signal with
        | returned answer => exact ⟨queue, rfl, below⟩
        | _ => cases looks
    | _ => cases own

/-- Without an idle slot of a device that is listed, or at the end, nothing is found. -/
theorem State.finds_nothing (none : s.serving = true →
      ∀ name ∈ s.priorities.map Preference.name, s.idle name = []) (frames : List Frame) :
    Moment.Reaches Moment.Uneventful ⟨s, ⟨.call .schedule, frames⟩⟩ frames
      ⟨s, ⟨.signal (.returned .done), frames⟩⟩ := by
  cases serving : s.serving with
  | false =>
      exact .call _ [] (Call.step_schedule_of_ended serving) (Moment.uneventful_call rfl) (.refl _)
  | true =>
      have begins : Call.step s .schedule
          = .call s (.walk (s.priorities.map Preference.name ++ []) false) := by
        rw [Call.step_schedule serving, List.append_nil]
      have walked := s.walks_past [] frames (none serving)
      exact .call _ [] begins (Moment.uneventful_call rfl)
        (walked.trans (.call _ [] rfl (Moment.uneventful_call rfl) (.refl _)))

end Extents

/-! ### Searches that come to another device -/

section Others

variable {backends : List Backend} {priorities : List Preference} {s t u : State}
  {past passed : List Moment} {last : Moment} {frames : List Frame} {slot : SlotId}
  {devices : List String} {signal : Signal} {name device : String} {n : Nat}

/-- A tame state is that of a tame thread that is about to search, or to let a slot complete. -/
theorem State.Tame.moment (tame : s.Tame) (call : Call) (calls : (Control.call call).isTame = true)
    (frames : List Frame) : Moment.Tame frames ⟨s, ⟨.call call, frames⟩⟩ :=
  ⟨tame, calls, [], rfl, List.forall_mem_nil _⟩

/-- A request whose slot is about to start has left its continuation there, and not been settled. -/
theorem Run.starting (built : (construct backends priorities).result = .ok s)
    (run : Run (.initial s) past ⟨t, ⟨.call (.start slot), .starting slot n :: frames⟩⟩)
    {id : String} {complete : Script}
    (held : (t.slot slot).continuation = some (.request id n complete)) :
    ∃ cancelled, t.requests[n]? = some ⟨cancelled, [.continuation, .unit], none⟩ := by
  have consistent := run.consistent built n
  have found : (Moment.file n ⟨t, ⟨.call (.start slot), .starting slot n :: frames⟩⟩).request
      = t.requests[n]? := rfl
  have traced :
      (Moment.file n ⟨t, ⟨.call (.start slot), .starting slot n :: frames⟩⟩).traces ≠ [] :=
    List.ne_nil_of_mem (Moment.mem_traces List.mem_cons_self (by simp [Frame.ofRequest]))
  have kept : (Moment.file n ⟨t, ⟨.call (.start slot), .starting slot n :: frames⟩⟩).kept ≠ [] := by
    refine List.ne_nil_of_mem (a := slot) ((State.mem_keptBy (run.grounded built).distinct).mpr ?_)
    rw [held]
    simp [Continuation.ofRequest]
  generalize Moment.file n ⟨t, ⟨.call (.start slot), .starting slot n :: frames⟩⟩ = file
    at consistent found traced kept
  generalize history n past = told at consistent
  cases consistent with
  | starting slot cancelled => exact ⟨cancelled, found.symm⟩
  | _ => first
    | exact absurd rfl traced
    | exact absurd rfl kept

/-- A slot of another device. -/
theorem Moment.startOn?_of_ne (other : slot.device ≠ device) :
    Moment.startOn? device ⟨t, ⟨.call (.start slot), frames⟩⟩ = none := by
  simp [Moment.startOn?, other]

theorem Moment.Extent.reaches {holds : Moment → Prop} {first : Moment}
    (extent : first.Extent frames passed signal last) (all : ∀ m ∈ passed, holds m) :
    first.Reaches holds frames last := ⟨passed, ⟨extent.run, extent.above⟩, all⟩

/-- What goes on within the start of a slot whose execution comes to its end there: the request is
settled, the slot is handed back, and a search goes on from `searching` to `final`. -/
structure Moment.EndsWithin (first : Moment) (slot : SlotId) (n : Nat) (status : Status) (t : State)
    (frames : List Frame) (settling nested : List Moment) (searching final : State)
    (answer : Answer) : Prop where
  run : ∃ past, Run first past ⟨searching, ⟨.call .schedule, frames⟩⟩
  leads : Moment.Leads ⟨t.started slot, ⟨.call (.complete slot status), frames⟩⟩ frames settling
    ⟨searching, ⟨.call .schedule, frames⟩⟩
  settles : ∀ m ∈ settling,
    m.GrantsNone ∧ (m.isCareful = true ∨ (m.state.outcome? n).isSome = true)
  settled : (searching.outcome? n).isSome = true
  started : (t.started slot).Tame
  tame : searching.Tame
  heads : searching.Heads slot.device
  queue : searching.queue = t.queue
  extent : Moment.Extent ⟨searching, ⟨.call .schedule, frames⟩⟩ frames nested (.returned answer)
    ⟨final, ⟨.signal (.returned answer), frames⟩⟩

/-- An execution that comes to its end within its start. -/
theorem Run.endsWithin {added : List Frame} {status : Status}
    (built : (construct backends priorities).result = .ok s)
    (run : Run (.initial s) past ⟨t, ⟨.call (.start slot), .starting slot n :: frames⟩⟩)
    (tame : t.Tame) (searched : t.Searched slot devices) {id : String} {complete : Script}
    (held : (t.slot slot).continuation = some (.request id n complete))
    (eq : t.start slot = ⟨t.started slot, .call (.complete slot status), added⟩) :
    ∃ settling nested searching final answer,
      (Moment.initial s).EndsWithin slot n status t (added ++ .starting slot n :: frames)
        settling nested
        searching final answer := by
  obtain ⟨cancelled, found⟩ := run.starting built held
  have made : n < (t.started slot).requests.length := (List.getElem?_eq_some_iff.mp found).1
  have step := Moment.Step.call t (.start slot) (.starting slot n :: frames)
  rw [Call.step, eq] at step
  have started : (t.started slot).Tame := by
    have started := @Call.tame_state t tame (.start slot) rfl
    rwa [Call.step, eq] at started
  have kept : ((t.started slot).slot slot).continuation = (t.slot slot).continuation :=
    State.continuation_of_leftovers (State.sameFiles_modifySlot (t.note (.started slot)) slot
      (by intro; rfl)).sameLeftovers slot
  obtain ⟨u, ⟨settling, leads, settles⟩, heads, queue, settled⟩ := (run.next step).completes built
    started (searched.of_same ⟨rfl, rfl, rfl⟩ fun _ => rfl) (kept.trans held) made
  have onward := (run.next step).append leads.run
  have tame' := ((started.moment _ rfl _).leads leads).2
  obtain ⟨nested, signal, last, extent⟩ := onward.extent built (Moment.above_of_call _)
  obtain ⟨answer, rfl⟩ := tame'.returned extent [] rfl rfl
  obtain ⟨final, thread⟩ := last
  obtain rfl : thread = ⟨.signal (.returned answer), added ++ .starting slot n :: frames⟩ :=
    extent.back
  exact ⟨settling, nested, u, final, answer, ⟨_, onward⟩, leads, settles, settled, started,
    tame'.state, heads, queue, extent⟩

/-- A unit of work whose start has returned lets go of its request, and keeps its slot. -/
theorem State.startReturned (s : State) (slot : SlotId) (n : Nat) (answer : Answer)
    (frames : List Frame) :
    Moment.Reaches Moment.GrantsNone
      ⟨s, ⟨.signal (.returned answer), .starting slot n :: .bound slot :: frames⟩⟩ frames
      ⟨s.release n .unit, ⟨.signal (.returned .done), frames⟩⟩ :=
  .resume (.returned answer) (.starting slot n) [.bound slot] rfl (Moment.grantsNone_signal _)
    (.resume (.returned .done) (.bound slot) [] rfl (Moment.grantsNone_signal _) (.refl _))

/-- What holds of every step that starts no slot, and of the search within, holds on the way from
the start of the execution to its return. -/
theorem Moment.EndsWithin.reaches {first : Moment} {status : Status} {settling nested : List Moment}
    {searching final : State} {answer : Answer} {holds : Moment → Prop}
    (within : first.EndsWithin slot n status t frames settling nested searching final answer)
    (quiet : ∀ m : Moment, m.GrantsNone → holds m) (all : ∀ m ∈ nested, holds m) :
    Moment.Reaches holds ⟨t.started slot, ⟨.call (.complete slot status), frames⟩⟩ frames
      ⟨final, ⟨.signal (.returned answer), frames⟩⟩ := by
  have settles : Moment.Reaches holds _ frames _ :=
    ⟨settling, within.leads, fun m mem => quiet m (within.settles m mem).1⟩
  exact settles.trans (within.extent.reaches all)

/-- A start that succeeds once its execution has come to its end leaves the slot to what has come
of that. -/
theorem Moment.EndsWithin.returns {first : Moment} {status : Status} {settling nested : List Moment}
    {searching final : State} {answer : Answer} {holds : Moment → Prop}
    (within : first.EndsWithin slot n status t (.starting slot n :: .bound slot :: frames) settling
      nested searching final answer)
    (completes : t.start slot = .call (t.started slot) (.complete slot status))
    (here : holds ⟨t, ⟨.call (.start slot), .starting slot n :: .bound slot :: frames⟩⟩)
    (quiet : ∀ m : Moment, m.GrantsNone → holds m) (all : ∀ m ∈ nested, holds m) :
    Moment.Reaches holds
      ⟨t, ⟨.call (.start slot), .starting slot n :: .bound slot :: frames⟩⟩ frames
      ⟨final.release n .unit, ⟨.signal (.returned .done), frames⟩⟩ :=
  .call (.start slot) [.starting slot n, .bound slot] completes here
    (((within.reaches quiet all).below [.starting slot n, .bound slot]).trans
      ((final.startReturned slot n answer frames).mono quiet))

/-- A start that fails although its execution has come to its end hands the slot back, and the
search begins anew. -/
theorem Moment.EndsWithin.failsLate {first : Moment} {status : Status}
    {settling nested : List Moment} {searching final : State} {answer : Answer}
    {holds : Moment → Prop} {error : BackendError}
    (within : first.EndsWithin slot n status t
      (.refuse error :: .starting slot n :: .bound slot :: frames) settling nested searching final
      answer)
    (completes : t.start slot = .await (t.started slot) (.complete slot status) (.refuse error))
    (here : holds ⟨t, ⟨.call (.start slot), .starting slot n :: .bound slot :: frames⟩⟩)
    (quiet : ∀ m : Moment, m.GrantsNone → holds m) (all : ∀ m ∈ nested, holds m) :
    ∃ u, u.queue = final.queue
      ∧ Moment.Reaches holds ⟨t, ⟨.call (.start slot), .starting slot n :: .bound slot :: frames⟩⟩
        frames ⟨u, ⟨.call .schedule, frames⟩⟩ := by
  let refused := (final.settleFailed n slot error).release n .unit
  have fails : Moment.Reaches Moment.GrantsNone
      ⟨final, ⟨.signal (.returned answer),
        [.refuse error, .starting slot n, .bound slot] ++ frames⟩⟩
      frames ⟨(refused.clearContinuation slot).handedBack slot, ⟨.call .schedule, frames⟩⟩ :=
    .resume _ (.refuse _) [_, _] rfl (Moment.grantsNone_signal _)
      (.resume _ (.starting _ _) [_] rfl (Moment.grantsNone_signal _)
        ((refused.fails slot (.failed _) rfl frames).mono fun m holds => holds.grantsNone))
  refine ⟨(refused.clearContinuation slot).handedBack slot,
    (State.undisturbed_clearContinuation refused slot).sameQueue, ?_⟩
  exact .call (.start slot) [.starting slot n, .bound slot] completes here
    (((within.reaches quiet all).below [.refuse error, .starting slot n, .bound slot]).trans
      (fails.mono quiet))

/-- A search that comes to another device first starts no slot of this one. If the starts there
fail although the executions came to their end, no unit of work is left. -/
theorem Run.others_start (built : (construct backends priorities).result = .ok s)
    (run : Run (.initial s) past ⟨t, ⟨.call .schedule, frames⟩⟩) (tame : t.Tame)
    (heads : t.Heads name) (other : name ≠ device)
    (extent : Moment.Extent ⟨t, ⟨.call .schedule, frames⟩⟩ frames passed signal last) :
    (∀ m ∈ passed, m.startOn? device = none)
      ∧ ((t.conduct name).mode = .immediateThenFail → last.state.queue = []) := by
  generalize shape : t.queue = queue
  induction queue generalizing t past passed frames signal last with
  | nil =>
      obtain ⟨none, queue⟩ := extent.looks [] rfl shape rfl (List.forall_mem_nil _)
      exact ⟨fun m mem => (none m mem).startOn? device, fun _ => queue⟩
  | cons work rest ih =>
      rcases run.attempt built tame heads shape with
        ⟨u, again, heads', queue⟩
        | ⟨u, slot, devices, id, n, complete, rfl, starts, grants, searched, queue, held⟩
      · obtain ⟨begun, later, rfl, leads, none, onward⟩ := again.onward extent
        have tame' := (tame.moment _ rfl frames).leads leads
        obtain ⟨none', left⟩ := ih (run.append leads.run) tame'.2.state heads' onward queue
        refine ⟨List.forall_mem_append.mpr ⟨fun m mem => (none m mem).startOn? device, none'⟩, ?_⟩
        rwa [((tame.moment _ rfl frames).conduct leads name).2] at left
      · obtain ⟨begun, later, rfl, leads, none, onward⟩ := starts.onward extent
        have tame' := (tame.moment _ rfl frames).leads leads
        have conduct := ((tame.moment _ rfl frames).conduct leads slot.device).2
        have run' := run.append leads.run
        -- It remains to be seen what follows from the start, which is one on the other device.
        suffices (∀ m ∈ later, m.startOn? device = .none)
            ∧ ((u.conduct slot.device).mode = .immediateThenFail → last.state.queue = []) by
          rw [conduct] at this
          exact ⟨List.forall_mem_append.mpr ⟨fun m mem => (none m mem).startOn? device, this.1⟩,
            this.2⟩
        have here (upper : List Frame) : Moment.startOn? device
            ⟨u, ⟨.call (.start slot), upper ++ frames⟩⟩ = .none := Moment.startOn?_of_ne other
        have granted := ((u.start_cases slot).resolve_left (by simp [grants])).2
        have quiet (m : Moment) (none : m.GrantsNone) : m.startOn? device = .none :=
          none.startOn? device
        have done {v : State} (eq : u.start slot = .done v) :
            ∀ m ∈ later, m.startOn? device = .none :=
          (Moment.Reaches.ends (.call (.start slot) [_, _] eq (here _)
            ((v.startReturned slot n .done frames).mono quiet)) onward).1
        -- An execution that comes to its end within the start, and the search that follows there.
        have within {added : List Frame} {status : Status} (eq : u.start slot
              = ⟨u.started slot, .call (.complete slot status), added⟩) :
            ∃ settling nested w v answer, Moment.EndsWithin (.initial s) slot n status u
                (added ++ .starting slot n :: .bound slot :: frames) settling nested w v answer
              ∧ (∀ m ∈ nested, m.startOn? device = .none)
              ∧ ((u.conduct slot.device).mode = .immediateThenFail → v.queue = []) := by
          obtain ⟨settling, nested, w, v, answer, within⟩ :=
            run'.endsWithin built tame'.2.state searched held eq
          obtain ⟨past', run''⟩ := within.run
          obtain ⟨none', left⟩ :=
            ih run'' within.tame within.heads within.extent (within.queue.trans queue)
          have conduct' : w.conduct slot.device = u.conduct slot.device :=
            ((within.started.moment _ rfl _).conduct within.leads slot.device).2
          rw [conduct'] at left
          exact ⟨settling, nested, w, v, answer, within, none', left⟩
        cases mode : (u.conduct slot.device).mode with
        | manual =>
            have eq : u.start slot = .done (u.started slot) := by
              rw [granted, State.launch, mode]
            exact ⟨done eq, fun late => by cases late⟩
        | background =>
            have eq : u.start slot = .done { u.started slot with
                due := (u.started slot).due ++ [(slot, (u.conduct slot.device).status)] } := by
              rw [granted, State.launch, mode]
            exact ⟨done eq, fun late => by cases late⟩
        | immediate =>
            have eq : u.start slot = .call (u.started slot)
                (.complete slot (u.conduct slot.device).status) := by
              rw [granted, State.launch, mode]
            obtain ⟨settling, nested, w, v, answer, within, none', -⟩ := within eq
            exact ⟨((within.returns eq (here [_, _]) quiet none').ends onward).1,
              fun late => by cases late⟩
        | immediateThenFail =>
            have eq : u.start slot = .await (u.started slot)
                (.complete slot (u.conduct slot.device).status) (.refuse Backend.failedLate) := by
              rw [granted, State.launch, mode]
            obtain ⟨settling, nested, w, v, answer, within, none', empty⟩ := within eq
            obtain ⟨x, left, fails⟩ := within.failsLate eq (here [_, _]) quiet none'
            obtain ⟨before, rest', rfl, -, none'', back⟩ := fails.onward onward
            obtain ⟨rest, queue'⟩ :=
              back.looks [] rfl (left.trans (empty mode)) rfl (List.forall_mem_nil _)
            exact ⟨List.forall_mem_append.mpr ⟨none'', fun m mem => (rest m mem).startOn? device⟩,
              fun _ => queue'⟩

end Others

end SlotDispatch
