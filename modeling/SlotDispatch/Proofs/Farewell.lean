import SlotDispatch.Proofs.Resolution

/-!
What becomes of the requests that are outstanding when the dispatcher is dropped or shut down. A
request whose unit of work waits is abandoned at once. One that executes is on its way from then
on (`Run.resolving`), so the completion of its slot settles it, and no other. A run after a drop
keeps pace with the one after a shutdown (`State.Parted`), so a request fares there as it does
here. A completion that comes in for a slot that is done is told to nobody (`State.Deaf`).
-/

namespace SlotDispatch

/-! ### Last hooks -/

/-- Wherever the last hook of request `n` is found, it is this one. -/
structure Moment.Hooked (n : Nat) (complete : Script) (m : Moment) : Prop where
  prepares : ∀ slot id script, .preparing slot id n script ∈ m.thread.frames → script = complete
  left : ∀ slot id script, (m.state.slot slot).continuation = some (.request id n script) →
    script = complete

/-- What is found on a slot after something was left on one. -/
theorem State.continuation_setContinuation_cases (s : State) (id other : SlotId)
    (continuation : Continuation) :
    ((s.setContinuation id continuation).slot other).continuation = (s.slot other).continuation
      ∨ ((s.setContinuation id continuation).slot other).continuation = some continuation := by
  rw [setContinuation, continuation_of_leftovers (leftovers_dropContinuation _ _)]
  rcases s.slot_modifySlot_cases id other
    (fun slot => { slot with continuation := some continuation }) (by intro; rfl) with
      same | ⟨-, same⟩
  · exact .inl (congrArg Slot.continuation same)
  · exact .inr (congrArg Slot.continuation same)

section Requests

variable {backends : List Backend} {priorities : List Preference} {s t : State}
  {past path : List Moment} {first m after last now : Moment} {n : Nat} {id : String} {job : Job}
  {slot : SlotId} {value : String} {complete : Script} {signal : Signal} {status : Status}

/-- The last hook of a request is that of the job that begins. -/
theorem Moment.Step.hooked (step : m.Step after) (hooked : m.Hooked n complete)
    (own : ∀ slot id job, m.thread.control = .call (.perform slot (.request id n job)) →
      job.complete = complete) : after.Hooked n complete := by
  cases step with
  | call s call frames =>
      refine ⟨fun slot id script mem => ?_, fun slot id script left => ?_⟩
      · rcases List.mem_append.mp mem with mem | mem
        · have flows := call.flows s
          generalize call.step s = move at flows mem
          cases flows with
          | prepares at' name number job t =>
              obtain ⟨rfl, -, rfl, rfl⟩ : slot = at' ∧ id = name ∧ n = number
                ∧ script = job.complete := by simpa [Move.await] using mem
              exact own _ _ _ rfl
          | _ => simp [Move.await, Move.call, Move.signal] at mem
        · exact hooked.prepares slot id script mem
      · rcases @Call.left_cases frames s call slot with same | none | registers
        · exact hooked.left slot id script (same ▸ left)
        · rw [show ((call.step s).state.slot slot).continuation = some _ from left] at none
          cases none
        · simp only [Moment.registers?] at registers
          split at registers
          · next scope other below same =>
              obtain ⟨rfl, rfl⟩ : call = .act (some scope) (.andThen other) ∧ frames = below := by
                simpa using same
              rcases s.continuation_setContinuation_cases scope.slot slot
                (.scripted (scope.id ++ ">") other) with kept | set
              · exact hooked.left slot id script (kept.symm.trans left)
              · cases set.symm.trans left
          · next same => cases same
          · cases registers
  | resume s signal frame frames =>
      refine ⟨fun slot id script mem => ?_, fun slot id script left => ?_⟩
      · rcases List.mem_append.mp mem with mem | mem
        · have flows := frame.flows s signal
          generalize frame.resume s signal = move at flows mem
          cases flows <;> simp [Move.await, Move.call, Move.signal] at mem
        · exact hooked.prepares slot id script (List.mem_cons_of_mem _ mem)
      · rcases @Frame.left_cases frames s frame signal slot with same | none | registers
        · exact hooked.left slot id script (same ▸ left)
        · rw [show ((frame.resume s signal).state.slot slot).continuation
              = some _ from left] at none
          cases none
        · simp only [Moment.registers?] at registers
          split at registers
          · next same => cases same
          · next answer at' name number other below same =>
              obtain ⟨rfl, rfl, rfl⟩ : signal = .returned answer
                ∧ frame = .preparing at' name number other ∧ frames = below := by simpa using same
              rcases (s.modifyRequest number (Request.hold .continuation)
                ).continuation_setContinuation_cases at' slot (.request name number other)
                with kept | set
              · exact hooked.left slot id script (kept.symm.trans left)
              · obtain ⟨rfl, rfl, rfl⟩ : name = id ∧ number = n ∧ other = script := by
                  simpa using set.symm.trans left
                exact hooked.prepares _ _ _ List.mem_cons_self
          · cases registers
  | begin s signal action => exact ⟨fun _ _ _ mem => absurd mem List.not_mem_nil, hooked.left⟩
  | deliver signal earlier later due =>
      exact ⟨fun _ _ _ mem => absurd mem List.not_mem_nil, hooked.left⟩
  | drop s signal =>
      refine ⟨fun _ _ _ mem => absurd mem List.not_mem_nil, fun slot id script left => ?_⟩
      rcases s.continuation_drop slot with same | none
      · exact hooked.left slot id script (same ▸ left)
      · rw [show (s.drop.1.slot slot).continuation = some _ from left] at none
        cases none

/-- In every run the last hook of a request is that of its own job. -/
theorem Run.hooked (built : (construct backends priorities).result = .ok s)
    (run : Run (.initial s) past now)
    (own : ∀ id job, .request id n job ∈ accepted past → job.complete = complete) :
    now.Hooked n complete := by
  induction run with
  | start =>
      obtain ⟨configured, -, rfl⟩ := construct_ok built
      refine ⟨nofun, fun slot id script left => ?_⟩
      simp only [Moment.initial, State.slot_ofConfigured] at left
      cases left
  | @next past now after run step ih =>
      refine step.hooked (ih fun id job made => own id job ?_)
        fun slot id job begins => own id job ?_
      · rw [accepted_append]
        exact List.mem_append_left _ made
      · rw [accepted_append]
        exact List.mem_append_left _ (run.accepted_of_performs built begins)

/-! ### Between operations -/

/-- A unit of work that waits was accepted. -/
theorem Run.accepted_of_mem_queue {work : Work}
    (built : (construct backends priorities).result = .ok s) (run : Run (.initial s) past now)
    (waits : work ∈ now.state.queue) : work ∈ accepted past :=
  run.accepted_of_mem built (List.mem_append_right _ waits)

/-- A request that is outstanding between operations waits in the queue, or it has been started
and its continuation is left on its slot. -/
theorem Run.outstanding (built : (construct backends priorities).result = .ok s)
    (run : Run (.initial s) past ⟨t, ⟨.signal signal, []⟩⟩)
    (made : .request id n job ∈ accepted past)
    (open' : t.outcome? n = none) :
    (.request id n job ∈ t.queue ∧ history n past = [])
      ∨ ∃ slot, history n past = startedOn slot [] ∧ t.keptBy n = [slot] := by
  have holds := run.consistent built n
  have here : Moment.file n ⟨t, ⟨.signal signal, []⟩⟩
      = ⟨t.queue.countP (Work.ofRequest n), [], t.keptBy n, t.requests[n]?⟩ := rfl
  have unsettled : t.requests[n]?.bind Request.outcome = none := by
    rw [State.outcome?] at open'
    cases found : t.requests[n]? with
    | none => rfl
    | some request => rwa [found] at open'
  have known : t.requests[n]?.isSome = true := by
    rw [List.getElem?_eq_getElem (run.made made)]
    rfl
  rw [here] at holds
  generalize waits : t.queue.countP (Work.ofRequest n) = waiting at holds
  generalize t.requests[n]? = request at holds unsettled known
  generalize t.keptBy n = kept at holds ⊢
  generalize history n past = happened at holds ⊢
  cases holds with
  | unmade => cases known
  | queued =>
      obtain ⟨unit, mem, mine⟩ := List.countP_pos_iff.mp (waits ▸ Nat.one_pos)
      refine .inl ⟨?_, rfl⟩
      cases unit with
      | scripted => cases mine
      | request id' number job' =>
          obtain rfl : number = n := by simpa [Work.ofRequest] using mine
          obtain ⟨rfl, rfl⟩ := run.accepted_once made (run.accepted_of_mem_queue built mem)
          exact mem
  | granted slot => exact .inr ⟨slot, rfl, rfl⟩
  | left slot error request settled => rw [Option.bind_some, settled] at unsettled; cases unsettled
  | closed told settled =>
      rw [Option.bind_some, settled] at unsettled
      generalize Stage.reached n happened = stage at unsettled
      cases stage <;> cases unsettled

/-! ### The shutdown -/

/-- A shutdown between operations is an operation like others. -/
theorem Run.shutdown (run : Run first past ⟨t, ⟨.signal signal, []⟩⟩) (there : t.phase ≠ .dropped) :
    Run first (past ++ [⟨t, ⟨.signal signal, []⟩⟩, ⟨t, .ofCall (.act none .shutdown)⟩])
      ⟨t.shutdown, ⟨.signal (.returned .done), []⟩⟩ := by
  have ends : Moment.Step ⟨t, .ofCall (.act none .shutdown)⟩
      ⟨t.shutdown, ⟨.signal (.returned .done), []⟩⟩ := by
    have step := Moment.Step.call t (.act none .shutdown) []
    rw [Call.step, State.act, Move.onDispatcher, if_neg there] at step
    exact step
  have step := (run.next (.begin t signal .shutdown)).next ends
  rwa [List.append_assoc] at step

/-- Nothing happens to a request meanwhile, and nothing is accepted. -/
theorem history_shutdown (n : Nat) (past : List Moment) (t : State) (signal : Signal) :
    history n (past ++ [⟨t, ⟨.signal signal, []⟩⟩, ⟨t, .ofCall (.act none .shutdown)⟩])
      = history n past := by
  simp [history, Moment.happens, Thread.ofCall]

theorem faithful_shutdown (faithful : ∀ m ∈ past, m.Faithful) :
    ∀ m ∈ past ++ [⟨t, ⟨.signal signal, []⟩⟩, ⟨t, .ofCall (.act none .shutdown)⟩], m.Faithful := by
  intro m mem
  rcases List.mem_append.mp mem with mem | mem
  · exact faithful m mem
  · rcases List.mem_cons.mp mem with rfl | mem
    · exact ⟨⟨nofun, nofun⟩, nofun⟩
    · rw [List.mem_singleton.mp mem]
      refine ⟨⟨nofun, fun scope action same => ?_⟩, nofun⟩
      cases same
      rfl

/-- The requests whose units of work wait are abandoned at once. -/
theorem Run.abandoned (built : (construct backends priorities).result = .ok s)
    (run : Run (.initial s) past ⟨t, ⟨.signal signal, []⟩⟩) (there : t.phase ≠ .dropped)
    (made : .request id n job ∈ accepted past) (waits : history n past = []) :
    t.shutdown.outcome? n = some (.error .abandoned) := by
  have run' := run.shutdown there
  have empty : t.shutdown.queue = [] := (run'.emptied built t.serving_shutdown).1
  have made' : .request id n job ∈ accepted
      (past ++ [⟨t, ⟨.signal signal, []⟩⟩, ⟨t, .ofCall (.act none .shutdown)⟩]) := by
    rw [accepted_append]
    exact List.mem_append_left _ made
  have holds := run'.consistent built n
  rw [run'.outcome?_eq built made']
  rw [history_shutdown, waits] at holds ⊢
  have known :
      (Moment.file n ⟨t.shutdown, ⟨.signal (.returned .done), []⟩⟩).request.isSome = true := by
    have known : t.shutdown.requests[n]?.isSome = true := by
      rw [List.getElem?_eq_getElem (run'.made made')]
      rfl
    exact known
  have idle : (Moment.file n ⟨t.shutdown, ⟨.signal (.returned .done), []⟩⟩).waiting = 0 := by
    simp [Moment.file, State.file, Moment.waiting, Moment.inHand, Control.inHand, empty]
  generalize Moment.file n _ = file at holds known idle ⊢
  cases holds with
  | unmade => cases known
  | queued => cases idle
  | closed => rfl

/-- A request that was started is on its way then. -/
theorem Run.resolving_shutdown (built : (construct backends priorities).result = .ok s)
    (run : Run (.initial s) past ⟨t, ⟨.signal signal, []⟩⟩) (there : t.phase ≠ .dropped)
    (made : .request id n job ∈ accepted past) (told : history n past = startedOn slot [])
    (kept : t.keptBy n = [slot]) :
    Moment.Resolving n slot value job.complete []
      ⟨t.shutdown, ⟨.signal (.returned .done), []⟩⟩ := by
  have run' := run.shutdown there
  have holds := run'.consistent built n
  rw [history_shutdown, told] at holds
  have hooked := run.hooked (n := n) built fun id' job' made' =>
    congrArg Job.complete (run.accepted_once made made').2
  have never (status : Status) : ¬ CameIn [] slot status := fun ⟨_, mem, _⟩ => List.not_mem_nil mem
  refine ⟨holds, fun _ mem => absurd mem List.not_mem_nil,
    fun _ _ told => told.elim (by rintro ⟨⟩) (by rintro ⟨⟩),
    fun status came => absurd came (never status), fun status came => absurd came (never status),
    ?_, ?_, ?_⟩
  · intro upper own below same
    simp at same
  · intro own id script left
    have same : t.shutdown.slot own = t.slot own := by simp only [State.slot, t.slots_shutdown]
    exact hooked.left own id script (same ▸ left)
  · rw [Moment.outcome?_eq_file]
    have still : (Moment.file n ⟨t.shutdown, ⟨.signal (.returned .done), []⟩⟩).kept = [slot] := by
      have same : t.shutdown.keptBy n = t.keptBy n := by simp only [State.keptBy, t.slots_shutdown]
      exact same.trans kept
    have idle : (Moment.file n ⟨t.shutdown, ⟨.signal (.returned .done), []⟩⟩).traces = [] := rfl
    generalize Moment.file n _ = file at holds still idle ⊢
    cases holds with
    | granted => simp
    | closed => cases still
    | _ => cases idle

/-! ### On the way -/

/-- A request that executes stays on its way as long as nothing but completions is under way. -/
theorem Run.resolving (built : (construct backends priorities).result = .ok s)
    (before : Run (.initial s) past first) (run : Run first path last)
    (faithful : ∀ m ∈ past ++ path, m.Faithful) (winding : ∀ m ∈ path, m.Winding)
    (final : last.Winding) (made : .request id n job ∈ accepted past)
    (start : first.Resolving n slot job.value complete []) :
    last.Resolving n slot job.value complete path := by
  induction run with
  | start => exact start
  | @next path now after run step ih =>
      have here : now.Winding := winding now (by simp)
      have upTo : ∀ m ∈ past ++ path, m.Faithful := fun m mem => faithful m (by
        rw [← List.append_assoc]
        exact List.mem_append_left _ mem)
      have whole := before.append run
      have made' : .request id n job ∈ accepted (past ++ path) := by
        rw [accepted_append]
        exact List.mem_append_left _ made
      have bears := whole.bears built upTo fun id' job' other =>
        congrArg Job.value (whole.accepted_once made' other).2
      have alive {m : Moment} (winding : m.Winding) : m.state.phase ≠ .dropped := by
        obtain ⟨d, mirrors⟩ := winding
        simp [mirrors.ended]
      have resolving := ih upTo (fun m mem => winding m (List.mem_append_left _ mem)) here
      exact resolving.step here step (alive final) (whole.grounded built)
        ((whole.linked built).attached (alive here)) bears
        (faithful now (by simp)).delivered

/-- How a request fares that executes on a slot, on the way `path` to a last state: it stands as
its slot does at every moment, and is settled at the end if the completion has come in. Once it
is settled it stays so. -/
structure State.Fares (n : Nat) (slot : SlotId) (result : Status → Outcome) (path : List Moment)
    (last : State) : Prop where
  along : ∀ earlier m later, path = earlier ++ m :: later → m.Stands n slot result earlier
  waits : (∀ status, ¬ CameIn path slot status) → last.outcome? n = none
  settled : ∀ status, CameIn path slot status → last.outcome? n = some (result status)
  lasts : ∀ earlier m later outcome, path = earlier ++ m :: later →
    m.state.outcome? n = some outcome →
      (∀ other ∈ later, other.state.outcome? n = some outcome) ∧ last.outcome? n = some outcome

/-- A completion comes in while an operation is under way. -/
theorem cameIn_filter_isBusy :
    CameIn (path.filter Moment.isBusy) slot status ↔ CameIn path slot status := by
  constructor
  · rintro ⟨m, mem, completes⟩
    exact ⟨m, (List.mem_filter.mp mem).1, completes⟩
  · rintro ⟨m, mem, completes⟩
    refine ⟨m, List.mem_filter.mpr ⟨mem, ?_⟩, completes⟩
    obtain ⟨u, control, frames⟩ := m
    obtain rfl : control = .call (.complete slot status) := completes
    rfl

/-- It fares so if it is on its way when the dispatcher is shut down. -/
theorem Run.fares (built : (construct backends priorities).result = .ok s)
    (before : Run (.initial s) past first) (run : Run first path last)
    (faithful : ∀ m ∈ past ++ path, m.Faithful) (winding : ∀ m ∈ path, m.Winding)
    (final : last.Winding) (atRest : last.AtRest) (made : .request id n job ∈ accepted past)
    (start : first.Resolving n slot job.value complete []) :
    last.state.Fares n slot (ownResult n slot job.value complete) (path.filter Moment.isBusy) := by
  -- What is busy was passed through, after what was busy earlier and some rest.
  have split {earlier later : List Moment} {m : Moment}
      (same : path.filter Moment.isBusy = earlier ++ m :: later) :
      ∃ whole rest, path = whole ++ m :: rest ∧ whole.filter Moment.isBusy = earlier
        ∧ rest.filter Moment.isBusy = later := by
    obtain ⟨one, two, rfl, rfl, two'⟩ := List.filter_eq_append_iff.mp same
    obtain ⟨idle, rest, rfl, none, -, rfl⟩ := List.filter_eq_cons_iff.mp two'
    refine ⟨one ++ idle, rest, by simp, ?_, rfl⟩
    rw [List.filter_append, List.filter_eq_nil_iff.mpr none, List.append_nil]
  have stands := (before.resolving built run faithful winding final made start).stands final
  have handles : ¬ last.Handles n slot := by
    obtain ⟨signal, rest⟩ := atRest
    rintro (⟨status, told⟩ | mem)
    · rw [rest] at told
      rcases told with same | same <;> cases same
    · rw [rest] at mem
      cases mem
  refine ⟨fun earlier m later same => ?_, fun never => ?_, fun status came => ?_,
    fun earlier m later outcome same settled => ?_⟩
  · obtain ⟨whole, rest, rfl, rfl, rfl⟩ := split same
    have here := before.resolving built run.split.1
      (fun other mem => faithful other (by
        rcases List.mem_append.mp mem with mem | mem
        · exact List.mem_append_left _ mem
        · exact List.mem_append_right _ (List.mem_append_left _ mem)))
      (fun other mem => winding other (List.mem_append_left _ mem)) (winding m (by simp)) made start
    have stands := here.stands (winding m (by simp))
    exact ⟨fun never => stands.before fun status came =>
        never status (cameIn_filter_isBusy.mpr came),
      fun status came => stands.after status (cameIn_filter_isBusy.mp came)⟩
  · exact stands.before fun status came => never status (cameIn_filter_isBusy.mpr came)
  · exact (stands.after status (cameIn_filter_isBusy.mp came)).resolve_right fun open' =>
      handles open'.2
  · obtain ⟨whole, rest, rfl, -, rfl⟩ := split same
    obtain ⟨-, onward⟩ := run.split
    refine ⟨fun other mem => ?_, onward.lasting.outcome? settled⟩
    obtain ⟨between, beyond, rfl⟩ := List.append_of_mem (List.mem_filter.mp mem).1
    have onward : Run m ((m :: between) ++ other :: beyond) last := onward
    exact onward.split.1.lasting.outcome? settled

/-! ### Moments that correspond -/

/-- At two moments the same call is next, the same last hooks run, and the requests have the same
outcomes. -/
structure Moment.Corresponds (m other : Moment) : Prop where
  calls : ∀ call, m.thread.control = .call call ↔ other.thread.control = .call call
  hooks : ∀ slot n, .collecting slot n ∈ m.thread.frames ↔ .collecting slot n ∈ other.thread.frames
  outcomes : ∀ n, m.state.outcome? n = other.state.outcome? n

theorem Moment.Mirrors.corresponds (mirrors : m.Mirrors now) : m.Corresponds now := by
  refine ⟨fun call => ?_, fun slot n => ?_, mirrors.alike.outcome?⟩
  · have control := mirrors.control
    generalize m.thread.control = one at control
    generalize now.thread.control = other at control
    cases control <;> simp
  · have frames := mirrors.frames
    constructor
    · intro mem
      obtain ⟨frame, there, waits⟩ := exists_of_mem_forall₂ frames.flip mem
      cases waits
      exact there
    · intro mem
      obtain ⟨frame, there, waits⟩ := exists_of_mem_forall₂ frames mem
      cases waits
      exact there

/-- An operation is under way in both or in neither. -/
theorem Moment.Mirrors.isBusy (mirrors : m.Mirrors now) : m.isBusy = now.isBusy := by
  obtain ⟨u, control, upper⟩ := m
  obtain ⟨v, other, lower⟩ := now
  have control' : control.Mirrors other := mirrors.control
  have frames : List.Forall₂ Frame.Mirrors upper lower := mirrors.frames
  cases control' <;> cases frames <;> rfl

/-- Completions come in on both sides. -/
theorem cameIn_of_corresponds {ones others : List Moment}
    (pairs : List.Forall₂ Moment.Corresponds ones others) :
    CameIn ones slot status ↔ CameIn others slot status := by
  constructor
  · rintro ⟨m, mem, completes⟩
    obtain ⟨other, there, same⟩ := exists_of_mem_forall₂ pairs.flip mem
    exact ⟨other, there, (same.calls _).mp completes⟩
  · rintro ⟨m, mem, completes⟩
    obtain ⟨one, there, same⟩ := exists_of_mem_forall₂ pairs mem
    exact ⟨one, there, (same.calls _).mpr completes⟩

/-- A request fares in the same way on both sides. -/
theorem State.Fares.of_corresponds {result : Status → Outcome} {ones others : List Moment}
    {d h : State} (fares : h.Fares n slot result others)
    (pairs : List.Forall₂ Moment.Corresponds ones others)
    (outcomes : ∀ n, d.outcome? n = h.outcome? n) : d.Fares n slot result ones := by
  -- What was passed through on one side splits as it does on the other.
  have split {earlier later : List Moment} {m : Moment} (same : ones = earlier ++ m :: later) :
      ∃ earlier' m' later', others = earlier' ++ m' :: later'
        ∧ List.Forall₂ Moment.Corresponds earlier earlier' ∧ m.Corresponds m'
        ∧ List.Forall₂ Moment.Corresponds later later' := by
    subst same
    have front := List.forall₂_take_append others earlier (m :: later) pairs.flip
    have back := List.forall₂_drop_append others earlier (m :: later) pairs.flip
    obtain ⟨m', later', here, rest, same⟩ := List.forall₂_cons_right_iff.mp back
    exact ⟨others.take earlier.length, m', later', by rw [← same, List.take_append_drop],
      front.flip, here, rest.flip⟩
  refine ⟨fun earlier m later same => ?_, fun never => ?_, fun status came => ?_,
    fun earlier m later outcome same settled => ?_⟩
  · obtain ⟨earlier', m', later', same', front, here, -⟩ := split same
    have stands := fares.along _ _ _ same'
    refine ⟨fun never => ?_, fun status came => ?_⟩
    · rw [here.outcomes]
      exact stands.before fun status came => never status ((cameIn_of_corresponds front).mpr came)
    · rw [here.outcomes]
      refine (stands.after status ((cameIn_of_corresponds front).mp came)).imp_right ?_
      rintro ⟨open', handles⟩
      refine ⟨open', ?_⟩
      rcases handles with ⟨status, told | follows⟩ | collects
      · exact .inl ⟨status, .inl ((here.calls _).mpr told)⟩
      · exact .inl ⟨status, .inr ((here.calls _).mpr follows)⟩
      · exact .inr ((here.hooks _ _).mpr collects)
  · rw [outcomes]
    exact fares.waits fun status came => never status ((cameIn_of_corresponds pairs).mpr came)
  · rw [outcomes]
    exact fares.settled status ((cameIn_of_corresponds pairs).mp came)
  · obtain ⟨earlier', m', later', same', -, here, back⟩ := split same
    rw [here.outcomes] at settled
    obtain ⟨stays, final⟩ := fares.lasts _ _ _ _ same' settled
    refine ⟨fun other mem => ?_, (outcomes n).trans final⟩
    obtain ⟨other', there, same⟩ := exists_of_mem_forall₂ back.flip mem
    rw [← stays other' there]
    exact same.outcomes n

/-! ### Completions of slots that are done -/

/-- A completion that comes in for the slot between operations notifies nobody. -/
def State.Deaf (slot : SlotId) (s : State) : Prop :=
  ∀ status, (s.arrive (.completion slot status)).1.requests = s.requests
    ∧ (s.arrive (.completion slot status)).1.log = s.log

/-- What a completion can come to that finds nothing on its slot. -/
inductive Fades (slot : SlotId) : Control → List Frame → Prop where
  | act (status : Status) : Fades slot (.call (.act none (.complete slot status))) []
  | complete (status : Status) : Fades slot (.call (.complete slot status)) []
  | notify (status : Status) : Fades slot (.call (.notify slot status)) []
  | completing (status : Status) : Fades slot (.call (.followUp slot status)) [.completing slot]
  | parting (status : Status) (held : Bool) :
      Fades slot (.call (.followUp slot status)) [.parting slot held]
  | completed (answer : Answer) : Fades slot (.signal (.returned answer)) [.completing slot]
  | parted (answer : Answer) (held : Bool) :
      Fades slot (.signal (.returned answer)) [.parting slot held]
  | ended (answer : Answer) : Fades slot (.signal (.returned answer)) []

/-- Nothing is told of it, and nothing is left on the slot. -/
structure State.Hushed (s : State) (slot : SlotId) (t : State) : Prop where
  requests : t.requests = s.requests
  log : t.log = s.log
  ended : t.serving = false
  none : (t.slot slot).continuation = none

theorem State.Hushed.modifySlot (hushed : s.Hushed slot t) {change : Slot → Slot}
    (keeps : ∀ slot, (change slot).id = slot.id)
    (none : ∀ slot, slot.continuation = .none → (change slot).continuation = .none) :
    s.Hushed slot (t.modifySlot slot change) := by
  refine ⟨hushed.requests, hushed.log, hushed.ended, ?_⟩
  rcases t.slot_modifySlot_cases slot slot change keeps with same | ⟨-, same⟩
  · rw [same]
    exact hushed.none
  · rw [same]
    exact none _ hushed.none

theorem Call.fades_step {call : Call} {upper : List Frame} (hushed : s.Hushed slot t)
    (fades : Fades slot (.call call) upper) :
    s.Hushed slot (call.step t).state
      ∧ Fades slot (call.step t).control ((call.step t).frames ++ upper) := by
  cases fades with
  | act status =>
      simp only [step, State.act, State.completeSlot]
      repeat' split
      · exact ⟨hushed, .ended _⟩
      · exact ⟨hushed, .complete status⟩
      · exact ⟨hushed, .ended _⟩
  | complete status =>
      have changed : s.Hushed slot
          (t.modifySlot slot fun slot => { slot with output := slot.input, running := false }) :=
        hushed.modifySlot (fun _ => rfl) fun _ none => none
      simp only [step, State.complete]
      split
      · exact ⟨changed, .notify status⟩
      · exact ⟨changed, .ended _⟩
  | notify status =>
      have changed : s.Hushed slot
          (t.modifySlot slot fun slot => { slot with pinned := false, last := status }) :=
        hushed.modifySlot (fun _ => rfl) fun _ none => none
      simp only [step, State.notify]
      split
      · exact ⟨changed, .parting status _⟩
      · exact ⟨changed, .completing status⟩
  | completing status | parting status =>
      have changed : s.Hushed slot
          (t.modifySlot slot fun slot => { slot with continuation := none }) :=
        hushed.modifySlot (fun _ => rfl) fun _ _ => rfl
      rw [step, State.followUp, hushed.none]
      first | exact ⟨changed, .completed _⟩ | exact ⟨changed, .parted _ _⟩

theorem Frame.fades_resume {signal : Signal} {frame : Frame} {upper : List Frame}
    (hushed : s.Hushed slot t) (fades : Fades slot (.signal signal) (frame :: upper)) :
    s.Hushed slot (frame.resume t signal).state
      ∧ Fades slot (frame.resume t signal).control ((frame.resume t signal).frames ++ upper) := by
  cases fades with
  | completed answer =>
      simp only [resume, hushed.ended, Bool.false_eq_true, if_false]
      exact ⟨hushed, .ended _⟩
  | parted answer held =>
      cases held with
      | false => exact ⟨hushed, .ended _⟩
      | true =>
          refine ⟨?_, .ended _⟩
          have relieved : s.Hushed slot (t.relieved slot) :=
            hushed.modifySlot (fun _ => rfl) fun _ _ => rfl
          have detached : s.Hushed slot (t.detach slot) := by
            rw [State.detach_of_none hushed.none]
            exact relieved.modifySlot (fun _ => rfl) fun _ none => none
          exact detached

/-- Nobody is notified once nothing is left on the slot. -/
theorem State.Steady.deaf (steady : s.Steady) (ended : s.serving = false)
    (none : (s.slot slot).continuation = none) : s.Deaf slot := by
  intro status
  obtain ⟨signal, -, extent⟩ := steady.extent (.completion slot status)
  have start : s.Hushed slot (s.begins (.completion slot status)).state
      ∧ Fades slot (s.begins (.completion slot status)).thread.control []
      ∧ (s.begins (.completion slot status)).thread.frames = [] := by
    simp only [State.begins]
    split
    · exact ⟨⟨rfl, rfl, ended, none⟩, .complete status, rfl⟩
    · exact ⟨⟨rfl, rfl, ended, none⟩, .act status, rfl⟩
  obtain ⟨hushed, -⟩ := (extent.induction
    (fun t control upper => s.Hushed slot t ∧ Fades slot control upper)
    (fun t call upper holds => Call.fades_step holds.1 holds.2)
    (fun t signal frame upper holds => Frame.fades_resume holds.1 holds.2) [] start.2.2
    ⟨start.1, start.2.1⟩).2
  exact ⟨hushed.requests, hushed.log⟩

/-- A slot whose completion has come in does not execute any more. -/
theorem Run.still (run : Run first path last) (faithful : ∀ m ∈ path, m.Faithful)
    (winding : ∀ m ∈ path, m.Winding) (final : last.Winding) (came : CameIn path slot status) :
    (last.state.slot slot).running = false := by
  induction run with
  | start => exact absurd came fun ⟨_, mem, _⟩ => List.not_mem_nil mem
  | @next path now after run step ih =>
      have here : now.Winding := winding now (by simp)
      have there : after.state.phase ≠ .dropped := by
        obtain ⟨d, mirrors⟩ := final
        simp [mirrors.ended]
      rcases cameIn_append_singleton.mp came with came | completes
      · have still := ih (fun m mem => faithful m (List.mem_append_left _ mem))
          (fun m mem => winding m (List.mem_append_left _ mem)) here came
        cases runs : (after.state.slot slot).running with
        | false => rfl
        | true =>
            rw [here.running step runs] at still
            cases still
      · exact step.stopped completes ((faithful now (by simp)).delivered slot status completes)

/-! ### The law -/

/-- To the requests that are outstanding it is the same whether the dispatcher is dropped or shut
down. Between operations of a run of requests whose starts do not fail once the execution has
come to its end, let it end in either way, and let the same come in afterwards: completions of
slots that execute, and what does not use the dispatcher, nor do the last hooks. Then both go on
through corresponding moments with the same outcomes. A request that waits is abandoned at once.
One that executes is settled by the completion of its slot with its own result, and stays so. A
second completion of such a slot notifies nobody. -/
theorem drop_and_shutdown_settle_alike {arrivals : List Arrival}
    (built : (construct backends priorities).result = .ok s)
    (run : Run (.initial s) past ⟨t, ⟨.signal signal, []⟩⟩) (faithful : ∀ m ∈ past, m.Faithful)
    (there : t.phase ≠ .dropped) (detached : t.Detached)
    (aside : ∀ arrival ∈ arrivals, arrival.isDetached = true)
    (delivered : ∀ m ∈ t.shutdown.courses arrivals, ∀ slot status,
      m.thread.control = .call (.complete slot status) → (m.state.slot slot).running = true) :
    List.Forall₂ Moment.Corresponds (t.drop.1.courses arrivals) (t.shutdown.courses arrivals)
      ∧ (∀ n, t.drop.1.outcome? n = t.shutdown.outcome? n)
      ∧ (∀ n, (t.drop.1.arriveAll arrivals).1.outcome? n
        = (t.shutdown.arriveAll arrivals).1.outcome? n)
      ∧ (∀ id n job, .request id n job ∈ accepted past → t.outcome? n = none →
        (.request id n job ∈ t.queue ∧ t.drop.1.outcome? n = some (.error .abandoned))
          ∨ ∃ slot, t.keptBy n = [slot] ∧ (t.slot slot).running = true
            ∧ t.drop.1.outcome? n = none
            ∧ (t.drop.1.arriveAll arrivals).1.Fares n slot
              (ownResult n slot job.value job.complete) (t.drop.1.courses arrivals)
            ∧ (t.shutdown.arriveAll arrivals).1.Fares n slot
              (ownResult n slot job.value job.complete) (t.shutdown.courses arrivals))
      ∧ ∀ slot status, CameIn (t.shutdown.courses arrivals) slot status →
        (t.drop.1.arriveAll arrivals).1.Deaf slot
          ∧ (t.shutdown.arriveAll arrivals).1.Deaf slot := by
  have parted := run.parted built faithful there detached
  have run' := run.shutdown there
  have faithful' : ∀ m ∈ past ++ [⟨t, ⟨.signal signal, []⟩⟩, ⟨t, .ofCall (.act none .shutdown)⟩],
      m.Faithful := faithful_shutdown faithful
  have dropped := run.next (.drop t signal)
  have mirrors : Moment.Mirrors ⟨t.drop.1, ⟨.signal (.returned (.removed t.drop.2)), []⟩⟩
      ⟨t.shutdown, ⟨.signal (.returned .done), []⟩⟩ := ⟨parted, .returned _ _, .nil⟩
  obtain ⟨ahead, passed, final, last, side, side', pairs, mirrors', all⟩ :=
    mirrors.courses built run' faithful' (dropped.steady built) aside delivered
  have winding : ∀ m ∈ passed, m.Winding := fun m mem => by
    obtain ⟨d, -, same⟩ := exists_of_mem_forall₂ pairs mem
    exact ⟨d, same⟩
  have busy : List.Forall₂ Moment.Corresponds (t.drop.1.courses arrivals)
      (t.shutdown.courses arrivals) := by
    rw [← side.courses, ← side'.courses]
    refine (List.rel_filter (fun m now same => ?_) pairs).imp fun _ _ => Moment.Mirrors.corresponds
    simp only [same.isBusy]
  have outcomes : ∀ n, (t.drop.1.arriveAll arrivals).1.outcome? n
      = (t.shutdown.arriveAll arrivals).1.outcome? n := fun n => by
    rw [← side.final, ← side'.final]
    exact mirrors'.alike.outcome? n
  have whole := run'.append side'.run
  have among : ∀ m ∈ (past ++ [⟨t, ⟨.signal signal, []⟩⟩, ⟨t, .ofCall (.act none .shutdown)⟩])
      ++ passed, m.Faithful := fun m mem =>
    (List.mem_append.mp mem).elim (faithful' m) (all m)
  refine ⟨busy, parted.alike.outcome?, outcomes, fun id n job made open' => ?_,
    fun slot status came => ?_⟩
  · rcases run.outstanding built made open' with ⟨waits, none⟩ | ⟨slot, told, kept⟩
    · exact .inl ⟨waits, (parted.alike.outcome? n).trans (run.abandoned built there made none)⟩
    · have made' : .request id n job ∈ accepted
          (past ++ [⟨t, ⟨.signal signal, []⟩⟩, ⟨t, .ofCall (.act none .shutdown)⟩]) := by
        rw [accepted_append]
        exact List.mem_append_left _ made
      have start : Moment.Resolving n slot job.value job.complete []
          ⟨t.shutdown, ⟨.signal (.returned .done), []⟩⟩ :=
        run.resolving_shutdown built there made told kept
      have fares := run'.fares built side'.run among winding ⟨final, mirrors'⟩
        side'.atRest made' start
      rw [side'.courses, side'.final] at fares
      have left : (t.slot slot).continuation ≠ none := by
        have mem : slot ∈ t.keptBy n := by
          rw [kept]
          exact List.mem_cons_self
        rw [State.mem_keptBy (run.grounded built).distinct] at mem
        intro none
        rw [none] at mem
        cases mem
      refine .inr ⟨slot, kept, (run.pinned_iff built faithful ⟨signal, rfl⟩ there slot).2 left, ?_,
        fares.of_corresponds busy outcomes, fares⟩
      rw [parted.alike.outcome?]
      have waits := (start.stands ⟨_, mirrors⟩).before
      exact waits fun status ⟨_, mem, _⟩ => List.not_mem_nil mem
  · rw [← side'.courses, cameIn_filter_isBusy] at came
    have still := side'.run.still all winding ⟨final, mirrors'⟩ came
    have alive : last.state.phase ≠ .dropped := by simp [mirrors'.ended]
    have none : (last.state.slot slot).continuation = none := by
      by_contra left
      rw [(whole.pinned_iff built among side'.atRest alive slot).2 left] at still
      cases still
    have none' := congrArg Slot.continuation (mirrors'.alike.slot slot)
    simp only [Slot.reattached, none] at none'
    have ended : last.state.serving = false := by simp [State.serving, mirrors'.ended]
    have gone : final.state.serving = false := by simp [State.serving, mirrors'.gone]
    rw [← side.final, ← side'.final]
    exact ⟨((dropped.append side.run).steady built).deaf gone none',
      (whole.steady built).deaf ended none⟩

end Requests

/-- One slot that executes for one request, while another waits. -/
theorem drop_and_shutdown_settle_alike_single :
    let (past, now) := (Moment.initial (.single ⟨.manual, .ok, none⟩)).operations 60
      [.request "w" "z" false [] [], .request "q" "y" false [] []]
    let arrivals := [Arrival.completion ⟨"A", 0⟩ .ok]
    let (dropped, closed) := (now.state.drop.1, now.state.shutdown)
    (∀ m ∈ past, m.Faithful) ∧ (∀ m ∈ closed.courses arrivals, m.Faithful)
      ∧ List.Forall₂ Moment.Corresponds (dropped.courses arrivals) (closed.courses arrivals)
      ∧ dropped.outcome? 1 = some (.error .abandoned)
      ∧ (dropped.arriveAll arrivals).1.outcome? 0 = some (.ok ⟨0, "A", .ok, "z"⟩)
      ∧ (∃ slot, (dropped.arriveAll arrivals).1.Fares 0 slot (ownResult 0 slot "z" [])
        (dropped.courses arrivals))
      ∧ (dropped.arriveAll arrivals).1.Deaf ⟨"A", 0⟩ := by
  obtain ⟨past, t, played, faithful, faithful', there, detached, made, open', waits, came, ended,
      settled⟩ :
      ∃ past t, (Moment.initial (.single ⟨.manual, .ok, none⟩)).operations 60
          [.request "w" "z" false [] [], .request "q" "y" false [] []]
        = (past, ⟨t, ⟨.signal (.returned .started), []⟩⟩)
      ∧ past.all Moment.isFaithful = true
      ∧ (t.shutdown.courses [.completion ⟨"A", 0⟩ .ok]).all Moment.isFaithful = true
      ∧ t.phase ≠ .dropped ∧ t.Detached ∧ .request "w" 0 ⟨"z", [], []⟩ ∈ accepted past
      ∧ t.outcome? 0 = none ∧ t.queue = [.request "q" 1 ⟨"y", [], []⟩]
      ∧ CameIn (t.shutdown.courses [.completion ⟨"A", 0⟩ .ok]) ⟨"A", 0⟩ .ok
      ∧ t.shutdown.outcome? 1 = some (.error .abandoned)
      ∧ (t.shutdown.arriveAll [.completion ⟨"A", 0⟩ .ok]).1.outcome? 0
        = some (.ok ⟨0, "A", .ok, "z"⟩) := by
    refine ⟨_, _, rfl, by decide +kernel, by decide +kernel, nofun, ?_, List.mem_cons_self,
      by decide +kernel, rfl, ⟨_, List.mem_cons_of_mem _ List.mem_cons_self, rfl⟩,
      by decide +kernel, by decide +kernel⟩
    unfold State.Detached
    decide +kernel
  have run := Run.operations 60 (.initial (.single ⟨.manual, .ok, none⟩))
    [.request "w" "z" false [] [], .request "q" "y" false [] []]
  rw [played] at run ⊢
  have faithful (m : Moment) (mem : m ∈ past) : m.Faithful :=
    Moment.faithful_of_isFaithful (List.all_eq_true.mp faithful m mem)
  have faithful' (m : Moment) (mem : m ∈ t.shutdown.courses [.completion ⟨"A", 0⟩ .ok]) :
      m.Faithful := Moment.faithful_of_isFaithful (List.all_eq_true.mp faithful' m mem)
  have aside : ∀ arrival ∈ [Arrival.completion ⟨"A", 0⟩ .ok], arrival.isDetached = true := by decide
  obtain ⟨corresponds, begin', final, outstanding, deaf⟩ :=
    drop_and_shutdown_settle_alike (State.construct_single _) run faithful there detached aside
      fun m mem => (faithful' m mem).delivered
  refine ⟨faithful, faithful', corresponds, (begin' 1).trans ended, (final 0).trans settled, ?_,
    (deaf _ _ came).1⟩
  rcases outstanding _ _ _ made open' with ⟨queued, -⟩ | ⟨slot, -, -, -, fares, -⟩
  · simp [waits] at queued
  · exact ⟨slot, fares⟩

/-- Where a start fails although the execution has come to its end, a request can be lost with
the dispatcher: the slot that its unit of work has started is handed back meanwhile, and is let
go with the others. -/
theorem drop_can_lose_requests :
    ¬ ∀ (backends : List Backend) (priorities : List Preference) (s t : State)
        (past : List Moment) (signal : Signal) (arrivals : List Arrival),
      (construct backends priorities).result = .ok s →
      Run (.initial s) past ⟨t, ⟨.signal signal, []⟩⟩ → (∀ m ∈ past, m.Gentle) →
      t.phase ≠ .dropped → t.Detached → (∀ arrival ∈ arrivals, arrival.isDetached = true) →
      (∀ m ∈ t.drop.1.courses arrivals, m.Gentle) →
      (∀ m ∈ t.shutdown.courses arrivals, m.Gentle) →
      ∀ n, (t.drop.1.arriveAll arrivals).1.outcome? n
        = (t.shutdown.arriveAll arrivals).1.outcome? n := by
  intro claim
  obtain ⟨past, t, played, gentle, there, detached, dropped, closed, differ⟩ :
      ∃ past t, (Moment.initial (.single ⟨.immediateThenFail, .ok, none⟩)).operations 200
          [.request "u" "x" false [.request "v" "y" false [] []]
            [.conduct "A" ⟨.manual, .ok, none⟩],
            .request "w" "z" false [.complete ⟨"A", 0⟩ .ok] []]
        = (past, ⟨t, ⟨.signal (.returned .started), []⟩⟩)
      ∧ past.all Moment.isGentle = true ∧ t.phase ≠ .dropped ∧ t.Detached
      ∧ (t.drop.1.courses [.completion ⟨"A", 0⟩ .ok]).all Moment.isGentle = true
      ∧ (t.shutdown.courses [.completion ⟨"A", 0⟩ .ok]).all Moment.isGentle = true
      ∧ (t.drop.1.arriveAll [.completion ⟨"A", 0⟩ .ok]).1.outcome? 2
        ≠ (t.shutdown.arriveAll [.completion ⟨"A", 0⟩ .ok]).1.outcome? 2 := by
    refine ⟨_, _, rfl, by decide +kernel, nofun, ?_, by decide +kernel, by decide +kernel,
      by decide +kernel⟩
    unfold State.Detached
    decide +kernel
  have run := Run.operations 200 (.initial (.single ⟨.immediateThenFail, .ok, none⟩))
    [.request "u" "x" false [.request "v" "y" false [] []] [.conduct "A" ⟨.manual, .ok, none⟩],
      .request "w" "z" false [.complete ⟨"A", 0⟩ .ok] []]
  rw [played] at run
  have checked {moments : List Moment} (gentle : moments.all Moment.isGentle = true) :
      ∀ m ∈ moments, m.Gentle := fun m mem =>
    Moment.gentle_of_isGentle (List.all_eq_true.mp gentle m mem)
  exact differ (claim _ _ _ t past _ [.completion ⟨"A", 0⟩ .ok] (State.construct_single _) run
    (checked gentle) there detached (by decide) (checked dropped) (checked closed) 2)

end SlotDispatch
