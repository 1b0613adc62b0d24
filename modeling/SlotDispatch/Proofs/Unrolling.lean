import SlotDispatch.Proofs.Synchrony

/-!
Nested completions, one after the other. A device may let its executions come to their end within
their starts: the request that ran is settled, its slot is handed back and a search goes on, all
while the first unit of work still waits for its start to return. In another guise the device only
starts, and each of these completions comes in as an operation once the one before is over
(`State.Drained`). Both ways end in the same state (`State.Unrolls`): what the waiting frames do
in the end is no more than to let go of requests that are settled by then, and a guise tells
which units of work those are.
-/

namespace SlotDispatch

/-! ### Completions that come in one after the other -/

/-- As long as there is one, the slot that was started just now completes. These are the slots of
the device that were started, and the state that this comes to. -/
inductive State.Drained (device : String) (status : Status) :
    State → List SlotId → State → Prop where
  | done (s : State) : State.Drained device status s [] s
  | complete {s final : State} {slot : SlotId}
      (rest : State.Drained device status (s.arrive (.operation (.complete slot status))).1
        (launched device (s.begins (.operation (.complete slot status))).course) final) :
      State.Drained device status s [slot] final

/-- There is nothing to choose. -/
theorem State.Drained.unique {device : String} {status : Status} {s final other : State}
    {started : List SlotId} (drained : State.Drained device status s started final)
    (again : State.Drained device status s started other) : other = final := by
  induction drained with
  | done s =>
      cases again
      rfl
  | complete rest ih =>
      cases again with
      | complete rest' => exact ih rest'

/-! ### Conducts put off -/

/-- In the guise the device starts its slots in the same cases, and their executions do not come
to their end within that. -/
structure Guise.Defers (guise : Guise) (status : Status) (s : State) : Prop where
  within : s.conduct guise.device = ⟨.immediate, status, guise.conduct.refusal⟩
  manual : guise.conduct.mode = .manual
  fits : guise.Fits s

/-- The guise once another unit of work is gone. -/
def Guise.without (guise : Guise) (n : Nat) : Guise := { guise with gone := n :: guise.gone }

section Guises

variable {guise : Guise} {status : Status} {s t : State} {n : Nat}
  {frames upper upper' : List Frame} {first last m : Moment} {passed : List Moment}
  {control control' : Control} {signal : Signal}

theorem Guise.Fits.without (fits : guise.Fits s) (settled : (s.outcome? n).isSome = true) :
    (guise.without n).Fits s := List.forall_mem_cons.mpr ⟨settled, fits⟩

/-- A device that starts slots is there. -/
theorem Guise.Defers.known (defers : guise.Defers status s) :
    (s.device? guise.device).isSome = true := by
  have within := defers.within
  cases found : s.device? guise.device with
  | some device => rfl
  | none => simp [State.conduct, found] at within

theorem Guise.Defers.leads (defers : guise.Defers status first.state) (tame : first.Tame frames)
    (leads : first.Leads frames passed last) : guise.Defers status last.state :=
  ⟨(tame.conduct leads guise.device).2.trans defers.within, defers.manual,
    defers.fits.lasting leads.run.lasting⟩

/-- The guise suits what the thread passes through if no slot of the device is started. -/
theorem Guise.Defers.suits (defers : guise.Defers status first.state) (tame : first.Tame frames)
    (leads : first.Leads frames passed last)
    (none : ∀ m ∈ passed, m.startOn? guise.device = .none) : ∀ m ∈ passed, guise.Suits m := by
  intro m mem
  refine ⟨none m mem, ?_, .inr (defers.fits.lasting (leads.lasting mem))⟩
  rw [(tame.conduct leads guise.device).1 m mem, defers.within]

theorem State.Steady.guised (steady : s.Steady) (guise : Guise)
    (pending : List (String × Pending)) :
    (s.guised guise pending).Steady := by
  refine ⟨⟨steady.listed.distinct, fun entry mem => ?_⟩, steady.distinct⟩
  obtain ⟨device, found⟩ := Option.isSome_iff_exists.mp
    (State.device?_isSome_iff.mpr (steady.listed.known entry mem))
  refine State.device?_isSome_iff.mp ?_
  rw [State.device?_guised, found]
  rfl

/-- The first state on the way leads to the last one, if executions come to their end within their
starts. In the other guise at most one slot of the device is started on the way, and what is left
to be done for the last state are completions, one after the other. -/
def State.Unrolls (guise : Guise) (status : Status) (s : State) (control : Control)
    (upper : List Frame) (signal : Signal) (last : State) : Prop :=
  ∃ (done : State) (started : List SlotId),
    (∀ pending frames, ∃ passed,
      Moment.Extent ⟨s.guised guise pending, ⟨control, upper ++ frames⟩⟩ frames passed signal
        ⟨done.guised guise pending, ⟨.signal signal, frames⟩⟩
      ∧ launched guise.device passed = started)
    ∧ ∀ pending, State.Drained guise.device status (done.guised guise pending) started
      (last.guised guise pending)

namespace State.Unrolls

/-- Nothing is left to be done if no slot of the device is started. -/
theorem of_quiet (tame : Moment.Tame frames ⟨s, ⟨control, upper ++ frames⟩⟩)
    (defers : guise.Defers status s)
    (extent : Moment.Extent ⟨s, ⟨control, upper ++ frames⟩⟩ frames passed signal last)
    (none : ∀ m ∈ passed, m.startOn? guise.device = .none) :
    s.Unrolls guise status control upper signal last.state := by
  obtain ⟨t, thread⟩ := last
  obtain rfl : thread = ⟨.signal signal, frames⟩ := extent.back
  have leads : Moment.Leads _ frames passed ⟨t, ⟨.signal signal, [] ++ frames⟩⟩ :=
    ⟨extent.run, extent.above⟩
  have suits := defers.suits tame leads none
  refine ⟨t, [], fun pending others => ?_, fun pending => .done _⟩
  obtain ⟨passed', leads', none'⟩ := leads.guised tame suits pending others
  exact ⟨passed', ⟨leads'.run, leads'.above, rfl⟩, none'⟩

/-- It makes no difference what comes before, as long as the guise suits it. -/
theorem of_leads (upper upper' : List Frame)
    (leads : Moment.Leads ⟨s, ⟨control, upper ++ frames⟩⟩ frames passed
      ⟨t, ⟨control', upper' ++ frames⟩⟩)
    (tame : Moment.Tame frames ⟨s, ⟨control, upper ++ frames⟩⟩)
    (suits : ∀ m ∈ passed, guise.Suits m)
    {final : State} (unrolls : t.Unrolls guise status control' upper' signal final) :
    s.Unrolls guise status control upper signal final := by
  obtain ⟨done, started, extents, drained⟩ := unrolls
  refine ⟨done, started, fun pending others => ?_, drained⟩
  obtain ⟨begun, leads', none⟩ := leads.guised tame suits pending others
  obtain ⟨later, extent, same⟩ := extents pending others
  refine ⟨begun ++ later, Moment.Extent.of_leads leads' extent, ?_⟩
  rw [launched, List.filterMap_append]
  change launched guise.device begun ++ launched guise.device later = started
  rw [none, same, List.nil_append]

/-- What begins with a slot that completes may come in as an operation. -/
theorem drained {slot : SlotId} {final : State}
    (unrolls : s.Unrolls guise status (.call (.complete slot status)) [] signal final)
    (steady : s.Steady) (known : (s.device? slot.device).isSome = true)
    (present : s.hasSlot slot = true) (pending : List (String × Pending)) :
    State.Drained guise.device status (s.guised guise pending) [slot]
      (final.guised guise pending) := by
  obtain ⟨done, started, extents, drained⟩ := unrolls
  obtain ⟨passed, extent, same⟩ := extents pending []
  let arrival : Arrival := .operation (.complete slot status)
  have above := (s.guised guise pending).above_begins arrival
  have completes : Call.step (s.guised guise pending) (.act none (.complete slot status))
      = .call (s.guised guise pending) (.complete slot status) := by
    have known' : ((s.guised guise pending).device? slot.device).isNone = false := by
      obtain ⟨device, found⟩ := Option.isSome_iff_exists.mp known
      rw [device?_guised, found]
      rfl
    have present' : (s.guised guise pending).hasSlot slot = true := present
    simp only [Call.step, act, completeSlot, known', present', Bool.false_eq_true,
      if_false, if_true]
  have begins : Moment.Extent ((s.guised guise pending).begins arrival) []
      ((s.guised guise pending).begins arrival :: passed) signal
      ⟨done.guised guise pending, ⟨.signal signal, []⟩⟩ :=
    Moment.Extent.of_leads (.call _ [] completes (.refl _ _)) extent
  obtain ⟨finish, course⟩ :=
    ((steady.guised guise pending).begins arrival).finish_eq above begins
  refine .complete ?_
  rw [arrive, finish, course]
  have starts : launched guise.device ((s.guised guise pending).begins arrival :: passed)
      = started := same
  rw [starts]
  exact drained pending

end State.Unrolls

end Guises

/-! ### Executions that come to their end within their starts -/

section Searches

variable {backends : List Backend} {priorities : List Preference} {s t x : State}
  {past passed settling nested : List Moment} {last : Moment} {frames : List Frame} {slot : SlotId}
  {signal : Signal} {n : Nat} {guise : Guise} {status : Status} {searching : State}
  {answer : Answer}

/-- What goes on within a start may as well come after it. -/
theorem Moment.EndsWithin.unrolls
    (within : (Moment.initial s).EndsWithin slot n status t
      (.starting slot n :: frames) settling nested
      searching x answer)
    (built : (construct backends priorities).result = .ok s)
    (run : Run (.initial s) past
      ⟨t.started slot, ⟨.call (.complete slot status), .starting slot n :: frames⟩⟩)
    (own : slot.device = guise.device) (grants : t.grants slot = true)
    (defers : guise.Defers status t) {cancelled : Bool}
    (made : t.requests[n]? = some ⟨cancelled, [.continuation, .unit], none⟩)
    (unrolls : searching.Unrolls (guise.without n) status (.call .schedule) []
      (.returned answer) x) :
    t.Unrolls guise status (.call (.start slot)) [.starting slot n, .bound slot] (.returned .done)
      (x.release n .unit) := by
  have refusal : (t.conduct guise.device).refusal = guise.conduct.refusal := by rw [defers.within]
  have unsettled : n ∉ guise.gone := by
    intro among
    have settled := defers.fits n among
    simp [State.outcome?, made] at settled
  -- The unit of work goes before its request is settled in one guise, and after that in the other.
  have goes (pending : List (String × Pending)) :
      ((t.started slot).release n .unit).guised guise pending
        = (t.started slot).guised (guise.without n) pending := by
    refine State.guised_release_unit guise pending fun request found => ?_
    obtain rfl := Option.some.inj (found.symm.trans made)
    exact Request.release_unit_of_held List.mem_cons_self
  have gone (pending : List (String × Pending)) :
      (x.release n .unit).guised guise pending = x.guised (guise.without n) pending := by
    have settled : (x.outcome? n).isSome = true :=
      (Moment.Leads.settled ⟨within.extent.run, within.extent.above⟩ within.settled).2
    refine State.guised_release_unit guise pending fun request found => ?_
    exact Request.release_of_settled (by simpa [State.outcome?, found] using settled) .unit
  refine ⟨(t.started slot).release n .unit, [slot], fun pending others => ?_, fun pending => ?_⟩
  · have grants' : (t.guised guise pending).grants slot = true :=
      (State.guised_grants refusal slot).trans grants
    have starts : Call.step (t.guised guise pending) (.start slot)
        = .done ((t.started slot).guised guise pending) := by
      have granted :=
        (((t.guised guise pending).start_cases slot).resolve_left (by simp [grants'])).2
      refine granted.trans ?_
      rw [own, State.conduct_guised_self guise pending defers.known, State.launch, defers.manual]
      rfl
    obtain ⟨rest, leads, none⟩ :=
      State.startReturned ((t.started slot).guised guise pending) slot n .done others
    have begins := leads.call (.start slot) [.starting slot n, .bound slot] starts
    rw [State.release_guised guise pending (fun among => absurd among unsettled)] at begins
    refine ⟨_, ⟨begins.run, begins.above, rfl⟩, ?_⟩
    have here : Moment.startOn? guise.device ⟨t.guised guise pending,
        ⟨.call (.start slot), [.starting slot n, .bound slot] ++ others⟩⟩ = some slot := by
      simp [Moment.startOn?, own, grants']
    have later : launched guise.device rest = [] :=
      List.filterMap_eq_nil_iff.mpr fun m mem => (none m mem).startOn? guise.device
    rw [launched, List.filterMap_cons_some here]
    exact congrArg (slot :: ·) later
  · rw [goes, gone]
    have fits : guise.Fits (t.started slot) := defers.fits
    have tame := within.started.moment (.complete slot status) rfl (.starting slot n :: frames)
    have suits : ∀ m ∈ settling, (guise.without n).Suits m := by
      intro m mem
      obtain ⟨none, careful⟩ := within.settles m mem
      refine ⟨none.startOn? _, ?_, careful.imp id (fits.lasting (within.leads.lasting mem)).without⟩
      rw [(tame.conduct within.leads _).1 m mem]
      exact refusal
    have known : ((t.started slot).device? slot.device).isSome = true := own ▸ defers.known
    have present : (t.started slot).hasSlot slot = true :=
      State.hasSlot_iff.mpr ((run.grounded built).known.control slot List.mem_cons_self)
    exact (State.Unrolls.of_leads [] [] within.leads tame suits unrolls).drained (run.steady built)
      known present pending

/-- A search that comes to the device first. -/
theorem Run.unrolls_own (built : (construct backends priorities).result = .ok s)
    (run : Run (.initial s) past ⟨t, ⟨.call .schedule, frames⟩⟩) (tame : t.Tame)
    (defers : guise.Defers status t) (heads : t.Heads guise.device)
    (extent : Moment.Extent ⟨t, ⟨.call .schedule, frames⟩⟩ frames passed signal last) :
    t.Unrolls guise status (.call .schedule) [] signal last.state := by
  generalize shape : t.queue = queue
  induction queue generalizing t past passed frames signal last guise with
  | nil =>
      obtain ⟨none, -⟩ := extent.looks [] rfl shape rfl (List.forall_mem_nil _)
      exact .of_quiet (tame.moment _ rfl frames) defers extent fun m mem => (none m mem).startOn? _
  | cons work rest ih =>
      have tameThread := tame.moment .schedule rfl frames
      rcases run.attempt built tame heads shape with
        ⟨u, again, heads', queue⟩
        | ⟨u, slot, devices, id, n, complete, own, starts, grants, searched, queue, held⟩
      · obtain ⟨begun, later, rfl, leads, none, onward⟩ := again.onward extent
        have unrolls := ih (run.append leads.run) (tameThread.leads leads).2.state
          (defers.leads tameThread leads) heads' onward queue
        have suits := defers.suits tameThread leads fun m mem => (none m mem).startOn? _
        exact .of_leads [] [] leads tameThread suits unrolls
      · obtain ⟨begun, later, rfl, leads, none, onward⟩ := starts.onward extent
        have run' := run.append leads.run
        have tame' := (tameThread.leads leads).2.state
        have defers' := defers.leads tameThread leads
        have suits := defers.suits tameThread leads fun m mem => (none m mem).startOn? _
        refine .of_leads [] [.starting slot n, .bound slot] leads tameThread suits ?_
        have granted := ((u.start_cases slot).resolve_left (by simp [grants])).2
        have completes : u.start slot = .call (u.started slot) (.complete slot status) := by
          rw [granted, own, defers'.within]
          rfl
        obtain ⟨settling, nested, w, x, answer, within⟩ :=
          run'.endsWithin built tame' searched held completes
        obtain ⟨past', searches⟩ := within.run
        have step := Moment.Step.call u (.start slot) (.starting slot n :: .bound slot :: frames)
        rw [Call.step, completes] at step
        have tameStarted := within.started.moment (.complete slot status) rfl
          (.starting slot n :: .bound slot :: frames)
        -- What comes after the search within the start lets go of the request and no more.
        have returns : Moment.Reaches (fun _ => True) _ _ _ :=
          within.returns completes trivial (fun _ _ => trivial) fun _ _ => trivial
        obtain ⟨-, rfl, rfl⟩ := returns.ends onward
        obtain ⟨cancelled, made⟩ := run'.starting built held
        refine within.unrolls built (run'.next step) own grants defers' made ?_
        have conduct : guise.Defers status (u.started slot) :=
          ⟨defers'.within, defers'.manual, defers'.fits⟩
        have searching := conduct.leads tameStarted within.leads
        have without : (guise.without n).Defers status w :=
          ⟨searching.within, searching.manual, searching.fits.without within.settled⟩
        have heads' : w.Heads (guise.without n).device := own ▸ within.heads
        exact ih searches within.tame without heads' within.extent (within.queue.trans queue)

/-- A search. -/
theorem Run.unrolls (built : (construct backends priorities).result = .ok s)
    (run : Run (.initial s) past ⟨t, ⟨.call .schedule, frames⟩⟩) (tame : t.Tame)
    (defers : guise.Defers status t)
    (extent : Moment.Extent ⟨t, ⟨.call .schedule, frames⟩⟩ frames passed signal last) :
    t.Unrolls guise status (.call .schedule) [] signal last.state := by
  have quiet (none : ∀ m ∈ passed, m.startOn? guise.device = .none) :
      t.Unrolls guise status (.call .schedule) [] signal last.state :=
    .of_quiet (tame.moment _ rfl frames) defers extent none
  have nothing (none : t.serving = true →
      ∀ name ∈ t.priorities.map Preference.name, t.idle name = []) :
      t.Unrolls guise status (.call .schedule) [] signal last.state :=
    quiet fun m mem => (((t.finds_nothing none frames).ends extent).1 m mem).grantsNone.startOn? _
  cases serving : t.serving with
  | false => exact nothing fun serves => by simp [serving] at serves
  | true =>
      rcases t.heads_or_empty serving with ⟨name, heads⟩ | empty
      · by_cases own : name = guise.device
        · exact run.unrolls_own built tame defers (own ▸ heads) extent
        · exact quiet (run.others_start built tame heads own extent).1
      · exact nothing fun _ => empty

end Searches

end SlotDispatch
