import SlotDispatch.Proofs.Unrolling
import SlotDispatch.Proofs.Reconfiguration

/-!
Completing within a start, and completing right after it. Something comes in for a dispatcher that
only ever accepted tame requests: a request of this kind, a completion, or a priority list. It is
taken down in the state, the dispatcher searches or lets a slot complete, and the caller is
answered (`State.Opens`). The part in between is unrolled (`Run.unrolls_inner`), so both ways of
completing the executions of a device come to the same (`completing_inside_agrees`).
-/

namespace SlotDispatch

/-! ### What comes in -/

/-- Requests whose hooks do nothing but succeed or fail, completions, and priority lists. -/
def Arrival.isTame : Arrival → Bool
  | .operation (.request _ _ _ prepare complete) | .operation (.infer _ _ prepare complete) =>
      prepare.all Action.isTame && complete.all Action.isTame
  | .operation (.complete _ _) | .operation (.finish _ _) | .operation (.setPriorities _) => true
  | .completion _ _ => true
  | _ => false

/-- Whether a caller looks for the outcome of a request right away. -/
def Arrival.looks : Arrival → Bool
  | .operation (.infer _ _ _ _) => true
  | _ => false

/-- What a caller may wait for: the dispatcher has returned, or it searches, or lets a slot
complete. -/
def Control.isInner : Control → Bool
  | .signal (.returned _) | .call .schedule | .call (.complete _ _) => true
  | _ => false

/-- Once the dispatcher has returned, something may be kept for the caller, who is answered. It is
the same in two states for which the same was kept before, unless the caller looks for an
outcome. -/
def Frame.closes (frames : List Frame) (looks : Bool) : Prop :=
  ∀ (s t : State) (answer : Answer), s.pending = t.pending → ∃ kept kept' given given',
    Moment.Reaches Moment.GrantsNone ⟨s, ⟨.signal (.returned answer), frames⟩⟩ []
        ⟨{ s with pending := kept }, ⟨.signal (.returned given), []⟩⟩
      ∧ Moment.Reaches Moment.GrantsNone ⟨t, ⟨.signal (.returned answer), frames⟩⟩ []
        ⟨{ t with pending := kept' }, ⟨.signal (.returned given'), []⟩⟩
      ∧ (looks = false → kept' = kept ∧ given' = given)

/-- What comes in is taken down in the state and comes to this, in the guise as well. -/
structure State.Opens (guise : Guise) (s : State) (arrival : Arrival) (t : State)
    (control : Control) (frames : List Frame) : Prop where
  leads : ∃ passed, Moment.Leads (s.begins arrival) [] passed ⟨t, ⟨control, frames⟩⟩
  guised : ∀ pending, ∃ passed, Moment.Leads ((s.guised guise pending).begins arrival) [] passed
      ⟨t.guised guise pending, ⟨control, frames⟩⟩
    ∧ launched guise.device passed = []
  tame : t.Tame
  aside : t.aside = s.aside
  inner : control.isInner = true
  closes : Frame.closes frames arrival.looks

section Openings

variable {s : State} {action : Action} {arrival : Arrival} (device : String) (conduct : Conduct)
  (pending : List (String × Pending))

theorem Frame.closes_nil (looks : Bool) : Frame.closes [] looks :=
  fun _ _ answer same => ⟨_, _, answer, answer, .refl _, .refl _, fun _ => ⟨same.symm, rfl⟩⟩

theorem Frame.closes_answer (result : Answer) (looks : Bool) :
    Frame.closes [.answer result] looks := by
  intro s t answer same
  have answers (s : State) : Moment.Reaches Moment.GrantsNone
      ⟨s, ⟨.signal (.returned answer), [.answer result]⟩⟩ []
      ⟨s, ⟨.signal (.returned result), []⟩⟩ :=
    .resume (.returned answer) (.answer result) [] rfl (Moment.grantsNone_signal _) (.refl _)
  exact ⟨_, _, _, _, answers s, answers t, fun _ => ⟨same.symm, rfl⟩⟩

theorem Frame.closes_keep (id : String) (number : Nat) (looks : Bool) :
    Frame.closes [.keep id number] looks := by
  intro s t answer same
  have keeps (s : State) : Moment.Reaches Moment.GrantsNone
      ⟨s, ⟨.signal (.returned answer), [.keep id number]⟩⟩ []
      ⟨s.keep id number false, ⟨.signal (.returned .started), []⟩⟩ :=
    .resume (.returned answer) (.keep id number) [] rfl (Moment.grantsNone_signal _) (.refl _)
  exact ⟨_, _, _, _, keeps s, keeps t, fun _ => ⟨congrArg (assign id _) same.symm, rfl⟩⟩

/-- A caller who looks for the outcome right away waits for it if it is not there. -/
theorem Frame.closes_firstLook (id : String) (number : Nat) :
    Frame.closes [.firstLook id number] true := by
  intro s t answer same
  have looks (s : State) : ∃ kept given, Moment.Reaches Moment.GrantsNone
      ⟨s, ⟨.signal (.returned answer), [.firstLook id number]⟩⟩ []
      ⟨{ s with pending := kept }, ⟨.signal (.returned given), []⟩⟩ := by
    have looked (kept : List (String × Pending)) (given : Answer)
        (eq : (Frame.firstLook id number).resume s (.returned answer)
          = .answer { s with pending := kept } given) :
        ∃ kept given, Moment.Reaches Moment.GrantsNone
          ⟨s, ⟨.signal (.returned answer), [.firstLook id number]⟩⟩ []
          ⟨{ s with pending := kept }, ⟨.signal (.returned given), []⟩⟩ :=
      ⟨kept, given, .resume (.returned answer) _ [] eq (Moment.grantsNone_signal _) (.refl _)⟩
    cases found : s.outcome? number with
    | none => exact looked _ _ (by simp only [Frame.resume, found]; rfl)
    | some outcome =>
        exact looked s.pending (State.outcomeAnswer number true outcome)
          (by simp only [Frame.resume, found])
  obtain ⟨kept, given, looks'⟩ := looks s
  obtain ⟨kept', given', looks''⟩ := looks t
  exact ⟨kept, kept', given, given', looks', looks'', fun plain => by cases plain⟩

theorem State.setPriorities_guised (s : State) (guise : Guise) (entries : List Preference)
    (text : String) :
    (s.guised guise pending).setPriorities entries text
      = (s.setPriorities entries text).map fun t => t.guised guise pending := by
  have names : (s.guised guise pending).devices.map Device.name = s.devices.map Device.name := by
    simp only [guised, modifyDevice, List.map_map]
    refine List.map_congr_left fun device _ => ?_
    simp only [Function.comp]
    split <;> rfl
  have serving : (s.guised guise pending).serving = s.serving := rfl
  simp only [setPriorities, names, serving]
  repeat' split
  all_goals rfl

/-- A unit of work is taken in, or given up. -/
theorem State.accept_guised (s : State) (id : String) (number : Nat) (job : Job) (frame : Frame) :
    (s.guised ⟨device, conduct, []⟩ pending).accept (.request id number job) frame
      = (s.accept (.request id number job) frame).guised ⟨device, conduct, []⟩ pending := by
  have serving : (s.guised ⟨device, conduct, []⟩ pending).serving = s.serving := rfl
  simp only [accept, serving]
  split <;> rfl

/-- An operation begins alike in the guise. -/
theorem State.act_guised (tame : (Arrival.operation action).isTame = true) :
    (s.guised ⟨device, conduct, []⟩ pending).act none action
      = (s.act none action).guised ⟨device, conduct, []⟩ pending := by
  have phase : (s.guised ⟨device, conduct, []⟩ pending).phase = s.phase := rfl
  cases action with
  | request id value cancelled prepare complete =>
      simp only [act, Move.onDispatcher, phase]
      split
      · rfl
      · exact accept_guised device conduct pending { (s.addRequest cancelled).1 with
          handles := assign id s.requests.length s.handles } id _ _ _
  | infer id value prepare complete =>
      simp only [act, Move.onDispatcher, phase]
      split
      · rfl
      · exact accept_guised device conduct pending (s.addRequest false).1 id _ _ _
  | complete slot status =>
      have known : ((s.guised ⟨device, conduct, []⟩ pending).device? slot.device).isNone
          = (s.device? slot.device).isNone := by
        rw [device?_guised]
        cases s.device? slot.device <;> rfl
      have present : (s.guised ⟨device, conduct, []⟩ pending).hasSlot slot = s.hasSlot slot := rfl
      simp only [act, completeSlot, known, present]
      repeat' split
      all_goals rfl
  | finish position status =>
      have running : (s.guised ⟨device, conduct, []⟩ pending).running = s.running := rfl
      simp only [act, finish, running]
      split <;> rfl
  | setPriorities entries =>
      simp only [act, Move.onDispatcher, phase, setPriorities_guised]
      split
      · rfl
      · cases s.setPriorities entries (prioritiesText entries) <;> rfl
  | _ => cases tame

/-- It leaves devices and callers alone, and calls the dispatcher or answers. -/
theorem State.act_inner (tame : (Arrival.operation action).isTame = true) :
    (s.act none action).control.isInner = true ∧ (s.act none action).state.aside = s.aside
      ∧ Frame.closes (s.act none action).frames (Arrival.operation action).looks := by
  cases action with
  | request id value cancelled prepare complete =>
      simp only [act, Move.onDispatcher]
      split
      · exact ⟨rfl, rfl, Frame.closes_nil _⟩
      · simp only [startRequest, accept]
        split
        · exact ⟨rfl, rfl, Frame.closes_keep id _ _⟩
        · exact ⟨rfl, rfl, Frame.closes_nil _⟩
  | infer id value prepare complete =>
      simp only [act, Move.onDispatcher]
      split
      · exact ⟨rfl, rfl, Frame.closes_nil _⟩
      · simp only [startInference, accept]
        split
        · exact ⟨rfl, rfl, Frame.closes_firstLook id _⟩
        · exact ⟨rfl, rfl, Frame.closes_nil _⟩
  | complete slot status =>
      simp only [act, completeSlot]
      repeat' split
      all_goals exact ⟨rfl, rfl, Frame.closes_nil _⟩
  | finish position status =>
      simp only [act, finish]
      split
      · exact ⟨rfl, rfl, Frame.closes_nil _⟩
      · exact ⟨rfl, rfl, Frame.closes_answer _ _⟩
  | setPriorities entries =>
      simp only [act, Move.onDispatcher]
      split
      · exact ⟨rfl, rfl, Frame.closes_nil _⟩
      · cases set : s.setPriorities entries (prioritiesText entries) with
        | error error => exact ⟨rfl, rfl, Frame.closes_nil _⟩
        | ok t =>
            obtain rfl := setPriorities_eq set
            exact ⟨rfl, rfl, Frame.closes_answer _ _⟩
  | _ => cases tame

/-- A unit of work that an operation submits is tame. -/
theorem State.tame_acceptedUnit (tame : (Arrival.operation action).isTame = true) (work : Work)
    (unit : s.acceptedUnit? action = some work) : work.isTame = true := by
  cases action with
  | request | infer =>
      simp only [acceptedUnit?] at unit
      split at unit
      · obtain rfl := Option.some.inj unit
        exact tame
      · cases unit
  | complete | finish | setPriorities => simp [acceptedUnit?, Action.unit?] at unit
  | _ => cases tame

theorem State.opens_operation (tame : s.Tame) (asks : (Arrival.operation action).isTame = true) :
    s.Opens ⟨device, conduct, []⟩ (.operation action) (s.act none action).state
      (s.act none action).control (s.act none action).frames := by
  obtain ⟨inner, aside, closes⟩ := act_inner (s := s) asks
  have begins (s : State) : Moment.Leads (s.begins (.operation action)) []
      [s.begins (.operation action)]
      ⟨(s.act none action).state, ⟨(s.act none action).control, (s.act none action).frames⟩⟩ := by
    refine Moment.Leads.call (.act none action) [] rfl ?_
    simp only [List.append_nil]
    exact .refl _ _
  refine ⟨⟨_, begins s⟩, fun pending => ?_, ?_, aside, inner, closes⟩
  · have begins' := begins (s.guised ⟨device, conduct, []⟩ pending)
    rw [act_guised device conduct pending asks] at begins'
    exact ⟨_, begins', rfl⟩
  · exact ((s.acts none action).calm tame (tame_acceptedUnit asks)).state

/-- Whatever comes in of these. -/
theorem State.opens (tame : s.Tame) (asks : arrival.isTame = true) :
    ∃ t control frames, s.Opens ⟨device, conduct, []⟩ arrival t control frames := by
  cases arrival with
  | operation action => exact ⟨_, _, _, opens_operation device conduct tame asks⟩
  | completion slot status =>
      by_cases due : (slot, status) ∈ s.due
      · let t := { s with due := s.due.erase (slot, status) }
        have begins : s.begins (.completion slot status) = ⟨t, .ofCall (.complete slot status)⟩ :=
          if_pos due
        have begins' (pending : List (String × Pending)) :
            (s.guised ⟨device, conduct, []⟩ pending).begins (.completion slot status)
              = ⟨t.guised ⟨device, conduct, []⟩ pending, .ofCall (.complete slot status)⟩ :=
          if_pos due
        refine ⟨t, .call (.complete slot status), [], ⟨[], ?_⟩, fun pending => ⟨[], ?_, rfl⟩,
          ⟨tame.queue, tame.left⟩, rfl, rfl, Frame.closes_nil _⟩
        · rw [begins]
          exact .refl _ _
        · rw [begins']
          exact .refl _ _
      · have begins : s.begins (.completion slot status)
            = s.begins (.operation (.complete slot status)) := if_neg due
        have begins' (pending : List (String × Pending)) :
            (s.guised ⟨device, conduct, []⟩ pending).begins (.completion slot status)
              = (s.guised ⟨device, conduct, []⟩ pending).begins
                (.operation (.complete slot status)) :=
          if_neg due
        have opens : s.Opens ⟨device, conduct, []⟩ (.operation (.complete slot status)) _ _ _ :=
          opens_operation device conduct tame rfl
        refine ⟨_, _, _, ?_, fun pending => ?_, opens.tame, opens.aside, opens.inner, opens.closes⟩
        · rw [begins]
          exact opens.leads
        · rw [begins']
          exact opens.guised pending

end Openings

/-! ### From the beginning to the end -/

section Arrivals

variable {backends : List Backend} {priorities : List Preference} {s t : State}
  {past passed : List Moment} {last : Moment} {frames : List Frame} {slot : SlotId}
  {signal : Signal} {guise : Guise} {status given : Status} {control : Control} {arrival : Arrival}

/-- A slot that completes, whatever comes of it. -/
theorem Run.unrolls_completion (built : (construct backends priorities).result = .ok s)
    (run : Run (.initial s) past ⟨t, ⟨.call (.complete slot given), frames⟩⟩) (tame : t.Tame)
    (defers : guise.Defers status t)
    (extent : Moment.Extent ⟨t, ⟨.call (.complete slot given), frames⟩⟩ frames passed signal last) :
    t.Unrolls guise status (.call (.complete slot given)) [] signal last.state := by
  have present : t.hasSlot slot = true :=
    State.hasSlot_iff.mpr ((run.grounded built).known.control slot List.mem_cons_self)
  have tameThread := tame.moment (.complete slot given) rfl frames
  obtain ⟨u, control, reaches, rfl | rfl⟩ := tame.completes present given frames
  · obtain ⟨begun, later, rfl, leads, none, onward⟩ := reaches.onward extent
    have suits := defers.suits tameThread leads fun m mem => (none m mem).startOn? _
    have searches := (run.append leads.run).unrolls built (tameThread.leads leads).2.state
      (defers.leads tameThread leads) onward
    exact .of_leads [] [] leads tameThread suits searches
  · exact .of_quiet tameThread defers extent fun m mem =>
      ((reaches.ends extent).1 m mem).startOn? _

/-- What a caller waits for comes to its end. In the guise the completions that it comprises are
left to be done. -/
theorem Run.unrolls_inner (built : (construct backends priorities).result = .ok s)
    (run : Run (.initial s) past ⟨t, ⟨control, frames⟩⟩) (tame : t.Tame)
    (defers : guise.Defers status t) (inner : control.isInner = true) :
    ∃ passed answer last, Moment.Leads ⟨t, ⟨control, frames⟩⟩ frames passed
        ⟨last, ⟨.signal (.returned answer), frames⟩⟩
      ∧ last.aside = t.aside ∧ t.Unrolls guise status control [] (.returned answer) last := by
  have calls {call : Call} (tameCall : (Control.call call).isTame = true)
      (settled : (Control.call call).settled = true)
      (run : Run (.initial s) past ⟨t, ⟨.call call, frames⟩⟩)
      (unrolls : ∀ {passed : List Moment} {signal : Signal} {last : Moment},
        Moment.Extent ⟨t, ⟨.call call, frames⟩⟩ frames passed signal last →
          t.Unrolls guise status (.call call) [] signal last.state) :
      ∃ passed answer last, Moment.Leads ⟨t, ⟨.call call, frames⟩⟩ frames passed
          ⟨last, ⟨.signal (.returned answer), frames⟩⟩
        ∧ last.aside = t.aside
        ∧ t.Unrolls guise status (.call call) [] (.returned answer) last := by
    obtain ⟨passed, signal, last, extent⟩ := run.extent built (Moment.above_of_call frames)
    have tameThread := tame.moment call tameCall frames
    obtain ⟨answer, rfl⟩ := tameThread.returned extent [] rfl settled
    have unrolls := unrolls extent
    obtain ⟨x, thread⟩ := last
    obtain rfl : thread = ⟨.signal (.returned answer), frames⟩ := extent.back
    have leads : Moment.Leads _ frames passed _ := ⟨extent.run, extent.above⟩
    exact ⟨passed, answer, x, leads, (tameThread.aside leads).2, unrolls⟩
  cases control with
  | call call =>
      cases call with
      | schedule => exact calls rfl rfl run fun extent => run.unrolls built tame defers extent
      | complete slot given =>
          exact calls rfl rfl run fun extent => run.unrolls_completion built tame defers extent
      | _ => cases inner
  | signal signal =>
      cases signal with
      | returned answer =>
          have tameThread : Moment.Tame frames ⟨t, ⟨.signal (.returned answer), [] ++ frames⟩⟩ :=
            ⟨tame, rfl, [], rfl, List.forall_mem_nil _⟩
          have extent : Moment.Extent ⟨t, ⟨.signal (.returned answer), [] ++ frames⟩⟩ frames []
              (.returned answer) ⟨t, ⟨.signal (.returned answer), frames⟩⟩ :=
            ⟨.start, List.forall_mem_nil _, rfl⟩
          exact ⟨[], answer, t, .refl _ _, rfl, .of_quiet tameThread defers extent
            (List.forall_mem_nil _)⟩
      | _ => cases inner

/-- Whatever comes in, the same comes of it in the guise, after the slot that was started just now
has completed as long as there is one. -/
theorem Run.arrives_alike (built : (construct backends priorities).result = .ok s)
    (run : Run (.initial s) past ⟨t, ⟨.signal signal, []⟩⟩) (tame : t.Tame)
    (defers : guise.Defers status t) (gone : guise.gone = []) (asks : arrival.isTame = true) :
    ∃ pending,
      State.Drained guise.device status ((t.guised guise t.pending).arrive arrival).1
        (launched guise.device ((t.guised guise t.pending).begins arrival).course)
        ((t.arrive arrival).1.guised guise pending)
      ∧ (arrival.looks = false → pending = (t.arrive arrival).1.pending
        ∧ ((t.guised guise t.pending).arrive arrival).2 = (t.arrive arrival).2) := by
  obtain ⟨device, conduct, none⟩ := guise
  obtain rfl : none = [] := gone
  obtain ⟨u, control, frames, opens⟩ := t.opens device conduct tame asks
  obtain ⟨begun, leads⟩ := opens.leads
  obtain ⟨begun', leads', quiet⟩ := opens.guised t.pending
  have aside := Prod.mk.inj opens.aside
  have defers' : Guise.Defers ⟨device, conduct, []⟩ status u := by
    refine ⟨?_, defers.manual, List.forall_mem_nil _⟩
    rw [State.conduct_eq_backends, aside.1, ← State.conduct_eq_backends]
    exact defers.within
  have run' := (run.next (t.step_begins signal arrival)).append leads.run
  obtain ⟨passed, answer, x, inner, aside', done, started, extents, drained⟩ :=
    run'.unrolls_inner built opens.tame defers' opens.inner
  obtain ⟨passed', extent, same⟩ := extents t.pending frames
  have inner' : Moment.Leads _ frames passed' _ := ⟨extent.run, extent.above⟩
  obtain ⟨kept, kept', given, given', ⟨ending, closing, -⟩, ⟨ending', closing', none⟩, agree⟩ :=
    opens.closes x (done.guised ⟨device, conduct, []⟩ t.pending) answer
      ((Prod.mk.inj aside').2.trans aside.2)
  have whole := (leads.trans inner.bare).trans closing
  have whole' := (leads'.trans inner'.bare).trans closing'
  have steady := run.steady built
  obtain ⟨finish, -⟩ := (steady.begins arrival).finish_eq (t.above_begins arrival)
    ⟨whole.run, whole.above, rfl⟩
  obtain ⟨finish', course⟩ := ((steady.guised _ _).begins arrival).finish_eq
    ((t.guised ⟨device, conduct, []⟩ t.pending).above_begins arrival)
    ⟨whole'.run, whole'.above, rfl⟩
  have starts : launched device ((begun' ++ passed') ++ ending') = started := by
    have after : launched device ending' = [] :=
      List.filterMap_eq_nil_iff.mpr fun m mem => (none m mem).startOn? device
    simp only [launched, List.filterMap_append] at quiet same after ⊢
    rw [quiet, same, after, List.nil_append, List.append_nil]
  rw [State.arrive, State.arrive, finish, finish', course, starts]
  exact ⟨kept', drained kept', fun looks => ⟨(agree looks).1, by rw [(agree looks).2]⟩⟩

/-! ### Devices that are told how to conduct themselves -/

/-- The state in which a device conducts itself as told. -/
def State.conducting (s : State) (device : String) (conduct : Conduct) : State :=
  (s.setConduct device conduct).1

variable {device : String}

theorem State.conducting_eq_guised (known : (s.device? device).isSome = true) (conduct : Conduct) :
    s.conducting device conduct = s.guised ⟨device, conduct, []⟩ s.pending := by
  have there : (s.device? device).isNone = false := by
    rw [← Option.not_isSome, known]
    rfl
  simp only [conducting, setConduct, there, Bool.false_eq_true, if_false]
  rfl

/-- What it was told before makes no difference. -/
theorem State.guised_conducting (known : (s.device? device).isSome = true)
    (before conduct : Conduct)
    (pending : List (String × Pending)) :
    (s.conducting device before).guised ⟨device, conduct, []⟩ pending
      = s.guised ⟨device, conduct, []⟩ pending := by
  have devices : ((s.guised ⟨device, before, []⟩ s.pending).modifyDevice device fun device =>
        device.conducted conduct).devices
      = (s.modifyDevice device fun device => device.conducted conduct).devices := by
    simp only [guised, modifyDevice, List.map_map]
    refine List.map_congr_left fun other _ => ?_
    by_cases own : other.name = device
    · have own' : (other.conducted before).name = device := own
      simp only [Function.comp, if_pos own, if_pos own']
      rfl
    · simp only [Function.comp, if_neg own]
  rw [conducting_eq_guised known]
  exact congrArg (fun devices => { s with devices, pending }) devices

/-- Whether the executions on a device come to their end within their starts or right after them
makes no difference, if all work that the dispatcher ever accepted are requests whose hooks do
nothing but succeed or fail, and what comes in is one of them, a completion or a priority list. On
one side every start that the device grants completes with `status` before it returns. On the other
side the device only starts, and then, as long as there is one, the slot of the device completes
that the operation or one of these completions has just started. This comes to an end, in the same
state: queue, pools, slots, the outcomes of all requests and the log are the same, and so are what
is kept for callers and the answer to the operation. Only a caller who looks for the outcome right
away sees whether it is there yet. -/
theorem completing_inside_agrees (built : (construct backends priorities).result = .ok s)
    (run : Run (.initial s) past ⟨t, ⟨.signal signal, []⟩⟩)
    (tame : ∀ work ∈ accepted past, work.isTame = true)
    (known : (t.device? device).isSome = true) (asks : arrival.isTame = true)
    (status other : Status) (refusal : Option String) :
    ∃ pending,
      State.Drained device status
        ((t.conducting device ⟨.manual, other, refusal⟩).arrive arrival).1
        (launched device ((t.conducting device ⟨.manual, other, refusal⟩).begins arrival).course)
        (State.conducting
          { ((t.conducting device ⟨.immediate, status, refusal⟩).arrive arrival).1 with pending }
          device ⟨.manual, other, refusal⟩)
      ∧ (arrival.looks = false →
        pending = ((t.conducting device ⟨.immediate, status, refusal⟩).arrive arrival).1.pending
        ∧ ((t.conducting device ⟨.manual, other, refusal⟩).arrive arrival).2
          = ((t.conducting device ⟨.immediate, status, refusal⟩).arrive arrival).2) := by
  let prompt := t.conducting device ⟨.immediate, status, refusal⟩
  let guise : Guise := ⟨device, ⟨.manual, other, refusal⟩, []⟩
  have same : prompt = t.guised ⟨device, ⟨.immediate, status, refusal⟩, []⟩ t.pending :=
    State.conducting_eq_guised known _
  have told : Run (.initial s) _ ⟨prompt, ⟨.signal _, []⟩⟩ :=
    (run.next (.begin t signal (.conduct device ⟨.immediate, status, refusal⟩))).next
      (.call t (.act none (.conduct device ⟨.immediate, status, refusal⟩)) [])
  have tame' : prompt.Tame := by
    have rest := (run.calm built tame).state
    rw [same]
    exact ⟨rest.queue, rest.left⟩
  have defers : guise.Defers status prompt := by
    refine ⟨?_, rfl, List.forall_mem_nil _⟩
    rw [same]
    exact State.conduct_guised_self ⟨device, ⟨.immediate, status, refusal⟩, []⟩ t.pending known
  have manual : t.conducting device ⟨.manual, other, refusal⟩
      = prompt.guised guise prompt.pending := by
    have pending : prompt.pending = t.pending := by rw [same]; rfl
    rw [State.guised_conducting known, pending, State.conducting_eq_guised known]
  have after : ((prompt.arrive arrival).1.device? device).isSome = true := by
    obtain ⟨signal', -, extent⟩ := (told.steady built).extent arrival
    have later := (told.next (prompt.step_begins _ arrival)).append extent.run
    rw [State.device?_isSome_iff] at known ⊢
    exact (later.deviceNames_iff built device).mpr ((run.deviceNames_iff built device).mp known)
  obtain ⟨pending, drained, agree⟩ := told.arrives_alike built tame' defers rfl asks
  rw [← manual] at drained agree
  refine ⟨pending, ?_, agree⟩
  have known' : (State.device? { (prompt.arrive arrival).1 with pending } device).isSome = true :=
    after
  rw [State.conducting_eq_guised known']
  exact drained

end Arrivals

/-- One completion leads to two more: the hook of one request that waits fails, and two others
follow one after the other. -/
theorem completing_inside_agrees_single :
    let (past, now) := (Moment.initial (.single ⟨.manual, .ok, none⟩)).operations 60
      [.request "a" "w" false [] [], .request "b" "x" false [.fail (.ofMessage "no")] [],
        .request "c" "y" false [] [], .request "d" "z" false [] [.fail (.ofMessage "late")]]
    let arrival := Arrival.operation (.complete ⟨"A", 0⟩ .ok)
    let inside := now.state.conducting "A" ⟨.immediate, .ok, none⟩
    let after := now.state.conducting "A" ⟨.manual, .ok, none⟩
    (∀ work ∈ accepted past, work.isTame = true) ∧ (now.state.device? "A").isSome = true
      ∧ arrival.isTame = true ∧ launched "A" (after.begins arrival).course = [⟨"A", 0⟩]
      ∧ State.Drained "A" .ok (after.arrive arrival).1 [⟨"A", 0⟩]
          ((inside.arrive arrival).1.conducting "A" ⟨.manual, .ok, none⟩)
      ∧ (inside.arrive arrival).1.outcome? 2 = some (.ok ⟨2, "A", .ok, "y"⟩)
      ∧ (inside.arrive arrival).1.outcome? 3
        = some (.error (.backend "A" (.ofMessage "late"))) := by
  obtain ⟨past, t, played, tame, known, started, second, third⟩ :
      ∃ past t, (Moment.initial (.single ⟨.manual, .ok, none⟩)).operations 60
          [.request "a" "w" false [] [], .request "b" "x" false [.fail (.ofMessage "no")] [],
            .request "c" "y" false [] [], .request "d" "z" false [] [.fail (.ofMessage "late")]]
        = (past, ⟨t, ⟨.signal (.returned .started), []⟩⟩)
      ∧ (accepted past).all Work.isTame = true ∧ (t.device? "A").isSome = true
      ∧ launched "A" ((t.conducting "A" ⟨.manual, .ok, none⟩).begins
          (.operation (.complete ⟨"A", 0⟩ .ok))).course = [⟨"A", 0⟩]
      ∧ ((t.conducting "A" ⟨.immediate, .ok, none⟩).arrive
          (.operation (.complete ⟨"A", 0⟩ .ok))).1.outcome? 2 = some (.ok ⟨2, "A", .ok, "y"⟩)
      ∧ ((t.conducting "A" ⟨.immediate, .ok, none⟩).arrive
          (.operation (.complete ⟨"A", 0⟩ .ok))).1.outcome? 3
        = some (.error (.backend "A" (.ofMessage "late"))) := by
    refine ⟨_, _, rfl, by decide +kernel, by decide +kernel, by decide +kernel, by decide +kernel,
      by decide +kernel⟩
  have run := Run.operations 60 (.initial (.single ⟨.manual, .ok, none⟩))
    [.request "a" "w" false [] [], .request "b" "x" false [.fail (.ofMessage "no")] [],
      .request "c" "y" false [] [], .request "d" "z" false [] [.fail (.ofMessage "late")]]
  rw [played] at run ⊢
  have tame (work : Work) (mem : work ∈ accepted past) : work.isTame = true :=
    List.all_eq_true.mp tame work mem
  obtain ⟨pending, drained, agree⟩ := completing_inside_agrees (State.construct_single _) run tame
    known (show (Arrival.operation (.complete ⟨"A", 0⟩ .ok)).isTame = true from rfl) .ok .ok none
  obtain ⟨rfl, -⟩ := agree rfl
  rw [started] at drained
  exact ⟨tame, known, rfl, started, drained, second, third⟩

end SlotDispatch
