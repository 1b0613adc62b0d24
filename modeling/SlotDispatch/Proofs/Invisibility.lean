import SlotDispatch.Proofs.Farewell
import SlotDispatch.Proofs.Hiding

/-!
A cancelled request that waits is invisible to everyone else. Whatever comes in from there on
comes to the same as without its unit of work in the queue (`State.hides_arriveAll`), unless it
counts the units that wait or asks for the outcome of the request. The request itself is settled
as cancelled when its turn comes, or is abandoned at a shutdown, and nothing else happens to it
(`State.Withdrawn`).
-/

namespace SlotDispatch

section Arrivals

variable {backends : List Backend} {priorities : List Preference} {s t : State}
  {past passed : List Moment} {last : Moment} {r : Nat} {requests : List Request} {signal : Signal}
  {arrivals : List Arrival}

/-! ### Both runs -/

/-- Whatever comes in, a run comes to its end with it. -/
theorem State.Steady.side (steady : t.Steady) (signal : Signal) (arrivals : List Arrival) :
    ∃ passed last, t.Side signal arrivals passed last := by
  induction arrivals generalizing t signal with
  | nil => exact ⟨[], _, .start, rfl, rfl, signal, rfl⟩
  | cons arrival rest ih =>
      obtain ⟨handed, -, extent⟩ := steady.extent arrival
      obtain ⟨passed, last, side⟩ := ih (steady.arrive arrival) handed
      refine ⟨⟨t, ⟨.signal signal, []⟩⟩ :: ((t.begins arrival).course ++ passed), last, ?_, ?_,
        side.final, side.atRest⟩
      · exact (Run.single (t.step_begins signal arrival)).append (extent.run.append side.run)
      · rw [List.filter_cons_of_neg (by simp [Moment.isBusy]), List.filter_append,
          extent.filter_isBusy, side.courses]
        rfl

/-- What comes in begins alike. -/
theorem State.hides_begins (same : SameBut r t.requests requests) (arrival : Arrival) :
    (t.begins arrival).Hides r ((t.lacking r requests).begins arrival) := by
  cases arrival with
  | operation action => exact ⟨requests, same, rfl⟩
  | completion slot status =>
      have due : (t.lacking r requests).due = t.due := rfl
      simp only [begins, due]
      split <;> exact ⟨requests, same, rfl⟩

/-- Nothing is in hand when something comes in. -/
theorem State.inHand_begins (t : State) (arrival : Arrival) : (t.begins arrival).inHand = [] := by
  cases arrival with
  | operation action => rfl
  | completion slot status =>
      simp only [begins]
      split <;> rfl

/-- Nothing is called between operations. -/
theorem State.considerate_signal (t : State) (signal : Signal) :
    Moment.Considerate ⟨t, ⟨.signal signal, []⟩⟩ where
  delivered slot status calls := by cases calls
  acts scope action calls := by cases calls
  starts slot calls := by cases calls

/-- Whatever comes in comes to the same without the unit of a cancelled request, and all other
units begin in the same order and on the same slots. -/
theorem State.hides_arriveAll (built : (construct backends priorities).result = .ok s)
    (run : Run (.initial s) past ⟨t, ⟨.signal signal, []⟩⟩)
    (veiled : Moment.Veiled r past ⟨t, ⟨.signal signal, []⟩⟩)
    (same : SameBut r t.requests requests)
    (considerate : ∀ m ∈ t.courses arrivals, m.Awaits r → m.Considerate)
    (ignores : ∀ m ∈ t.courses arrivals, ∀ scope action,
      m.thread.control = .call (.act scope action) → m.state.ignores r action = true) :
    ∃ requests', SameBut r (t.arriveAll arrivals).1.requests requests'
      ∧ (t.lacking r requests).arriveAll arrivals
        = ((t.arriveAll arrivals).1.lacking r requests', (t.arriveAll arrivals).2)
      ∧ ((t.lacking r requests).courses arrivals).flatMap Moment.assigns
        = ((t.courses arrivals).flatMap Moment.assigns).filter
            fun assigned => !assigned.2.ofRequest r := by
  induction arrivals generalizing past t signal requests with
  | nil => exact ⟨requests, same, rfl, rfl⟩
  | cons arrival rest ih =>
      have steady := run.steady built
      have steady' : (t.lacking r requests).Steady :=
        ⟨⟨steady.listed.distinct, steady.listed.known⟩, steady.distinct⟩
      have among {m : Moment} (mem : m ∈ (t.begins arrival).course) :
          m ∈ t.courses (arrival :: rest) := List.mem_append_left _ mem
      have later {m : Moment} (mem : m ∈ (t.arrive arrival).1.courses rest) :
          m ∈ t.courses (arrival :: rest) := List.mem_append_right _ mem
      obtain ⟨handed, hands, extent⟩ := steady.extent arrival
      have step := t.step_begins signal arrival
      have there : (t.begins arrival).state.phase ≠ .dropped := by
        cases arrival with
        | operation action => exact veiled.there
        | completion slot status =>
            simp only [begins]
            split <;> exact veiled.there
      have begun := veiled.next built run step (fun _ => t.considerate_signal signal) there
      obtain ⟨passed', last', extent', hides, assigned⟩ :=
        (State.hides_begins same arrival).extent built (run.next step) begun
          (by simp [t.inHand_begins arrival]) extent (fun m mem => considerate m (among mem))
          fun m mem => ignores m (among mem)
      obtain ⟨finishes, passes⟩ := (steady'.begins arrival).finish_eq
        ((t.lacking r requests).above_begins arrival) extent'
      obtain ⟨requests', same', rfl⟩ := hides
      have arrives : (t.lacking r requests).arrive arrival
          = ((t.arrive arrival).1.lacking r requests', some handed) := finishes
      have veiled' := begun.onward built (run.next step) ⟨extent.run, extent.above⟩
        fun m mem => considerate m (among mem)
      obtain ⟨last, same'', final, assigned'⟩ :=
        ih ((run.next step).append extent.run) veiled' same'
        (fun m mem => considerate m (later mem)) fun m mem => ignores m (later mem)
      refine ⟨last, same'', ?_, ?_⟩
      · simp only [arriveAll, arrives, final, hands]
      · have course : ((t.lacking r requests).begins arrival).course = passed' := passes
        simp only [courses, course, arrives, List.flatMap_append, List.filter_append, assigned,
          assigned']

/-! ### What becomes of the request -/

/-- What becomes of a cancelled request on a way: nothing happens to it but that it is found
cancelled when its turn comes. None of its hooks runs, and no slot is started for it. -/
structure State.Withdrawn (r : Nat) (path : List Moment) (last : State) : Prop where
  happened : ∀ happening ∈ history r path, ∃ slot, happening = .begun slot true
  apart : ∀ m ∈ path, ∀ frame ∈ m.thread.frames, frame.ofRequest r = false
  popped : history r path ≠ [] → last.outcome? r = some (.error .cancelled)
  waits : history r path = [] → last.serving = true →
    last.outcome? r = none ∧ ∃ work ∈ last.queue, work.ofRequest r = true
  discarded : history r path = [] → last.serving = false →
    last.outcome? r = some (.error .abandoned)

/-- Nothing happens to a request between operations. -/
theorem history_filter_isBusy (n : Nat) (path : List Moment) :
    history n (path.filter Moment.isBusy) = history n path := by
  induction path with
  | nil => rfl
  | cons m rest ih =>
      by_cases busy : m.isBusy = true
      · rw [List.filter_cons_of_pos busy]
        exact congrArg (m.happens n ++ ·) ih
      · rw [List.filter_cons_of_neg busy]
        have idle : m.happens n = [] := by
          obtain ⟨u, control, frames⟩ := m
          cases control with
          | call call => exact absurd rfl busy
          | signal signal =>
              cases frames with
              | nil => exact Moment.happens_between signal
              | cons => exact absurd (by cases signal <;> rfl) busy
        rw [ih]
        change _ = m.happens n ++ history n rest
        rw [idle, List.nil_append]

/-- A request that begins while it is cancelled is found cancelled. -/
theorem Moment.not_begun_of_cancelled {m : Moment} {slot : SlotId}
    (cancelled : m.state.isCancelled r = true) : .begun slot false ∉ m.happens r := by
  intro begun
  obtain ⟨id, job, performs⟩ := Moment.performs_of_begun begun
  obtain ⟨u, control, frames⟩ := m
  obtain rfl : control = .call (.perform slot (.request id r job)) := performs
  have cancelled : u.isCancelled r = true := cancelled
  simp [Moment.happens, State.beginning, cancelled] at begun

/-- Something happens to a request when its unit of work begins. -/
theorem Moment.happens_ne_nil {m : Moment} {id : String} {job : Job}
    (begins : .request id r job ∈ m.begins) : m.happens r ≠ [] := by
  obtain ⟨u, control, frames⟩ := m
  cases control with
  | signal => cases begins
  | call call =>
      cases call with
      | perform slot work =>
          obtain rfl : .request id r job = work := List.mem_singleton.mp begins
          simp only [Moment.happens, if_true, State.beginning]
          split
          · simp
          · split <;> simp
      | _ => cases begins

/-- A history in which a request is never found not to be cancelled. -/
theorem Told.eq_of_not_begun {history : List Happening} (told : Told history)
    (never : ∀ slot, .begun slot false ∉ history) :
    history = [] ∨ ∃ slot, history = [.begun slot true] := by
  cases told with
  | nothing => exact .inl rfl
  | cancelled slot => exact .inr ⟨slot, rfl⟩
  | begun slot => exact absurd List.mem_cons_self (never slot)
  | unprepared slot => exact absurd List.mem_cons_self (never slot)
  | ended slot => exact absurd List.mem_cons_self (never slot)
  | refused slot => exact absurd List.mem_cons_self (never slot)

/-- A cancelled request that waits is withdrawn on every way. -/
theorem Run.withdrawn (built : (construct backends priorities).result = .ok s)
    (run : Run (.initial s) past ⟨t, ⟨.signal signal, []⟩⟩)
    (awaits : Moment.Awaits r ⟨t, ⟨.signal signal, []⟩⟩) (cancelled : t.isCancelled r = true)
    (side : t.Side signal arrivals passed last) :
    (t.arriveAll arrivals).1.Withdrawn r (t.courses arrivals) := by
  have whole := run.append side.run
  obtain ⟨before, -, -, -, -⟩ := run.awaited built awaits
  obtain ⟨unit, queued, own⟩ := awaits
  obtain ⟨id, job, rfl⟩ : ∃ id job, unit = .request id r job := by
    cases unit with
    | scripted => cases own
    | request id number job =>
        obtain rfl : number = r := by simpa [Work.ofRequest] using own
        exact ⟨id, job, rfl⟩
  have made : .request id r job ∈ accepted (past ++ passed) := by
    rw [accepted_append]
    exact List.mem_append_left _ (run.accepted_of_mem_queue built queued)
  have upTo : history r (past ++ passed) = history r passed := by
    rw [history_append, before, List.nil_append]
  have never (slot : SlotId) : .begun slot false ∉ history r passed := by
    intro begun
    obtain ⟨m, mem, begins⟩ := List.mem_flatMap.mp begun
    obtain ⟨earlier, later, rfl⟩ := List.append_of_mem mem
    exact Moment.not_begun_of_cancelled (side.run.split.1.lasting.isCancelled cancelled) begins
  have consistent := whole.consistent built r
  have outcome := whole.outcome?_eq built made
  rw [upTo] at consistent outcome
  rw [← side.courses, ← side.final]
  obtain ⟨handed, rest⟩ := side.atRest
  refine ⟨?_, ?_, ?_, ?_, ?_⟩
  · rw [history_filter_isBusy]
    intro happening mem
    rcases consistent.told.eq_of_not_begun never with none | ⟨slot, only⟩
    · rw [none] at mem
      cases mem
    · rw [only] at mem
      exact ⟨slot, List.mem_singleton.mp mem⟩
  · intro m mem frame there
    apply Bool.eq_false_iff.mpr
    intro own
    obtain ⟨earlier, holds, among⟩ :=
      whole.consistent_of_mem built (List.mem_append_right _ (List.mem_filter.mp mem).1) r
    obtain ⟨slot, begun⟩ := holds.begun_of_trace (Moment.mem_traces there own)
    exact never slot (upTo ▸ among begun)
  · rw [history_filter_isBusy]
    intro some
    obtain ⟨slot, only⟩ := (consistent.told.eq_of_not_begun never).resolve_left some
    rw [outcome, only]
    rfl
  · rw [history_filter_isBusy]
    intro none serving
    have unrun : .request id r job ∉ ran (past ++ passed) := by
      intro begun
      obtain ⟨m, mem, begins⟩ := List.mem_flatMap.mp begun
      refine Moment.happens_ne_nil begins
        (List.eq_nil_iff_forall_not_mem.mpr fun happening here => ?_)
      have happened : happening ∈ history r (past ++ passed) := List.mem_flatMap.mpr ⟨m, mem, here⟩
      rw [upTo, none] at happened
      cases happened
    have idle : last.inHand = [] := by rw [Moment.inHand, rest]; rfl
    have waits : .request id r job ∈ last.state.queue := by
      rw [whole.accepted_eq built serving, idle, List.append_nil] at made
      exact (List.mem_append.mp made).resolve_left unrun
    have own : Work.ofRequest r (.request id r job) = true := by simp [Work.ofRequest]
    obtain ⟨-, -, -, -, flag, found⟩ := whole.awaited built ⟨_, waits, own⟩
    exact ⟨by simp [State.outcome?, found], _, waits, own⟩
  · rw [history_filter_isBusy]
    intro none ended
    obtain ⟨empty, inHand⟩ := whole.emptied built ended
    have known : (last.file r).request.isSome = true := by
      have found := List.getElem?_eq_getElem (whole.made made)
      simp [Moment.file, State.file, found]
    have idle : (last.file r).waiting = 0 := by
      simp [Moment.file, State.file, Moment.waiting, inHand, empty]
    rw [none] at consistent outcome
    rw [outcome]
    generalize last.file r = file at consistent known idle ⊢
    cases consistent with
    | unmade => cases known
    | queued => cases idle
    | closed => rfl

/-! ### The law -/

/-- Whether at this moment nobody counts the units that wait or asks for the outcome of request
`r`. -/
def Moment.ignores (r : Nat) (m : Moment) : Bool :=
  match m.thread.control with
  | .call (.act _ action) => m.state.ignores r action
  | _ => true

/-- Whether at this moment somebody counts the units that wait. -/
def Moment.countsQueue (m : Moment) : Bool :=
  match m.thread.control with
  | .call (.act _ .state) => true
  | _ => false

theorem Moment.ignores_act {m : Moment} {scope : Option Scope} {action : Action}
    (ignores : m.ignores r = true) (acts : m.thread.control = .call (.act scope action)) :
    m.state.ignores r action = true := by
  rw [Moment.ignores, acts] at ignores
  exact ignores

/-- A faithful moment is considerate. -/
theorem Moment.Faithful.considerate {m : Moment} (faithful : m.Faithful) : m.Considerate := by
  refine ⟨faithful.delivered, fun scope action acts => ?_, faithful.starts⟩
  have gentle := faithful.acts scope action acts
  cases action <;> first | exact gentle | rfl

/-- A cancelled request that waits is invisible to everyone else. In a run of requests whose starts
do not fail once the execution has come to its end, let request `r` wait in the queue, cancelled,
and compare what comes in from there on with what it comes to without the unit of `r`: if nobody
counts the units that wait or asks for the outcome of `r`, and nothing but requests runs as long
as `r` waits, then every operation hands back the same, the same is noted, all other units begin
in the same order and on the same slots, all other requests have the same outcomes, and the states
differ in nothing but the unit of `r` and what `r` has come to. Request `r` itself is neither
prepared nor started; it is settled as cancelled when its turn comes, or abandoned at a shutdown. -/
theorem cancelled_requests_are_invisible
    (built : (construct backends priorities).result = .ok s)
    (run : Run (.initial s) past ⟨t, ⟨.signal signal, []⟩⟩) (faithful : ∀ m ∈ past, m.Faithful)
    (there : t.phase ≠ .dropped) (waits : ∃ work ∈ t.queue, work.ofRequest r = true)
    (cancelled : t.isCancelled r = true) (same : SameBut r t.requests requests)
    (considerate : ∀ m ∈ t.courses arrivals, m.Awaits r → m.Considerate)
    (ignores : ∀ m ∈ t.courses arrivals, m.ignores r = true) :
    ((t.lacking r requests).arriveAll arrivals).2 = (t.arriveAll arrivals).2
      ∧ ((t.lacking r requests).arriveAll arrivals).1.log = (t.arriveAll arrivals).1.log
      ∧ ((t.lacking r requests).courses arrivals).flatMap Moment.assigns
        = ((t.courses arrivals).flatMap Moment.assigns).filter
            (fun assigned => !assigned.2.ofRequest r)
      ∧ (∀ n, n ≠ r → ((t.lacking r requests).arriveAll arrivals).1.outcome? n
        = (t.arriveAll arrivals).1.outcome? n)
      ∧ (∃ requests', SameBut r (t.arriveAll arrivals).1.requests requests'
        ∧ ((t.lacking r requests).arriveAll arrivals).1
          = (t.arriveAll arrivals).1.lacking r requests')
      ∧ (t.arriveAll arrivals).1.Withdrawn r (t.courses arrivals) := by
  have awaits : Moment.Awaits r ⟨t, ⟨.signal signal, []⟩⟩ := waits
  obtain ⟨-, -, -, -, flag, found⟩ := run.awaited built awaits
  have veiled : Moment.Veiled r past ⟨t, ⟨.signal signal, []⟩⟩ :=
    ⟨(List.getElem?_eq_some_iff.mp found).1, cancelled,
      fun _ => run.governed built faithful there, nofun, there⟩
  obtain ⟨requests', same', final, assigned⟩ := State.hides_arriveAll built run veiled same
    considerate fun m mem scope action acts => Moment.ignores_act (ignores m mem) acts
  obtain ⟨passed, last, side⟩ := (run.steady built).side signal arrivals
  refine ⟨by rw [final], by rw [final]; rfl, assigned, fun n other => ?_,
    ⟨requests', same', by rw [final]⟩, run.withdrawn built awaits cancelled side⟩
  rw [final]
  exact State.outcome?_recast same' other

end Arrivals

/-- A cancelled request waits for a slot ahead of another. -/
theorem cancelled_requests_are_invisible_single :
    let (past, now) := (Moment.initial (.single ⟨.manual, .ok, none⟩)).operations 60
      [.setPriorities [], .request "r" "q" false [] [], .cancel "r", .request "w" "z" false [] []]
    let arrivals := [Arrival.operation (.setPriorities [⟨"A", none⟩]), .completion ⟨"A", 0⟩ .ok]
    let without := now.state.lacking 0 now.state.requests
    (∀ m ∈ past, m.Faithful) ∧ now.state.queue.length = 2 ∧ now.state.isCancelled 0 = true
      ∧ (∀ m ∈ now.state.courses arrivals, m.Considerate ∧ m.ignores 0 = true)
      ∧ (without.arriveAll arrivals).1.log = (now.state.arriveAll arrivals).1.log
      ∧ (without.arriveAll arrivals).1.outcome? 1 = some (.ok ⟨1, "A", .ok, "z"⟩)
      ∧ (now.state.arriveAll arrivals).1.outcome? 0 = some (.error .cancelled) := by
  obtain ⟨past, t, played, faithful, faithful', ignores, there, queue, waits, cancelled, popped,
      settled⟩ :
      ∃ past t, (Moment.initial (.single ⟨.manual, .ok, none⟩)).operations 60
          [.setPriorities [], .request "r" "q" false [] [], .cancel "r",
            .request "w" "z" false [] []]
        = (past, ⟨t, ⟨.signal (.returned .started), []⟩⟩)
      ∧ past.all Moment.isFaithful = true
      ∧ (t.courses [.operation (.setPriorities [⟨"A", none⟩]), .completion ⟨"A", 0⟩ .ok]).all
          Moment.isFaithful = true
      ∧ (t.courses [.operation (.setPriorities [⟨"A", none⟩]), .completion ⟨"A", 0⟩ .ok]).all
          (Moment.ignores 0) = true
      ∧ t.phase ≠ .dropped ∧ t.queue.length = 2
      ∧ (∃ work ∈ t.queue, work.ofRequest 0 = true) ∧ t.isCancelled 0 = true
      ∧ (history 0 (t.courses
          [.operation (.setPriorities [⟨"A", none⟩]), .completion ⟨"A", 0⟩ .ok])).length = 1
      ∧ (t.arriveAll [.operation (.setPriorities [⟨"A", none⟩]),
          .completion ⟨"A", 0⟩ .ok]).1.outcome? 1
        = some (.ok ⟨1, "A", .ok, "z"⟩) := by
    refine ⟨_, _, rfl, by decide +kernel, by decide +kernel, by decide +kernel, nofun, rfl,
      ⟨_, List.mem_cons_self, rfl⟩, by decide +kernel, by decide +kernel, by decide +kernel⟩
  have run := Run.operations 60 (.initial (.single ⟨.manual, .ok, none⟩))
    [.setPriorities [], .request "r" "q" false [] [], .cancel "r", .request "w" "z" false [] []]
  rw [played] at run ⊢
  have faithful (m : Moment) (mem : m ∈ past) : m.Faithful :=
    Moment.faithful_of_isFaithful (List.all_eq_true.mp faithful m mem)
  have considerate (m : Moment) (mem : m ∈ t.courses
      [.operation (.setPriorities [⟨"A", none⟩]), .completion ⟨"A", 0⟩ .ok]) : m.Considerate :=
    (Moment.faithful_of_isFaithful (List.all_eq_true.mp faithful' m mem)).considerate
  have ignores := List.all_eq_true.mp ignores
  obtain ⟨-, log, -, outcomes, -, withdrawn⟩ :=
    cancelled_requests_are_invisible (State.construct_single _) run faithful there waits cancelled
      (SameBut.refl 0 t.requests) (fun m mem _ => considerate m mem) ignores
  have some : history 0 (t.courses
      [.operation (.setPriorities [⟨"A", none⟩]), .completion ⟨"A", 0⟩ .ok]) ≠ [] := by
    intro none
    rw [none] at popped
    cases popped
  exact ⟨faithful, queue, cancelled, fun m mem => ⟨considerate m mem, ignores m mem⟩, log,
    (outcomes 1 (by decide)).trans settled, withdrawn.popped some⟩

/-- Where a start fails although the execution has come to its end, a cancelled request that waits
can make a difference to others: the slot that was handed back carries the marks of a unit of work,
and the detour takes them off. So can one for whose outcome the hook of another request asks. -/
theorem cancelled_requests_can_be_visible :
    (¬ ∀ (backends : List Backend) (priorities : List Preference) (s t : State)
        (past : List Moment) (signal : Signal) (r : Nat) (arrivals : List Arrival),
      (construct backends priorities).result = .ok s →
      Run (.initial s) past ⟨t, ⟨.signal signal, []⟩⟩ → (∀ m ∈ past, m.Gentle) →
      t.phase ≠ .dropped → (∃ work ∈ t.queue, work.ofRequest r = true) →
      t.isCancelled r = true → (∀ m ∈ t.courses arrivals, m.Gentle ∧ m.ignores r = true) →
      ((t.lacking r t.requests).arriveAll arrivals).1.log = (t.arriveAll arrivals).1.log)
    ∧ ¬ ∀ (backends : List Backend) (priorities : List Preference) (s t : State)
        (past : List Moment) (signal : Signal) (r : Nat) (arrivals : List Arrival),
      (construct backends priorities).result = .ok s →
      Run (.initial s) past ⟨t, ⟨.signal signal, []⟩⟩ → (∀ m ∈ past, m.Faithful) →
      t.phase ≠ .dropped → (∃ work ∈ t.queue, work.ofRequest r = true) →
      t.isCancelled r = true → (∀ m ∈ t.courses arrivals, m.Faithful ∧ m.countsQueue = false) →
      ((t.lacking r t.requests).arriveAll arrivals).1.log = (t.arriveAll arrivals).1.log := by
  constructor
  · intro claim
    obtain ⟨past, t, played, gentle, there, waits, cancelled, gentle', ignores, differ⟩ :
        ∃ past t, (Moment.initial (.single ⟨.immediateThenFail, .ok, none⟩)).operations 200
            [.request "u" "x" false [.request "v" "y" false [] []]
                [.conduct "A" ⟨.manual, .ok, none⟩],
              .request "w" "z" false [.complete ⟨"A", 0⟩ .ok] [], .setPriorities [],
              .request "r" "q" false [] [], .cancel "r"]
          = (past, ⟨t, ⟨.signal (.returned (.cancelled (some false) true)), []⟩⟩)
        ∧ past.all Moment.isGentle = true ∧ t.phase ≠ .dropped
        ∧ (∃ work ∈ t.queue, work.ofRequest 3 = true) ∧ t.isCancelled 3 = true
        ∧ (t.courses [.operation (.request "t" "k" false [.complete ⟨"A", 0⟩ .ok] []),
            .operation (.setPriorities [⟨"A", none⟩])]).all Moment.isGentle = true
        ∧ (t.courses [.operation (.request "t" "k" false [.complete ⟨"A", 0⟩ .ok] []),
            .operation (.setPriorities [⟨"A", none⟩])]).all (Moment.ignores 3) = true
        ∧ ((t.lacking 3 t.requests).arriveAll
            [.operation (.request "t" "k" false [.complete ⟨"A", 0⟩ .ok] []),
              .operation (.setPriorities [⟨"A", none⟩])]).1.log
          ≠ (t.arriveAll [.operation (.request "t" "k" false [.complete ⟨"A", 0⟩ .ok] []),
              .operation (.setPriorities [⟨"A", none⟩])]).1.log := by
      exact ⟨_, _, rfl, by decide +kernel, nofun, ⟨_, List.mem_cons_self, rfl⟩, by decide +kernel,
        by decide +kernel, by decide +kernel, by decide +kernel⟩
    have run := Run.operations 200 (.initial (.single ⟨.immediateThenFail, .ok, none⟩))
      [.request "u" "x" false [.request "v" "y" false [] []] [.conduct "A" ⟨.manual, .ok, none⟩],
        .request "w" "z" false [.complete ⟨"A", 0⟩ .ok] [], .setPriorities [],
        .request "r" "q" false [] [], .cancel "r"]
    rw [played] at run
    exact differ (claim _ _ _ t past _ 3 _ (State.construct_single _) run
      (fun m mem => Moment.gentle_of_isGentle (List.all_eq_true.mp gentle m mem)) there waits
      cancelled fun m mem => ⟨Moment.gentle_of_isGentle (List.all_eq_true.mp gentle' m mem),
        List.all_eq_true.mp ignores m mem⟩)
  · intro claim
    obtain ⟨past, t, played, faithful, there, waits, cancelled, faithful', counts, differ⟩ :
        ∃ past t, (Moment.initial (.single ⟨.manual, .ok, none⟩)).operations 60
            [.setPriorities [], .request "r" "q" false [] [], .cancel "r"]
          = (past, ⟨t, ⟨.signal (.returned (.cancelled (some false) true)), []⟩⟩)
        ∧ past.all Moment.isFaithful = true ∧ t.phase ≠ .dropped
        ∧ (∃ work ∈ t.queue, work.ofRequest 0 = true) ∧ t.isCancelled 0 = true
        ∧ (t.courses [.operation (.request "t" "k" false [.tryOutcome "r"] []),
            .operation (.setPriorities [⟨"A", none⟩])]).all Moment.isFaithful = true
        ∧ (t.courses [.operation (.request "t" "k" false [.tryOutcome "r"] []),
            .operation (.setPriorities [⟨"A", none⟩])]).all (fun m => !m.countsQueue) = true
        ∧ ((t.lacking 0 t.requests).arriveAll
            [.operation (.request "t" "k" false [.tryOutcome "r"] []),
              .operation (.setPriorities [⟨"A", none⟩])]).1.log
          ≠ (t.arriveAll [.operation (.request "t" "k" false [.tryOutcome "r"] []),
              .operation (.setPriorities [⟨"A", none⟩])]).1.log := by
      exact ⟨_, _, rfl, by decide +kernel, nofun, ⟨_, List.mem_cons_self, rfl⟩, by decide +kernel,
        by decide +kernel, by decide +kernel, by decide +kernel⟩
    have run := Run.operations 60 (.initial (.single ⟨.manual, .ok, none⟩))
      [.setPriorities [], .request "r" "q" false [] [], .cancel "r"]
    rw [played] at run
    exact differ (claim _ _ _ t past _ 0 _ (State.construct_single _) run
      (fun m mem => Moment.faithful_of_isFaithful (List.all_eq_true.mp faithful m mem)) there waits
      cancelled fun m mem => ⟨Moment.faithful_of_isFaithful (List.all_eq_true.mp faithful' m mem),
        by simpa using List.all_eq_true.mp counts m mem⟩)

end SlotDispatch
