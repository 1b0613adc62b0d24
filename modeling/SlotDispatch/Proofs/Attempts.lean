import SlotDispatch.Proofs.Guise

/-!
What becomes of the first unit of work that waits, if it is tame and there is a slot for it. It
fails, and the search begins anew with one unit less (`Run.attempt`), or a slot is started for
it. A slot that completes runs the last hook of its request, is handed back, and the search begins
anew (`Run.completes`). All of this is told step by step, whatever frames wait below.
-/

namespace SlotDispatch

/-! ### Ways on which no slot is started -/

/-- Whether a call starts a slot. -/
def Call.isStart : Call → Bool
  | .start _ => true
  | _ => false

/-- Whether a call starts a slot or begins to run a unit of work. -/
def Call.isEventful : Call → Bool
  | .start _ | .perform _ _ => true
  | _ => false

/-- No slot is started at this moment. -/
def Moment.GrantsNone (m : Moment) : Prop :=
  ∀ slot, m.thread.control = .call (.start slot) → m.state.grants slot = false

/-- The thread goes on above the frames from `first` to `last`, and `holds` of all that it passes
through. -/
def Moment.Reaches (holds : Moment → Prop) (first : Moment) (frames : List Frame) (last : Moment) :
    Prop :=
  ∃ passed, first.Leads frames passed last ∧ ∀ m ∈ passed, holds m

section Ways

variable {holds other : Moment → Prop} {first middle last m : Moment} {frames upper : List Frame}
  {s t : State} {control : Control} {added : List Frame}

theorem Moment.GrantsNone.startOn? (none : m.GrantsNone) (device : String) :
    m.startOn? device = .none := by
  simp only [Moment.startOn?]
  split
  · next slot same => simp [none slot same]
  · rfl

theorem Moment.grantsNone_call {call : Call} (other : call.isStart = false) :
    Moment.GrantsNone ⟨s, ⟨.call call, frames⟩⟩ := by
  intro slot same
  rw [Control.call.inj same] at other
  cases other

theorem Moment.grantsNone_signal (signal : Signal) :
    Moment.GrantsNone ⟨s, ⟨.signal signal, frames⟩⟩ := by
  intro slot same
  cases same

/-- No slot is started at this moment, and no unit of work begins to run. -/
structure Moment.Uneventful (m : Moment) : Prop where
  grantsNone : m.GrantsNone
  assigns : m.assigns = []

theorem Moment.uneventful_call {call : Call} (other : call.isEventful = false) :
    Moment.Uneventful ⟨s, ⟨.call call, frames⟩⟩ := by
  cases call with
  | start | perform => cases other
  | _ => exact ⟨Moment.grantsNone_call rfl, rfl⟩

theorem Moment.uneventful_signal (signal : Signal) :
    Moment.Uneventful ⟨s, ⟨.signal signal, frames⟩⟩ := ⟨Moment.grantsNone_signal signal, rfl⟩

namespace Moment.Reaches

theorem refl (first : Moment) : first.Reaches holds frames first :=
  ⟨[], .refl _ _, List.forall_mem_nil _⟩

theorem trans (one : first.Reaches holds frames middle) (two : middle.Reaches holds frames last) :
    first.Reaches holds frames last := by
  obtain ⟨passed, leads, all⟩ := one
  obtain ⟨later, leads', all'⟩ := two
  exact ⟨_, leads.trans leads', List.forall_mem_append.mpr ⟨all, all'⟩⟩

theorem mono (reaches : first.Reaches holds frames last) (weaker : ∀ m, holds m → other m) :
    first.Reaches other frames last := by
  obtain ⟨passed, leads, all⟩ := reaches
  exact ⟨passed, leads, fun m mem => weaker m (all m mem)⟩

theorem below (upper : List Frame) (reaches : first.Reaches holds (upper ++ frames) last) :
    first.Reaches holds frames last := by
  obtain ⟨passed, leads, all⟩ := reaches
  exact ⟨passed, leads.below, all⟩

/-- A call is made, wherever the thread goes on from there. -/
theorem call (call : Call) (upper : List Frame) (step : call.step s = ⟨t, control, added⟩)
    (here : holds ⟨s, ⟨.call call, upper ++ frames⟩⟩)
    (rest : Reaches holds ⟨t, ⟨control, added ++ upper ++ frames⟩⟩ frames last) :
    Reaches holds ⟨s, ⟨.call call, upper ++ frames⟩⟩ frames last := by
  obtain ⟨passed, leads, all⟩ := rest
  exact ⟨_, leads.call call upper step, List.forall_mem_cons.mpr ⟨here, all⟩⟩

/-- A frame is handed a signal, wherever the thread goes on from there. -/
theorem resume (handed : Signal) (frame : Frame) (upper : List Frame)
    (step : frame.resume s handed = ⟨t, control, added⟩)
    (here : holds ⟨s, ⟨.signal handed, frame :: upper ++ frames⟩⟩)
    (rest : Reaches holds ⟨t, ⟨control, added ++ upper ++ frames⟩⟩ frames last) :
    Reaches holds ⟨s, ⟨.signal handed, frame :: upper ++ frames⟩⟩ frames last := by
  obtain ⟨passed, leads, all⟩ := rest
  exact ⟨_, leads.resume handed frame upper step, List.forall_mem_cons.mpr ⟨here, all⟩⟩

end Moment.Reaches

end Ways

/-! ### The first device with an idle slot -/

/-- This device is the first of the listed ones that has an idle slot, and the dispatcher
serves. -/
def State.Heads (s : State) (name : String) : Prop :=
  ∃ index left later, s.idle name = index :: left ∧ s.Searched ⟨name, index⟩ later

section Searches

variable {s t : State} {frames : List Frame} {slot : SlotId} {devices : List String}

/-- A change that leaves phase, priority list and pools alone leaves the search. -/
theorem State.Searched.of_same (searched : s.Searched slot devices) (work : State.SameWork s t)
    (idle : ∀ name, t.idle name = s.idle name) : t.Searched slot devices := by
  obtain ⟨serving, earlier, list, empty⟩ := searched
  exact ⟨work.serving.trans serving, earlier, work.samePriorities ▸ list,
    fun name mem => (idle name).trans (empty name mem)⟩

/-- There is a first device with an idle slot, or there is no idle slot. -/
theorem State.heads_or_empty (serving : s.serving = true) :
    (∃ name, s.Heads name) ∨ ∀ name ∈ s.priorities.map Preference.name, s.idle name = [] := by
  cases found : (s.priorities.map Preference.name).find? fun name => !(s.idle name).isEmpty with
  | none =>
      refine .inr fun name mem => ?_
      simpa using List.find?_eq_none.mp found name mem
  | some name =>
      obtain ⟨some, earlier, later, list, empty⟩ := List.find?_eq_some_iff_append.mp found
      refine .inl ⟨name, ?_⟩
      cases idle : s.idle name with
      | nil => simp [idle] at some
      | cons index left =>
          refine ⟨index, left, later, idle, serving, earlier, list, fun other mem => ?_⟩
          simpa using empty other mem

/-- A search passes the devices that have no idle slot, and nothing happens meanwhile. -/
theorem State.walks_past (s : State) {earlier : List String} (devices : List String)
    (frames : List Frame) (empty : ∀ name ∈ earlier, s.idle name = []) :
    Moment.Reaches Moment.Uneventful ⟨s, ⟨.call (.walk (earlier ++ devices) false), frames⟩⟩ frames
      ⟨s, ⟨.call (.walk devices false), frames⟩⟩ := by
  obtain ⟨passed, leads, walks⟩ := s.leads_walk devices frames empty
  refine ⟨passed, leads, fun m mem => ?_⟩
  obtain ⟨t, ⟨control, waiting⟩⟩ := m
  obtain ⟨names, rfl⟩ := walks _ mem
  exact Moment.uneventful_call rfl

/-- The state in which a unit of work begins to run on a slot that was taken from its pool. -/
def State.given (s : State) (slot : SlotId) (left : List Nat) (rest : List Work) : State :=
  State.modifySlot
    { s.modifyDevice slot.device fun device => { device with idle := left } with queue := rest }
    slot fun slot => { slot with bound := true, pinned := true }

theorem State.idle_given (s : State) (slot : SlotId) (left : List Nat) (rest : List Work)
    (name : String) : (s.given slot left rest).idle name
      = if name = slot.device ∧ (s.device? slot.device).isSome then left else s.idle name :=
  idle_modifyDevice s slot.device (fun _ => left) name

/-- A slot is taken for the first unit that waits, which begins to run on it. -/
theorem State.Searched.performs {work : Work} {left : List Nat} {rest : List Work}
    (searched : s.Searched slot devices) (idle : s.idle slot.device = slot.index :: left)
    (queue : s.queue = work :: rest) (frames : List Frame) :
    Moment.Reaches Moment.Uneventful ⟨s, ⟨.call .schedule, frames⟩⟩ frames
        ⟨s.given slot left rest, ⟨.call (.perform slot work), .bound slot :: frames⟩⟩
      ∧ (s.given slot left rest).Searched slot devices := by
  obtain ⟨serving, earlier, list, empty⟩ := searched
  let taken := s.modifyDevice slot.device fun device => { device with idle := left }
  have empty' : ∀ other ∈ earlier, (s.given slot left rest).idle other = [] := by
    intro other mem
    have none := empty other mem
    rw [State.idle_given, if_neg]
    · exact none
    · rintro ⟨rfl, -⟩
      cases none.symm.trans idle
  have walked := s.walks_past (slot.device :: devices) frames empty
  have schedules : Call.step s .schedule
      = .call s (.walk (earlier ++ slot.device :: devices) false) := by
    rw [Call.step_schedule serving, list]
  have takes : Call.step s (.walk (slot.device :: devices) false)
      = .call taken (.offer slot devices) := Call.step_walk_of_idle idle devices false
  have offers : Call.step taken (.offer slot devices)
      = .call { taken with queue := rest } (.bind slot work) :=
    Call.step_offer (s := taken) queue devices
  have bound : Moment.Reaches Moment.Uneventful
      ⟨s, ⟨.call (.walk (slot.device :: devices) false), frames⟩⟩ frames
      ⟨s.given slot left rest, ⟨.call (.perform slot work), .bound slot :: frames⟩⟩ :=
    .call _ [] takes (Moment.uneventful_call rfl) (.call _ [] offers (Moment.uneventful_call rfl)
      (.call _ [] rfl (Moment.uneventful_call rfl) (.refl _)))
  exact ⟨.call _ [] schedules (Moment.uneventful_call rfl) (walked.trans bound),
    serving, earlier, list, empty'⟩

theorem State.Heads.performs {name : String} {work : Work} {rest : List Work}
    (heads : s.Heads name) (queue : s.queue = work :: rest) (frames : List Frame) :
    ∃ t slot devices, slot.device = name ∧ slot.index ∈ s.idle name
      ∧ Moment.Reaches Moment.GrantsNone ⟨s, ⟨.call .schedule, frames⟩⟩ frames
        ⟨t, ⟨.call (.perform slot work), .bound slot :: frames⟩⟩
      ∧ t.Searched slot devices ∧ t.queue = rest ∧ t.hasSlot slot = s.hasSlot slot := by
  obtain ⟨index, left, later, idle, searched⟩ := heads
  obtain ⟨performs, searched'⟩ := searched.performs idle queue frames
  refine ⟨s.given ⟨name, index⟩ left rest, ⟨name, index⟩, later, rfl, by simp [idle],
    performs.mono fun m holds => holds.grantsNone, searched', rfl, ?_⟩
  exact State.hasSlot_modifySlot _ (by intro; rfl) _ _

/-! ### Slots that are handed back -/

/-- The state once a slot that nobody owns any more was put back. -/
def State.handedBack (s : State) (slot : SlotId) : State :=
  (s.modifySlot slot fun slot => { slot with bound := false, pinned := false }).pushIdle slot

/-- A slot is put back, and the search begins anew. -/
theorem State.handsBack (s : State) (slot : SlotId) (frames : List Frame) :
    Moment.Reaches Moment.Uneventful ⟨s, ⟨.call (.markIdle slot), .reschedule :: frames⟩⟩ frames
      ⟨s.handedBack slot, ⟨.call .schedule, frames⟩⟩ :=
  .call _ [.reschedule] rfl (Moment.uneventful_call rfl)
    (.call (.pushIdle slot) [.reschedule] rfl (Moment.uneventful_call rfl)
      (.resume (.returned .done) .reschedule [] rfl (Moment.uneventful_signal _) (.refl _)))

/-- The search then comes to the device of the slot first. -/
theorem State.Searched.handedBack (searched : s.Searched slot devices) (listed : s.Listed) :
    (s.handedBack slot).Heads slot.device := by
  let marked := s.modifySlot slot fun slot => { slot with bound := false, pinned := false }
  have known : (marked.device? slot.device).isSome = true := searched.known listed
  obtain ⟨serving, earlier, list, empty⟩ := searched
  have once := list ▸ listed.distinct
  refine ⟨slot.index, marked.idle slot.device, devices, State.idle_pushIdle_self known, serving,
    earlier, list, fun name mem => ?_⟩
  have other : name ≠ slot.device := fun same =>
    (List.nodup_append.mp once).2.2 name mem slot.device List.mem_cons_self same
  rw [State.handedBack, State.idle_pushIdle_of_ne other]
  exact empty name mem

/-- A call or a unit of work has failed, or ended at once. -/
def Signal.fails : Signal → Bool
  | .failed _ | .declined => true
  | _ => false

theorem State.Listed.of_undisturbed (listed : s.Listed) (same : State.Undisturbed s t) :
    t.Listed := by
  refine ⟨same.samePriorities ▸ listed.distinct, fun entry mem => ?_⟩
  rw [State.deviceNames_of_samePools same.samePools]
  exact listed.known entry (same.samePriorities ▸ mem)

/-- A unit of work that fails hands its slot back, and the search begins anew. -/
theorem State.fails (s : State) (slot : SlotId) (signal : Signal) (fails : signal.fails = true)
    (frames : List Frame) :
    Moment.Reaches Moment.Uneventful ⟨s, ⟨.signal signal, .bound slot :: frames⟩⟩ frames
      ⟨(s.clearContinuation slot).handedBack slot, ⟨.call .schedule, frames⟩⟩ := by
  have hands : (Frame.bound slot).resume s signal = .await s (.discard slot) .reschedule := by
    cases signal with
    | failed | declined => rfl
    | _ => cases fails
  exact .resume signal (.bound slot) [] hands (Moment.uneventful_signal _)
    (.call (.discard slot) [.reschedule] rfl (Moment.uneventful_call rfl)
      (State.handsBack _ slot frames))

/-- The search then comes to the device of the slot first, with the units that are left. -/
theorem State.Searched.fails (searched : s.Searched slot devices) (listed : s.Listed)
    (same : State.Undisturbed s t) (signal : Signal) (fails : signal.fails = true)
    (frames : List Frame) :
    ∃ u, Moment.Reaches Moment.GrantsNone ⟨t, ⟨.signal signal, .bound slot :: frames⟩⟩ frames
        ⟨u, ⟨.call .schedule, frames⟩⟩
      ∧ u.Heads slot.device ∧ u.queue = s.queue := by
  have same := same.trans (State.undisturbed_clearContinuation t slot)
  exact ⟨_, (t.fails slot signal fails frames).mono fun m holds => holds.grantsNone,
    (searched.of_same same.toSameWork same.idle).handedBack (listed.of_undisturbed same),
    same.sameQueue⟩

/-! ### Hooks -/

/-- A hook of a tame request succeeds or fails, and changes nothing but the log. -/
theorem State.hook (s : State) (scope : Scope) {script : Script}
    (tame : script.all Action.isTame = true) (upper frames : List Frame) :
    ∃ t handed, (handed = .returned .done ∨ ∃ error, handed = .failed error)
      ∧ Moment.Reaches (fun m => m.GrantsNone ∧ m.isCareful = true)
        ⟨s, ⟨.call (.script scope script), upper ++ frames⟩⟩ frames
        ⟨t, ⟨.signal handed, upper ++ frames⟩⟩
      ∧ ∃ log, t = { s with log } := by
  cases script with
  | nil =>
      exact ⟨s, .returned .done, .inl rfl, .call _ upper rfl ⟨Moment.grantsNone_call rfl, rfl⟩
        (.refl _), s.log, rfl⟩
  | cons action rest =>
      have first : action.isTame = true ∧ rest.all Action.isTame = true := by simpa using tame
      obtain ⟨error, rfl⟩ := Action.eq_fail first.1
      refine ⟨s.note (.failed scope.id (Action.fail error).name error), .failed error,
        .inr ⟨error, rfl⟩, ?_, _, rfl⟩
      exact .call _ upper rfl ⟨Moment.grantsNone_call rfl, rfl⟩
        (.call _ (_ :: upper) rfl ⟨Moment.grantsNone_call rfl, rfl⟩
          (.resume _ _ upper rfl ⟨Moment.grantsNone_signal _, rfl⟩ (.refl _)))

/-- The unit of work of a tame request fails, or it asks its slot to start. -/
theorem State.performs_request {id : String} {number : Nat} {job : Job}
    (tame : (Work.request id number job).isTame = true) (present : s.hasSlot slot = true)
    (frames : List Frame) :
    (∃ t signal, signal.fails = true ∧ State.Undisturbed s t
        ∧ Moment.Reaches Moment.GrantsNone
          ⟨s, ⟨.call (.perform slot (.request id number job)), .bound slot :: frames⟩⟩ frames
          ⟨t, ⟨.signal signal, .bound slot :: frames⟩⟩)
      ∨ ∃ t, State.Undisturbed s t
        ∧ Moment.Reaches Moment.GrantsNone
          ⟨s, ⟨.call (.perform slot (.request id number job)), .bound slot :: frames⟩⟩ frames
          ⟨t, ⟨.call (.start slot), .starting slot number :: .bound slot :: frames⟩⟩
        ∧ (t.slot slot).continuation = some (.request id number job.complete) := by
  obtain ⟨prepare, -⟩ : job.prepare.all Action.isTame = true
      ∧ job.complete.all Action.isTame = true := by
    simpa only [Work.isTame, Bool.and_eq_true] using tame
  have same := Call.undisturbed_perform s slot (.request id number job)
  rcases s.perform_cases slot id number job with ⟨-, eq⟩ | ⟨-, t, -, -, ⟨-, eq⟩ | ⟨-, eq⟩⟩
  · rw [eq] at same
    exact .inl ⟨_, .declined, rfl, same, .call _ [_] eq (Moment.grantsNone_call rfl) (.refl _)⟩
  · rw [eq] at same
    have same : State.Undisturbed s t := same
    obtain ⟨u, handed, ends, hook, log, rfl⟩ := t.hook ⟨id, slot⟩ prepare
      [.preparing slot id number job.complete, .bound slot] frames
    have hook := hook.mono fun m holds => holds.1
    rcases ends with rfl | ⟨error, rfl⟩
    · right
      let held := { t with log }.modifyRequest number (Request.hold .continuation)
      let left := held.setContinuation slot (.request id number job.complete)
      have same' : State.Undisturbed t left := State.Undisturbed.trans (t := held)
        ⟨⟨rfl, rfl⟩, rfl, rfl, rfl⟩ (State.undisturbed_setContinuation held slot _)
      refine ⟨left, same.trans same', .call _ [_] eq (Moment.grantsNone_call rfl) (hook.trans
        (.resume _ _ [_] rfl (Moment.grantsNone_signal _) (.refl _))), ?_⟩
      have present' : held.hasSlot slot = true := (same.hasSlot slot).trans present
      change ((held.setContinuation slot _).slot slot).continuation = _
      rw [State.setContinuation,
        State.continuation_of_leftovers (State.leftovers_dropContinuation _ _),
        State.slot_modifySlot_self present' (by intro; rfl)]
    · left
      refine ⟨_, .failed error, rfl, ?_, .call _ [_] eq (Moment.grantsNone_call rfl) (hook.trans
        (.resume _ _ [_] rfl (Moment.grantsNone_signal _) (.refl _)))⟩
      exact same.trans ⟨⟨rfl, rfl⟩, rfl, rfl, rfl⟩
  · rw [eq] at same
    exact .inl ⟨_, .failed _, rfl, same, .call _ [_] eq (Moment.grantsNone_call rfl) (.refl _)⟩

/-- A request that is settled has an outcome, also after it was let go of. -/
theorem State.isSome_outcome?_settle_release {number : Nat} (made : number < s.requests.length)
    (outcome : Outcome) (holder : Holder) :
    (((s.settle number outcome).release number holder).outcome? number).isSome = true := by
  have found := List.getElem?_eq_getElem made
  obtain ⟨settled, same⟩ := Option.isSome_iff_exists.mp
    (Request.isSome_settle outcome s.requests[number])
  simp [State.outcome?, release, settle, requests_modifyRequest, found,
    Request.outcome_release_of_some holder same]

/-- What a slot holds that completes is run, and the request that left it is settled. -/
theorem State.Tame.followsUp (tame : s.Tame) (slot : SlotId) (status : Status)
    (upper frames : List Frame) :
    ∃ t, Moment.Reaches (fun m => m.GrantsNone ∧ m.isCareful = true)
        ⟨s, ⟨.call (.followUp slot status), upper ++ frames⟩⟩ frames
        ⟨t, ⟨.signal (.returned .done), upper ++ frames⟩⟩
      ∧ State.Undisturbed s t ∧ ∀ id number complete,
        (s.slot slot).continuation = some (.request id number complete) →
          number < s.requests.length → (t.outcome? number).isSome = true := by
  have same := Call.undisturbed_followUp s slot status
  have here : Moment.GrantsNone ⟨s, ⟨.call (.followUp slot status), upper ++ frames⟩⟩
      ∧ Moment.isCareful ⟨s, ⟨.call (.followUp slot status), upper ++ frames⟩⟩ = true :=
    ⟨Moment.grantsNone_call rfl, rfl⟩
  cases left : (s.slot slot).continuation with
  | none =>
      have eq : s.followUp slot status = .done (s.relieved slot) := by
        rw [followUp, left]
        rfl
      rw [eq] at same
      exact ⟨_, .call _ upper eq here (.refl _), same,
        fun _ _ _ held => (Option.some_ne_none _ held.symm).elim⟩
  | some continuation =>
      cases continuation with
      | scripted id script => cases tame.left slot _ left
      | request id number complete =>
          have eq : s.followUp slot status = _ := followUp_request left
          have made (t : State) (requests : t.requests = s.requests) (outcome : Outcome) :
              ∀ name n script, some (Continuation.request id number complete)
                = some (.request name n script) → n < s.requests.length →
                  (((t.settle number outcome).release number .continuation).outcome? n).isSome
                    = true := by
            rintro name n script ⟨⟩ made
            exact State.isSome_outcome?_settle_release (requests ▸ made) outcome .continuation
          split at eq
          · rw [eq] at same
            have same : s.Undisturbed ((s.relieved slot).enter (.complete status) id slot) := same
            obtain ⟨t, handed, ends, hook, log, rfl⟩ :=
              ((s.relieved slot).enter (.complete status) id slot).hook ⟨id, slot⟩
                (tame.left slot _ left) (.collecting slot number :: upper) frames
            rcases ends with rfl | ⟨error, rfl⟩
            · exact ⟨_, .call _ upper eq here (hook.trans
                (.resume _ _ upper rfl ⟨Moment.grantsNone_signal _, rfl⟩ (.refl _))),
                same.trans ⟨⟨rfl, rfl⟩, rfl, rfl, rfl⟩, made _ rfl _⟩
            · exact ⟨_, .call _ upper eq here (hook.trans
                (.resume _ _ upper rfl ⟨Moment.grantsNone_signal _, rfl⟩ (.refl _))),
                same.trans ⟨⟨rfl, rfl⟩, rfl, rfl, rfl⟩, made _ rfl _⟩
          · rw [eq] at same
            exact ⟨_, .call _ upper eq here (.refl _), same, made _ rfl _⟩

/-- A completion that reaches the dispatcher runs what its slot holds. -/
theorem State.Tame.told (tame : s.Tame) (present : s.hasSlot slot = true)
    (attached : (s.slot slot).attached = true) (status : Status) (frames : List Frame) :
    ∃ t frame, Moment.Reaches (fun m => m.GrantsNone ∧ m.isCareful = true)
        ⟨s, ⟨.call (.complete slot status), frames⟩⟩ frames
        ⟨t, ⟨.signal (.returned .done), frame :: frames⟩⟩
      ∧ (frame = .completing slot ∨ s.phase = .dropped ∧ ∃ held, frame = .parting slot held)
      ∧ t.pools = s.pools ∧ State.SameWork s t ∧ ∀ id number complete,
        (s.slot slot).continuation = some (.request id number complete) →
          number < s.requests.length → (t.outcome? number).isSome = true := by
  let stopped := s.modifySlot slot fun slot => { slot with output := slot.input, running := false }
  let noted := stopped.modifySlot slot fun slot => { slot with pinned := false, last := status }
  let frame : Frame :=
    if s.phase = .dropped then .parting slot (stopped.slot slot).pinned else .completing slot
  have found : stopped.slot slot
      = { s.slot slot with output := (s.slot slot).input, running := false } :=
    State.slot_modifySlot_self present (by intro; rfl)
  have there : stopped.hasSlot slot = true :=
    (State.hasSlot_modifySlot s (by intro; rfl) slot slot).trans present
  have found' : noted.slot slot = { stopped.slot slot with pinned := false, last := status } :=
    State.slot_modifySlot_self there (by intro; rfl)
  have held : (noted.slot slot).continuation = (s.slot slot).continuation := by
    rw [found', found]
  have completes : Call.step s (.complete slot status) = .call stopped (.notify slot status) := by
    have attached' : (stopped.slot slot).attached = true := by
      rw [found]
      exact attached
    exact if_pos attached'
  have tame' : noted.Tame := by
    have once : stopped.Tame := by
      have once := @Call.tame_state s tame (.complete slot status) rfl
      rwa [completes] at once
    exact @Call.tame_state stopped once (.notify slot status) rfl
  obtain ⟨t, follows, same, settled⟩ := tame'.followsUp slot status [frame] frames
  refine ⟨t, frame, ?_, ?_, same.samePools, ?_, ?_⟩
  · exact .call _ [] completes ⟨Moment.grantsNone_call rfl, rfl⟩
      (.call (.notify slot status) [] rfl ⟨Moment.grantsNone_call rfl, rfl⟩ follows)
  · by_cases dropped : s.phase = .dropped
    · exact .inr ⟨dropped, _, if_pos dropped⟩
    · exact .inl (if_neg dropped)
  · exact ⟨same.samePhase, same.samePriorities, same.sameQueue⟩
  · rw [← held]
    exact settled

/-- Before the next search no slot is started, and it begins or there is none. -/
theorem State.Tame.completes (tame : s.Tame) (present : s.hasSlot slot = true) (status : Status)
    (frames : List Frame) :
    ∃ t control, Moment.Reaches Moment.GrantsNone
      ⟨s, ⟨.call (.complete slot status), frames⟩⟩ frames
        ⟨t, ⟨control, frames⟩⟩
      ∧ (control = .call .schedule ∨ control = .signal (.returned .done)) := by
  cases attached : (s.slot slot).attached with
  | false =>
      have ends : ∃ t, Call.step s (.complete slot status) = .done t := by
        refine ⟨_, if_neg ?_⟩
        rw [slot_modifySlot_self present (by intro; rfl), attached]
        exact Bool.false_ne_true
      obtain ⟨t, ends⟩ := ends
      exact ⟨t, _, .call _ [] ends (Moment.grantsNone_call rfl) (.refl _), .inr rfl⟩
  | true =>
      obtain ⟨t, frame, told, waits, -, same, -⟩ := tame.told present attached status frames
      have told := told.mono fun m holds => holds.1
      rcases waits with rfl | ⟨-, held, rfl⟩
      · cases serving : t.serving with
        | true =>
            have hands : (Frame.completing slot).resume t (.returned .done)
                = .await t (.markIdle slot) .reschedule := by
              simp only [Frame.resume, serving, if_true]
            exact ⟨_, _, told.trans (.resume _ _ [] hands (Moment.grantsNone_signal _)
              ((t.handsBack slot frames).mono fun m holds => holds.grantsNone)), .inl rfl⟩
        | false =>
            have ends : (Frame.completing slot).resume t (.returned .done) = .done t := by
              simp only [Frame.resume, serving, Bool.false_eq_true, if_false]
            exact ⟨_, _, told.trans (.resume _ _ [] ends (Moment.grantsNone_signal _) (.refl _)),
              .inr rfl⟩
      · exact ⟨_, _, told.trans (.resume _ _ [] rfl (Moment.grantsNone_signal _) (.refl _)),
          .inr rfl⟩

end Searches

/-! ### Runs -/

section Runs

variable {backends : List Backend} {priorities : List Preference} {s t : State}
  {past passed : List Moment} {first last m : Moment} {frames : List Frame} {slot : SlotId}
  {devices : List String} {status : Status} {n : Nat}

/-- What is settled at first lasts at all that the thread passes through. -/
theorem Moment.Leads.lasting (leads : first.Leads frames passed last) (mem : m ∈ passed) :
    first.state.Lasting m.state := by
  obtain ⟨earlier, later, rfl⟩ := List.append_of_mem mem
  exact leads.run.split.1.lasting

/-- A request that is settled stays so on the way. -/
theorem Moment.Leads.settled (leads : first.Leads frames passed last)
    (settled : (first.state.outcome? n).isSome = true) :
    (∀ m ∈ passed, (m.state.outcome? n).isSome = true) ∧ (last.state.outcome? n).isSome = true := by
  obtain ⟨outcome, settled⟩ := Option.isSome_iff_exists.mp settled
  exact ⟨fun m mem => Option.isSome_iff_exists.mpr ⟨outcome, (leads.lasting mem).outcome? settled⟩,
    Option.isSome_iff_exists.mpr ⟨outcome, leads.run.lasting.outcome? settled⟩⟩

/-- The first unit that waits fails, and the search begins anew with the units that are left, or
a slot is started for its request. -/
theorem Run.attempt (built : (construct backends priorities).result = .ok s)
    (run : Run (.initial s) past ⟨t, ⟨.call .schedule, frames⟩⟩) (tame : t.Tame) {name : String}
    (heads : t.Heads name) {work : Work} {rest : List Work} (queue : t.queue = work :: rest) :
    (∃ u, Moment.Reaches Moment.GrantsNone ⟨t, ⟨.call .schedule, frames⟩⟩ frames
          ⟨u, ⟨.call .schedule, frames⟩⟩
        ∧ u.Heads name ∧ u.queue = rest)
      ∨ ∃ u slot devices id n complete, slot.device = name
        ∧ Moment.Reaches Moment.GrantsNone ⟨t, ⟨.call .schedule, frames⟩⟩ frames
          ⟨u, ⟨.call (.start slot), .starting slot n :: .bound slot :: frames⟩⟩
        ∧ u.grants slot = true ∧ u.Searched slot devices ∧ u.queue = rest
        ∧ (u.slot slot).continuation = some (.request id n complete) := by
  obtain ⟨taken, slot, devices, rfl, mem, performs, searched, left, there⟩ :=
    heads.performs queue frames
  have tameWork := tame.queue work (queue ▸ List.mem_cons_self)
  have present : taken.hasSlot slot = true :=
    there.trans (State.hasSlot_iff.mpr ((run.grounded built).known.pools slot mem))
  have listed : taken.Listed := by
    obtain ⟨passed, leads, -⟩ := performs
    exact (run.append leads.run).listed built
  cases work with
  | scripted id script => cases tameWork
  | request id n job =>
      rcases taken.performs_request tameWork present frames with
        ⟨u, signal, fails, same, failed⟩ | ⟨u, same, starts, held⟩
      · obtain ⟨v, again, heads, queue⟩ := searched.fails listed same signal fails frames
        exact .inl ⟨v, (performs.trans failed).trans again, heads, queue.trans left⟩
      · rcases u.start_cases slot with ⟨error, refused, eq⟩ | ⟨grants, -⟩
        · left
          let refuses := (u.note (.started slot)).settleFailed n slot error
          have same' : State.Undisturbed u (refuses.release n .unit) := ⟨⟨rfl, rfl⟩, rfl, rfl, rfl⟩
          obtain ⟨v, again, heads, queue⟩ :=
            searched.fails listed (same.trans same') (.failed error) rfl frames
          refine ⟨v, (performs.trans starts).trans (.call _ [_, _] eq ?_
            (.resume _ _ [_] rfl (Moment.grantsNone_signal _) again)), heads, queue.trans left⟩
          intro other starts
          cases starts
          exact refused
        · exact .inr ⟨u, slot, devices, id, n, job.complete, rfl, performs.trans starts, grants,
            searched.of_same same.toSameWork same.idle, same.sameQueue.trans left, held⟩

/-- A slot that completes is handed back, the request that ran on it is settled, and the search
begins anew. -/
theorem Run.completes (built : (construct backends priorities).result = .ok s)
    (run : Run (.initial s) past ⟨t, ⟨.call (.complete slot status), frames⟩⟩) (tame : t.Tame)
    (searched : t.Searched slot devices) {id : String} {complete : Script}
    (held : (t.slot slot).continuation = some (.request id n complete))
    (made : n < t.requests.length) :
    ∃ u, Moment.Reaches (fun m => m.GrantsNone
          ∧ (m.isCareful = true ∨ (m.state.outcome? n).isSome = true))
        ⟨t, ⟨.call (.complete slot status), frames⟩⟩ frames ⟨u, ⟨.call .schedule, frames⟩⟩
      ∧ u.Heads slot.device ∧ u.queue = t.queue ∧ (u.outcome? n).isSome = true := by
  have there : t.phase ≠ .dropped := by
    intro dropped
    have serving := searched.1
    simp [State.serving, dropped] at serving
  have present : t.hasSlot slot = true :=
    State.hasSlot_iff.mpr ((run.grounded built).known.control slot List.mem_cons_self)
  have attached : (t.slot slot).attached = true := by
    obtain ⟨found, mem, rfl⟩ := List.mem_map.mp (State.hasSlot_iff.mp present)
    rw [State.slot_eq_of_mem (run.grounded built).distinct mem]
    exact (run.linked built).attached there found mem
  obtain ⟨u, frame, told, waits, pools, same, settles⟩ := tame.told present attached status frames
  obtain rfl : frame = .completing slot := waits.resolve_right fun other => there other.1
  have settled := settles id n complete held made
  have searched := searched.of_same same (State.idle_of_samePools pools)
  have listed : u.Listed := by
    obtain ⟨passed, leads, -⟩ := told
    exact (run.append leads.run).listed built
  have hands : (Frame.completing slot).resume u (.returned .done)
      = .await u (.markIdle slot) .reschedule := by
    have serving : u.serving = true := searched.1
    simp only [Frame.resume, serving, if_true]
  obtain ⟨passed, leads, quiet⟩ : Moment.Reaches Moment.GrantsNone
      ⟨u, ⟨.signal (.returned .done), .completing slot :: frames⟩⟩ frames
      ⟨u.handedBack slot, ⟨.call .schedule, frames⟩⟩ :=
    .resume _ _ [] hands (Moment.grantsNone_signal _)
      ((u.handsBack slot frames).mono fun m holds => holds.grantsNone)
  obtain ⟨all, final⟩ := leads.settled settled
  refine ⟨u.handedBack slot, (told.mono fun m holds => ⟨holds.1, .inl holds.2⟩).trans
    ⟨passed, leads, fun m mem => ⟨quiet m mem, .inr (all m mem)⟩⟩, searched.handedBack listed,
    same.sameQueue, final⟩

end Runs

end SlotDispatch
