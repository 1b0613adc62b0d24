import SlotDispatch.Proofs.Confinement
import SlotDispatch.Proofs.Hiding
import SlotDispatch.Proofs.Synchrony
import SlotDispatch.Proofs.Tethers

/-!
What one scheduling attempt does. Between operations of an orderly run nothing of their earlier
owners is left on idle slots (`Run.poised`), so a walk that comes to nothing, with a slot of each
listed device taken and handed back, leaves the state as it was (`State.Poised.in_vain`). With work
and an idle slot, the first unit runs on the slot that was returned last to the first listed device
that has any. If it fails, the slot goes back to where it was taken from, and the search comes to it
again (`State.Poised.retried`); so one slot serves all units that fail in a row, and the first one
that starts it keeps it (`State.Poised.tries`).
-/

namespace SlotDispatch

/-! ### Idle slots between operations -/

/-- At this moment no continuation leaves another one. -/
def Moment.Conclusive (m : Moment) : Prop :=
  ∀ slot own, m.registers? = some slot → activation m.thread.frames ≠ some (.continuation, own)

/-- `Moment.Conclusive`, computed. -/
def Moment.isConclusive (m : Moment) : Bool :=
  m.registers?.isNone || !(activation m.thread.frames).any fun code => code.1 == .continuation

theorem Moment.conclusive_of_isConclusive {m : Moment} (checked : m.isConclusive = true) :
    m.Conclusive := by
  intro slot own registers runs
  simp [isConclusive, registers, runs] at checked

/-- A slot on which nothing of its earlier owners is left but its buffers and the status of its
last execution. -/
structure State.Blank (s : State) (slot : SlotId) : Prop where
  present : s.hasSlot slot = true
  running : (s.slot slot).running = false
  bound : (s.slot slot).bound = false
  pinned : (s.slot slot).pinned = false
  continuation : (s.slot slot).continuation = none

/-- Devices and slots have names of their own, the priority list names devices that are there, and
all idle slots are blank. -/
structure State.Poised (s : State) : Prop extends s.Steady where
  names : s.deviceNames.Nodup
  blank : ∀ slot : SlotId, slot.index ∈ s.idle slot.device → s.Blank slot

section Runs

variable {backends : List Backend} {priorities : List Preference} {s : State}
  {past : List Moment} {now : Moment}

/-- Between operations of an orderly run in which units leave their continuations before they start
their slots, and continuations leave none, the idle slots are blank. -/
theorem Run.poised (built : (construct backends priorities).result = .ok s)
    (run : Run (.initial s) past now) (orderly : Throughout Moment.Orderly past)
    (timely : Throughout Moment.Timely past) (conclusive : ∀ m ∈ past, m.Conclusive)
    (atRest : now.AtRest) : now.state.Poised := by
  have sound := run.sound built orderly
  have tethered := run.tethered built orderly
  obtain ⟨signal, rest⟩ := atRest
  refine ⟨⟨run.listed built, sound.distinct⟩, run.distinct_devices built, fun slot idle => ?_⟩
  obtain ⟨present, running, bound⟩ := sound.exclusive.resting slot idle
  refine ⟨present, running, bound, ?_, ?_⟩
  · rw [Bool.eq_false_iff]
    intro pinned
    rcases tethered.engaged slot pinned with engaged | unpins
    · exact tethered.tied slot engaged (.inl idle)
    · simp [rest, Control.unpins] at unpins
  · have vacant : now.Vacant slot := ⟨.inl idle, fun status same => by simp [rest] at same⟩
    rw [Option.eq_none_iff_forall_ne_some]
    intro continuation held
    obtain ⟨before, m, since, rfl, registers, runs, -⟩ :=
      run.leftBy built (orderly.mono fun _ _ => Moment.Orderly.tidy) timely vacant held
    exact conclusive m (by simp) slot slot registers runs

end Runs

/-! ### Searches that come to nothing -/

section Searches

variable {s t u : State} {frames : List Frame} {slot : SlotId} {left : List Nat}

/-- A slot that was taken is put back where it was. -/
theorem State.pushIdle_popped (names : s.deviceNames.Nodup)
    (idle : s.idle slot.device = slot.index :: left) :
    (s.modifyDevice slot.device fun device => { device with idle := left }).pushIdle slot = s := by
  have back : ∀ device ∈ s.devices,
      ((fun device => if device.name = slot.device then
          { device with idle := slot.index :: device.idle } else device) ∘ fun device =>
        if device.name = slot.device then { device with idle := left } else device) device
        = device := by
    intro device there
    by_cases own : device.name = slot.device
    · have own' : ({ device with idle := left } : Device).name = slot.device := own
      have whole : device.idle = slot.index :: left := by
        rw [← idle, ← own, idle_of_mem names there]
      simp only [Function.comp_apply, own, own', if_true, ← whole]
    · simp only [Function.comp_apply, own, if_false]
  have devices := (List.map_congr_left back).trans (List.map_id' _)
  simp only [State.pushIdle, State.modifyDevice, List.map_map, devices]

/-- There is no continuation to be taken off a blank slot. -/
theorem State.Blank.cleared (blank : s.Blank slot) (distinct : (s.slots.map Slot.id).Nodup) :
    s.clearContinuation slot = s := by
  have none := blank.continuation
  have whole : s.slot slot = { s.slot slot with continuation := (s.slot slot).continuation } := rfl
  rw [none] at whole
  have same : s.modifySlot slot (fun slot => { slot with continuation := .none }) = s :=
    modifySlot_eq_self distinct whole.symm
  rw [State.clearContinuation, none, same]
  rfl

/-- And no marks. -/
theorem State.Blank.unmarked (blank : s.Blank slot) (distinct : (s.slots.map Slot.id).Nodup) :
    s.modifySlot slot (fun slot => { slot with bound := false, pinned := false }) = s := by
  have whole : s.slot slot
      = { s.slot slot with bound := (s.slot slot).bound, pinned := (s.slot slot).pinned } := rfl
  rw [blank.bound, blank.pinned] at whole
  exact modifySlot_eq_self distinct whole.symm

/-- A slot that is taken although no unit of work waits is handed back as it was. -/
theorem State.Poised.offers_back (poised : s.Poised) (queue : s.queue = [])
    (idle : s.idle slot.device = slot.index :: left) (devices : List String) (frames : List Frame) :
    Moment.Reaches Moment.Uneventful
      ⟨s.modifyDevice slot.device fun device => { device with idle := left },
        ⟨.call (.offer slot devices), frames⟩⟩ frames
      ⟨s, ⟨.call (.walk devices true), frames⟩⟩ := by
  let taken := s.modifyDevice slot.device fun device => { device with idle := left }
  have blank : taken.Blank slot := by
    obtain ⟨present, running, bound, pinned, continuation⟩ :=
      poised.blank slot (by rw [idle]; exact List.mem_cons_self)
    exact ⟨present, running, bound, pinned, continuation⟩
  have distinct : (taken.slots.map Slot.id).Nodup := poised.distinct
  have offers : Call.step taken (.offer slot devices)
      = .await taken (.discard slot) (.walk devices) :=
    Call.step_offer_of_empty (s := taken) queue devices
  have discards : Call.step taken (.discard slot) = .call taken (.markIdle slot) := by
    simp only [Call.step, blank.cleared distinct]
  have unmarks : Call.step taken (.markIdle slot) = .call taken (.pushIdle slot) := by
    simp only [Call.step, blank.unmarked distinct]
  have pushes : Call.step taken (.pushIdle slot) = .done s := by
    simp only [Call.step, State.pushIdle_popped poised.names idle, taken]
  exact .call _ [] offers (Moment.uneventful_call rfl)
    (.call _ [.walk devices] discards (Moment.uneventful_call rfl)
      (.call _ [.walk devices] unmarks (Moment.uneventful_call rfl)
        (.call _ [.walk devices] pushes (Moment.uneventful_call rfl)
          (.resume (.returned .done) (.walk devices) [] rfl (Moment.uneventful_signal _)
            (.refl _)))))

/-- Without a unit of work that waits, a walk hands back every slot that it takes. -/
theorem State.Poised.walks_back (poised : s.Poised) (queue : s.queue = []) (frames : List Frame)
    (devices : List String) (handedBack : Bool) :
    Moment.Reaches Moment.Uneventful ⟨s, ⟨.call (.walk devices handedBack), frames⟩⟩ frames
      ⟨s, ⟨.signal (.returned .done), frames⟩⟩ := by
  induction devices generalizing handedBack with
  | nil =>
      exact .call _ [] (Call.step_walk_nil queue handedBack) (Moment.uneventful_call rfl) (.refl _)
  | cons device rest ih =>
      cases idle : s.idle device with
      | nil =>
          have passes := Call.step_walk_of_empty idle rest handedBack
          exact .call _ [] passes (Moment.uneventful_call rfl) (ih handedBack)
      | cons index left =>
          have takes := Call.step_walk_of_idle idle rest handedBack
          have idle : s.idle (⟨device, index⟩ : SlotId).device = index :: left := idle
          exact .call _ [] takes (Moment.uneventful_call rfl)
            ((poised.offers_back queue idle rest frames).trans (ih true))

/-- Scheduling without a unit of work that waits, or without an idle slot on the devices that are
listed, changes nothing. -/
theorem State.Poised.in_vain (poised : s.Poised) (serving : s.serving = true)
    (vain : s.queue = [] ∨ ∀ name ∈ s.priorities.map Preference.name, s.idle name = [])
    (frames : List Frame) :
    Moment.Reaches Moment.Uneventful ⟨s, ⟨.call .schedule, frames⟩⟩ frames
      ⟨s, ⟨.signal (.returned .done), frames⟩⟩ := by
  rcases vain with queue | none
  · exact .call _ [] (Call.step_schedule serving) (Moment.uneventful_call rfl)
      (poised.walks_back queue frames _ false)
  · exact s.finds_nothing (fun _ => none) frames

end Searches

/-! ### One unit that fails -/

/-- The slot that a search comes to: the one that was returned last to the first listed device that
has an idle slot. -/
def State.Foremost (s : State) (slot : SlotId) : Prop :=
  ∃ left devices, s.idle slot.device = slot.index :: left ∧ s.Searched slot devices

/-- Two states between which units of work have used a slot, failed, and handed it back: but for the
queue and what was loaded into the slot, they are the same to scheduling. -/
structure State.Retried (slot : SlotId) (s t : State) : Prop where
  samePhase : t.phase = s.phase
  samePriorities : t.priorities = s.priorities
  sameNames : t.deviceNames = s.deviceNames
  idle : ∀ name, t.idle name = s.idle name
  sameIds : t.slots.map Slot.id = s.slots.map Slot.id
  others : ∀ other, other ≠ slot → t.slot other = s.slot other
  own : ∃ input, t.slot slot = { s.slot slot with input }

section Rounds

variable {s t : State} {frames : List Frame} {slot : SlotId} {left : List Nat}
  {devices : List String}

/-- A slot into which something was loaded is blank still. -/
theorem State.Blank.loaded (blank : s.Blank slot) (present : t.hasSlot slot = true)
    (same : ∃ input, t.slot slot = { s.slot slot with input }) : t.Blank slot := by
  obtain ⟨input, same⟩ := same
  refine ⟨present, ?_, ?_, ?_, ?_⟩
  · rw [same]
    exact blank.running
  · rw [same]
    exact blank.bound
  · rw [same]
    exact blank.pinned
  · rw [same]
    exact blank.continuation

theorem State.Retried.serving (retried : State.Retried slot s t) : t.serving = s.serving := by
  rw [State.serving, State.serving, retried.samePhase]

/-- The idle slots are blank still. -/
theorem State.Retried.poised (retried : State.Retried slot s t) (poised : s.Poised) : t.Poised := by
  refine ⟨⟨⟨?_, ?_⟩, ?_⟩, ?_, fun other idle => ?_⟩
  · rw [retried.samePriorities]
    exact poised.listed.distinct
  · rw [retried.samePriorities, retried.sameNames]
    exact poised.listed.known
  · rw [retried.sameIds]
    exact poised.distinct
  · rw [retried.sameNames]
    exact poised.names
  · rw [retried.idle] at idle
    have blank := poised.blank other idle
    have present := (State.hasSlot_of_sameIds retried.sameIds other).trans blank.present
    by_cases own : other = slot
    · subst own
      exact blank.loaded present retried.own
    · exact blank.loaded present ⟨(s.slot other).input, retried.others other own⟩

/-- The search comes to the same slot again. -/
theorem State.Retried.foremost (retried : State.Retried slot s t) (foremost : s.Foremost slot) :
    t.Foremost slot := by
  obtain ⟨left, devices, idle, serving, earlier, list, empty⟩ := foremost
  exact ⟨left, devices, (retried.idle _).trans idle, retried.serving.trans serving, earlier,
    by rw [retried.samePriorities]; exact list,
    fun name mem => (retried.idle name).trans (empty name mem)⟩

/-- A blank slot that was given to a unit of work is marked, and otherwise as it was. -/
theorem State.Blank.given (blank : s.Blank slot) (left : List Nat) (rest : List Work) :
    (s.given slot left rest).slot slot = { s.slot slot with bound := true, pinned := true } :=
  @State.slot_modifySlot_self
    { s.modifyDevice slot.device fun device => { device with idle := left } with queue := rest }
    slot _ blank.present (by intro; rfl)

/-- The slot of a unit that has failed without having started it is as it was once it is handed
back. -/
theorem State.Poised.retried (poised : s.Poised) (searched : s.Searched slot devices)
    (idle : s.idle slot.device = slot.index :: left) {rest : List Work}
    (confined : State.Confined slot false (s.given slot left rest) t) :
    State.Retried slot s ((t.clearContinuation slot).handedBack slot)
      ∧ ((t.clearContinuation slot).handedBack slot).queue = rest := by
  let given := s.given slot left rest
  let cleared := t.clearContinuation slot
  let unmarked := cleared.modifySlot slot fun slot => { slot with bound := false, pinned := false }
  have same : State.Undisturbed t cleared := State.undisturbed_clearContinuation t slot
  obtain ⟨requests, eq⟩ := (t.relieved slot).dropContinuation_eq (t.slot slot).continuation
  have relieved : cleared = { t.relieved slot with requests } := eq
  have blank := poised.blank slot (by rw [idle]; exact List.mem_cons_self)
  have known := searched.known poised.listed
  have pools (name : String) : unmarked.idle name = given.idle name :=
    (same.idle name).trans (State.idle_of_samePools confined.samePools name)
  have names : unmarked.deviceNames = s.deviceNames :=
    (State.deviceNames_of_samePools (same.samePools.trans confined.samePools)).trans
      (s.deviceNames_modifyDevice slot.device fun _ => left)
  have present : t.hasSlot slot = true :=
    (confined.hasSlot slot).trans
      ((State.hasSlot_modifySlot _ (by intro; rfl) _ _).trans blank.present)
  refine ⟨⟨?_, ?_, ?_, fun name => ?_, ?_, fun other differs => ?_, ?_⟩, ?_⟩
  · exact same.samePhase.trans confined.samePhase
  · exact same.samePriorities.trans confined.samePriorities
  · exact (unmarked.deviceNames_modifyDevice slot.device (slot.index :: ·)).trans names
  · by_cases own : name = slot.device
    · subst own
      have known' : (unmarked.device? slot.device).isSome = true := by
        rw [State.device?_isSome_iff, names]
        exact State.device?_isSome_iff.mp known
      rw [State.handedBack, State.idle_pushIdle_self known', pools, State.idle_given,
        if_pos ⟨rfl, known⟩, idle]
    · rw [State.handedBack, State.idle_pushIdle_of_ne own, pools, State.idle_given, if_neg]
      exact fun both => own both.1
  · refine (cleared.slotIds_modifySlot slot (by intro; rfl)).trans ?_
    rw [relieved]
    refine (t.slotIds_modifySlot slot (by intro; rfl)).trans (confined.sameIds.trans ?_)
    exact State.slotIds_modifySlot _ slot (by intro; rfl)
  · have back : unmarked.slot other = cleared.slot other :=
      State.slot_modifySlot_of_ne differs (by intro; rfl)
    have clear : cleared.slot other = t.slot other := by
      rw [relieved]
      exact State.slot_modifySlot_of_ne differs (by intro; rfl)
    have marks : given.slot other = s.slot other :=
      State.slot_modifySlot_of_ne differs (by intro; rfl)
    exact back.trans (clear.trans ((confined.others other differs).trans marks))
  · obtain ⟨input, continuation, used⟩ := confined.own
    rw [blank.given] at used
    have clear : cleared.slot slot = { t.slot slot with continuation := none } := by
      rw [relieved]
      exact State.slot_modifySlot_self present (by intro; rfl)
    have present' : cleared.hasSlot slot = true := (same.hasSlot slot).trans present
    have back : unmarked.slot slot = { cleared.slot slot with bound := false, pinned := false } :=
      State.slot_modifySlot_self present' (by intro; rfl)
    refine ⟨input, back.trans ?_⟩
    rw [clear, used]
    have whole : s.slot slot = { s.slot slot with
      bound := (s.slot slot).bound, pinned := (s.slot slot).pinned,
      continuation := (s.slot slot).continuation } := rfl
    rw [blank.bound, blank.pinned, blank.continuation] at whole
    rw [whole]
    rfl
  · exact same.sameQueue.trans confined.sameQueue

end Rounds

/-! ### Units that are run in a row -/

/-- The unit of work that begins to run at this moment fails, without having started its slot and
without having re-entered the dispatcher. -/
def Moment.FailsQuietly (m : Moment) (frames : List Frame) : Prop :=
  ∃ passed signal last, m.Extent frames passed signal last ∧ signal.fails = true
    ∧ ∀ other ∈ passed, other.reenters = false ∧ other.grants = false

/-- The unit of work that begins to run at this moment starts its slot and succeeds, and neither the
unit re-enters the dispatcher nor does its slot complete meanwhile. -/
def Moment.StartsQuietly (m : Moment) (frames : List Frame) : Prop :=
  ∃ passed answer last, m.Extent frames passed (.returned answer) last
    ∧ (∀ other ∈ passed, other.reenters = false) ∧ ∃ other ∈ passed, other.grants = true

/-- Of the units that are run above the frames, each that is the next of `fs` to be run fails
quietly, and if the first of `rest` is run after them it starts its slot quietly. -/
structure QuietUnits (frames : List Frame) (fs rest : List Work) (passed : List Moment) : Prop where
  fails : ∀ before m after slot work, passed = before ++ m :: after →
    m.thread = ⟨.call (.perform slot work), .bound slot :: frames⟩ →
      fs[(ran before).length]? = some work → m.FailsQuietly (.bound slot :: frames)
  starts : ∀ before m after slot work, passed = before ++ m :: after →
    m.thread = ⟨.call (.perform slot work), .bound slot :: frames⟩ →
      (ran before).length = fs.length → rest.head? = some work →
        m.StartsQuietly (.bound slot :: frames)

/-- If a unit of work begins to run at this moment, it finds the slot marked for it, and otherwise
as it is in the state `s`, but for what was loaded into it. -/
def Moment.Finds (s : State) (slot : SlotId) (m : Moment) : Prop :=
  ∀ own work, m.thread.control = .call (.perform own work) →
    ∃ input, m.state.slot slot = { s.slot slot with bound := true, pinned := true, input }

/-- An attempt, begun in the state `s`, to run the units `fs ++ rest` on the slot has come to the
state `t`: the units `fs` have failed, and the first of `rest`, if there is one, has started the
slot. -/
structure State.Tried (s : State) (slot : SlotId) (fs rest : List Work) (passed : List Moment)
    (t : State) : Prop where
  units : passed.flatMap Moment.assigns = (fs ++ rest.take 1).map fun work => (slot, work)
  finds : ∀ m ∈ passed, m.Finds s slot
  queue : t.queue = rest.tail
  phase : t.phase = s.phase
  priorities : t.priorities = s.priorities
  others : ∀ other, other ≠ slot → t.slot other = s.slot other
  elsewhere : ∀ name, name ≠ slot.device → t.idle name = s.idle name
  back : rest = [] → t.idle slot.device = s.idle slot.device
    ∧ ∃ input, t.slot slot = { s.slot slot with input }
  started : rest ≠ [] → t.idle slot.device = (s.idle slot.device).tail
    ∧ ∃ input continuation, t.slot slot = { s.slot slot with
      bound := true, pinned := true, running := true, output := none, input, continuation }

section Rows

variable {s t u : State} {frames : List Frame} {slot : SlotId} {left : List Nat}
  {devices : List String} {first last m : Moment} {passed begun inner later : List Moment}
  {signal handed : Signal} {work : Work} {fs rest : List Work}

/-- The units that were run are those that began to run on some slot. -/
theorem ran_eq_assigned (passed : List Moment) :
    ran passed = (passed.flatMap Moment.assigns).map Prod.snd := by
  rw [ran, List.map_flatMap]
  congr 1
  funext m
  obtain ⟨s, ⟨control, frames⟩⟩ := m
  cases control with
  | signal signal => rfl
  | call call => cases call <;> rfl

theorem assigned_of_uneventful (uneventful : ∀ m ∈ passed, m.Uneventful) :
    passed.flatMap Moment.assigns = [] :=
  List.flatMap_eq_nil_iff.mpr fun m mem => (uneventful m mem).assigns

theorem ran_of_uneventful (uneventful : ∀ m ∈ passed, m.Uneventful) : ran passed = [] := by
  rw [ran_eq_assigned, assigned_of_uneventful uneventful]
  rfl

theorem Moment.finds_of_assigns (none : m.assigns = []) : m.Finds s slot := by
  intro own work performs
  simp [Moment.assigns, performs] at none

/-- The extent of a call begins with the call. -/
theorem Moment.Extent.begins_with {call : Call} {waiting : List Frame}
    (extent : Moment.Extent ⟨s, ⟨.call call, waiting⟩⟩ frames passed signal last) :
    ∃ rest, passed = ⟨s, ⟨.call call, waiting⟩⟩ :: rest := by
  rcases extent.cases with ⟨-, -, back⟩ | ⟨after, rest, same, -⟩
  · cases back
  · exact ⟨rest, same⟩

/-- What was to be quiet is so after the first unit. -/
theorem QuietUnits.of_append (quiet : QuietUnits frames (work :: fs) rest (begun ++ later))
    (one : ran begun = [work]) : QuietUnits frames fs rest later := by
  constructor
  · intro before m after slot other split begins next
    refine quiet.fails (begun ++ before) m after slot other ?_ begins ?_
    · rw [split, List.append_assoc]
    · rw [ran_append, one]
      exact next
  · intro before m after slot other split begins count next
    refine quiet.starts (begun ++ before) m after slot other ?_ begins ?_ next
    · rw [split, List.append_assoc]
    · rw [ran_append, one]
      simp [count]

/-- A search begins with the first unit that waits, which runs on the slot that the search comes to,
and goes on with what the unit hands back. -/
theorem State.Searched.first_unit (searched : s.Searched slot devices)
    (idle : s.idle slot.device = slot.index :: left) (queue : s.queue = work :: rest)
    (extent : Moment.Extent ⟨s, ⟨.call .schedule, frames⟩⟩ frames passed signal last) :
    ∃ begun tail, (∀ m ∈ begun, m.Uneventful)
      ∧ passed = begun ++ ⟨s.given slot left rest,
          ⟨.call (.perform slot work), .bound slot :: frames⟩⟩ :: tail
      ∧ ∀ inner handed ended, Moment.Extent ⟨s.given slot left rest,
          ⟨.call (.perform slot work), .bound slot :: frames⟩⟩ (.bound slot :: frames) inner handed
          ended →
        ∃ later, passed = begun ++ (inner ++ later)
          ∧ Moment.Extent ⟨ended.state, ⟨.signal handed, .bound slot :: frames⟩⟩ frames later signal
            last := by
  obtain ⟨begun, later, rfl, -, uneventful, onward⟩ :=
    (searched.performs idle queue frames).1.onward extent
  obtain ⟨tail, same⟩ := onward.begins_with
  refine ⟨begun, tail, uneventful, by rw [same], fun inner handed ended unit => ?_⟩
  obtain ⟨t, thread⟩ := ended
  obtain rfl : thread = ⟨.signal handed, .bound slot :: frames⟩ := unit.back
  have leads : Moment.Leads _ ([.bound slot] ++ frames) inner _ := ⟨unit.run, unit.above⟩
  obtain ⟨later, rfl, returns⟩ := onward.onward leads.below
  exact ⟨later, rfl, returns⟩

/-- If the unit keeps to itself, it is confined to the slot, which it finds marked; and no other
unit is run by the search before it, or as the slot goes back. -/
theorem State.Blank.unit (blank : s.Blank slot)
    (extent : Moment.Extent ⟨s.given slot left rest, ⟨.call (.perform slot work),
      .bound slot :: frames⟩⟩ (.bound slot :: frames) inner handed last)
    (quiet : ∀ m ∈ inner, m.reenters = false) (before : ∀ m ∈ begun, m.Uneventful)
    (after : ∀ m ∈ later, m.Uneventful) :
    State.Confined slot (inner.any Moment.grants) (s.given slot left rest) last.state
      ∧ (begun ++ (inner ++ later)).flatMap Moment.assigns = [(slot, work)]
      ∧ ∀ m ∈ begun ++ (inner ++ later), m.Finds s slot := by
  have present : (s.given slot left rest).hasSlot slot = true :=
    (State.hasSlot_modifySlot _ (by intro; rfl) _ _).trans blank.present
  obtain ⟨confined, units⟩ := extent.confined present quiet
  refine ⟨confined, ?_, List.forall_mem_append.mpr ⟨?_, List.forall_mem_append.mpr ⟨?_, ?_⟩⟩⟩
  · simp [units, assigned_of_uneventful before, assigned_of_uneventful after]
  · exact fun m mem => Moment.finds_of_assigns (before m mem).assigns
  · obtain ⟨tail, rfl⟩ := extent.begins_with
    have none : tail.flatMap Moment.assigns = [] := by simpa [Moment.assigns] using units
    rw [List.flatMap_eq_nil_iff] at none
    refine List.forall_mem_cons.mpr ⟨?_, fun m mem => Moment.finds_of_assigns (none m mem)⟩
    exact fun own work _ => ⟨(s.slot slot).input, blank.given left rest⟩
  · exact fun m mem => Moment.finds_of_assigns (after m mem).assigns

/-- What has been tried after one unit has failed has been tried with it. -/
theorem State.Tried.after (tried : t.Tried slot fs rest later u) (retried : State.Retried slot s t)
    (units : begun.flatMap Moment.assigns = [(slot, work)]) (finds : ∀ m ∈ begun, m.Finds s slot) :
    s.Tried slot (work :: fs) rest (begun ++ later) u := by
  obtain ⟨input, own⟩ := retried.own
  refine ⟨?_, ?_, tried.queue, tried.phase.trans retried.samePhase,
    tried.priorities.trans retried.samePriorities, ?_, ?_, ?_, ?_⟩
  · rw [List.flatMap_append, units, tried.units]
    rfl
  · refine List.forall_mem_append.mpr ⟨finds, fun m mem own' work' performs => ?_⟩
    obtain ⟨input', same⟩ := tried.finds m mem own' work' performs
    exact ⟨input', by rw [same, own]⟩
  · exact fun other differs => (tried.others other differs).trans (retried.others other differs)
  · exact fun name differs => (tried.elsewhere name differs).trans (retried.idle name)
  · intro none
    obtain ⟨idle, input', same⟩ := tried.back none
    exact ⟨idle.trans (retried.idle _), input', by rw [same, own]⟩
  · intro some
    obtain ⟨idle, input', continuation, same⟩ := tried.started some
    exact ⟨idle.trans (by rw [retried.idle]), input', continuation, by rw [same, own]⟩

/-- An attempt with no unit of work left hands back all slots that it takes. -/
theorem State.Poised.tries_none (poised : s.Poised) (serving : s.serving = true)
    (queue : s.queue = [])
    (extent : Moment.Extent ⟨s, ⟨.call .schedule, frames⟩⟩ frames passed signal last) :
    signal = .returned .done ∧ s.Tried slot [] [] passed last.state := by
  obtain ⟨uneventful, rfl, rfl⟩ := (poised.in_vain serving (.inl queue) frames).ends extent
  refine ⟨rfl, assigned_of_uneventful uneventful, ?_, queue, rfl, rfl, fun _ _ => rfl,
    fun _ _ => rfl, fun _ => ⟨rfl, _, rfl⟩, fun some => absurd rfl some⟩
  exact fun m mem => Moment.finds_of_assigns (uneventful m mem).assigns

/-- A unit of work that starts its slot ends the attempt. -/
theorem State.Poised.tries_one (poised : s.Poised) (foremost : s.Foremost slot)
    (queue : s.queue = work :: rest)
    (extent : Moment.Extent ⟨s, ⟨.call .schedule, frames⟩⟩ frames passed signal last)
    (quiet : QuietUnits frames [] (work :: rest) passed) :
    signal = .returned .done ∧ s.Tried slot [] (work :: rest) passed last.state := by
  obtain ⟨left, devices, idle, searched⟩ := foremost
  have blank := poised.blank slot (by rw [idle]; exact List.mem_cons_self)
  obtain ⟨begun, tail, before, split, onward⟩ := searched.first_unit idle queue extent
  obtain ⟨inner, answer, ended, unit, quiet', starts⟩ := quiet.starts begun _ tail slot work split
    rfl (by rw [ran_of_uneventful before]) rfl
  obtain ⟨later, rfl, ending⟩ := onward _ _ _ unit
  have returns : Moment.Reaches Moment.Uneventful
      ⟨ended.state, ⟨.signal (.returned answer), .bound slot :: frames⟩⟩ frames
      ⟨ended.state, ⟨.signal (.returned .done), frames⟩⟩ :=
    .resume (.returned answer) (.bound slot) [] rfl (Moment.uneventful_signal _) (.refl _)
  obtain ⟨after, rfl, rfl⟩ := returns.ends ending
  obtain ⟨confined, units, finds⟩ := blank.unit unit quiet' before after
  rw [List.any_eq_true.mpr starts] at confined
  have known := searched.known poised.listed
  have pools (name : String) : ended.state.idle name = (s.given slot left rest).idle name :=
    State.idle_of_samePools confined.samePools name
  refine ⟨rfl, units, finds, confined.sameQueue, confined.samePhase, confined.samePriorities, ?_,
    ?_, fun empty => (List.cons_ne_nil _ _ empty).elim, fun _ => ⟨?_, ?_⟩⟩
  · exact fun other differs => (confined.others other differs).trans
      (State.slot_modifySlot_of_ne differs (by intro; rfl))
  · intro name differs
    rw [pools, State.idle_given, if_neg fun both => differs both.1]
  · rw [pools, State.idle_given, if_pos ⟨rfl, known⟩, idle]
    rfl
  · obtain ⟨input, continuation, used⟩ := confined.own
    rw [blank.given] at used
    exact ⟨input, continuation, used⟩

/-- An attempt runs the units that fail, and after them the one that starts it, on one slot. -/
theorem State.Poised.tries (poised : s.Poised) (foremost : s.Foremost slot)
    (queue : s.queue = fs ++ rest)
    (extent : Moment.Extent ⟨s, ⟨.call .schedule, frames⟩⟩ frames passed signal last)
    (quiet : QuietUnits frames fs rest passed) :
    signal = .returned .done ∧ s.Tried slot fs rest passed last.state := by
  -- The induction is on the units that fail; each leads back to a search that comes to the slot.
  induction fs generalizing s passed with
  | nil =>
      cases rest with
      | nil =>
          obtain ⟨-, -, -, serving, -⟩ := foremost
          exact poised.tries_none serving queue extent
      | cons work rest => exact poised.tries_one foremost queue extent quiet
  | cons work fs ih =>
      have again := foremost
      obtain ⟨left, devices, idle, searched⟩ := foremost
      have blank := poised.blank slot (by rw [idle]; exact List.mem_cons_self)
      obtain ⟨begun, tail, before, split, onward⟩ := searched.first_unit idle queue extent
      obtain ⟨inner, failure, ended, unit, fails, quiet'⟩ := quiet.fails begun _ tail slot work
        split rfl (by rw [ran_of_uneventful before]; rfl)
      obtain ⟨rest', rfl, ending⟩ := onward _ _ _ unit
      obtain ⟨handing, later, rfl, -, after, search⟩ :=
        (ended.state.fails slot failure fails frames).onward ending
      obtain ⟨confined, units, finds⟩ :=
        blank.unit unit (fun m mem => (quiet' m mem).1) before after
      have unstarted : inner.any Moment.grants = false :=
        List.any_eq_false.mpr fun m mem => by simp [(quiet' m mem).2]
      rw [unstarted] at confined
      obtain ⟨retried, left'⟩ := poised.retried searched idle confined
      rw [← List.append_assoc inner, ← List.append_assoc begun] at quiet ⊢
      obtain ⟨done, tried⟩ := ih (retried.poised poised) (retried.foremost again) left' search
        (quiet.of_append (by rw [ran_eq_assigned, units]; rfl))
      exact ⟨done, tried.after retried units finds⟩

end Rows

/-! ### The law -/

/-- An attempt that has been made, of which the last unit that was run, if it has started the slot,
has also left the continuation that the slot holds, if it holds any. -/
structure State.Attempted (s : State) (slot : SlotId) (fs rest : List Work) (passed : List Moment)
    (t : State) : Prop extends State.Tried s slot fs rest passed t where
  left : ∀ continuation, (t.slot slot).continuation = some continuation →
    ∃ before m since, passed = before ++ m :: since ∧ ran before = fs ++ rest.take 1
      ∧ m.registers? = some slot
      ∧ ∀ other ∈ since, (other.state.slot slot).continuation = some continuation

/-- What comes of a scheduling attempt that was begun in the state `s`, above the frames, and has
ended in the state `t`. -/
structure State.Schedules (s : State) (frames : List Frame) (passed : List Moment) (signal : Signal)
    (t : State) : Prop where
  /-- If no unit waits or no listed device has an idle slot, nothing changes and nothing is run. -/
  vain : s.queue = [] ∨ (∀ name ∈ s.priorities.map Preference.name, s.idle name = []) →
    signal = .returned .done ∧ t = s ∧ passed.flatMap Moment.assigns = []
  /-- Else the units that fail quietly one after another, and the one after them that starts its
  slot quietly, are run on one slot, which was blank. -/
  tries : s.queue ≠ [] → (∃ name ∈ s.priorities.map Preference.name, s.idle name ≠ []) →
    ∃ slot, s.Foremost slot ∧ s.Blank slot ∧ ∀ fs rest, s.queue = fs ++ rest →
      QuietUnits frames fs rest passed →
        signal = .returned .done ∧ s.Attempted slot fs rest passed t

section Runs

variable {s t : State} {first last now : Moment} {frames : List Frame} {slot : SlotId}
  {passed : List Moment} {signal : Signal} {fs rest : List Work}

/-- A continuation that is found on a slot, where there was none, was left there meanwhile. -/
theorem Run.registered (run : Run first passed now)
    (none : (first.state.slot slot).continuation = none) {continuation : Continuation}
    (held : (now.state.slot slot).continuation = some continuation) :
    ∃ before m since, passed = before ++ m :: since ∧ m.registers? = some slot
      ∧ ∀ other ∈ since, (other.state.slot slot).continuation = some continuation := by
  induction run with
  | start =>
      rw [none] at held
      cases held
  | @next passed now after run step ih =>
      rcases step.left_cases slot with same | gone | registers
      · rw [same] at held
        obtain ⟨before, m, since, rfl, registers, stays⟩ := ih held
        refine ⟨before, m, since ++ [now], by simp, registers, ?_⟩
        exact List.forall_mem_append.mpr ⟨stays, List.forall_mem_singleton.mpr held⟩
      · rw [held] at gone
        cases gone
      · exact ⟨passed, now, [], rfl, registers, List.forall_mem_nil _⟩

/-- What the slot holds in the end was left there after the last unit had begun to run. -/
theorem State.Tried.attempted (tried : s.Tried slot fs rest passed t) (blank : s.Blank slot)
    (run : Run ⟨s, ⟨.call .schedule, frames⟩⟩ passed last) (ended : last.state = t) :
    s.Attempted slot fs rest passed t := by
  refine ⟨tried, fun continuation held => ?_⟩
  rw [← ended] at held
  obtain ⟨before, m, since, rfl, registers, stays⟩ := run.registered blank.continuation held
  refine ⟨before, m, since, rfl, ?_, registers, stays⟩
  have units := tried.units
  -- Units begin to run on the slot while it holds no continuation, so none has begun since.
  have since' : ran since = [] := by
    refine List.flatMap_eq_nil_iff.mpr fun other mem => ?_
    obtain ⟨u, ⟨control, waiting⟩⟩ := other
    cases control with
    | signal signal => rfl
    | call call =>
        cases call with
        | perform own work =>
            obtain ⟨input, same⟩ := tried.finds ⟨u, ⟨.call (.perform own work), waiting⟩⟩
              (List.mem_append_right _ (List.mem_cons_of_mem _ mem)) own work rfl
            have held' := stays _ mem
            rw [same] at held'
            cases blank.continuation.symm.trans held'
        | _ => rfl
  have here : ran [m] = [] := by
    obtain ⟨u, ⟨control, waiting⟩⟩ := m
    cases control with
    | signal signal => rfl
    | call call =>
        cases call with
        | perform => cases registers
        | _ => rfl
  have all : ran (before ++ m :: since) = fs ++ rest.take 1 := by
    rw [ran_eq_assigned, units, List.map_map]
    exact List.map_id' _
  rw [← List.singleton_append, ran_append, ran_append, here, since'] at all
  simpa using all

/-- What a thread does by itself it does above any frames. -/
theorem Moment.Extent.onto (extent : first.Extent frames passed signal last) (below : List Frame) :
    ∃ passed, Moment.Extent ⟨first.state, ⟨first.thread.control, first.thread.frames ++ below⟩⟩
      (frames ++ below) passed signal ⟨last.state, ⟨.signal signal, frames ++ below⟩⟩ := by
  induction passed generalizing first with
  | nil =>
      rcases extent.cases with ⟨-, rfl, back⟩ | ⟨after, rest, same, -⟩
      · rw [back]
        exact ⟨[], .start, List.forall_mem_nil _, rfl⟩
      · cases same
  | cons m passed ih =>
      rcases extent.cases with ⟨none, -⟩ | ⟨after, rest, same, above, step, onward⟩
      · cases none
      · obtain ⟨rfl, rfl⟩ := List.cons.inj same
        obtain ⟨later, onward'⟩ := ih onward
        have step' := Moment.Step.of_thread (Thread.step_append below (above.step_eq step))
        obtain ⟨upper, shape, calls⟩ := above
        exact ⟨_, onward'.cons ⟨upper, by rw [shape, List.append_assoc], calls⟩ step'⟩

/-- A scheduling attempt comes to its end. -/
theorem State.Steady.schedules (steady : s.Steady) (frames : List Frame) :
    ∃ passed signal last,
      Moment.Extent ⟨s, ⟨.call .schedule, frames⟩⟩ frames passed signal last := by
  have sturdy : Moment.Sturdy ⟨s, ⟨.call .schedule, []⟩⟩ :=
    ⟨steady, Moment.searching_of_no_frame (Moment.seeks_of_not rfl) rfl⟩
  obtain ⟨passed, signal, last, extent, -⟩ := sturdy.extent (Moment.above_of_call [])
  obtain ⟨passed', extent'⟩ := extent.onto frames
  exact ⟨passed', signal, _, extent'⟩

/-- What one scheduling attempt does, begun in a state between operations of an orderly run in which
units leave continuations before they start their slots only, and continuations leave none. It comes
to its end. Without a unit that waits or without an idle slot of a listed device it changes nothing.
Else all units that fail one after another, however many, are run in their order on the idle slot
that was returned last to the first listed device that has one; if a unit comes after them that
starts the slot, it is run there as well, and else the slot is back where it was. -/
theorem scheduling_runs_failing_units_on_one_slot {backends : List Backend}
    {priorities : List Preference} {past : List Moment}
    (built : (construct backends priorities).result = .ok s) (run : Run (.initial s) past now)
    (orderly : Throughout Moment.Orderly past) (timely : Throughout Moment.Timely past)
    (conclusive : ∀ m ∈ past, m.Conclusive) (atRest : now.AtRest)
    (serving : now.state.serving = true) (frames : List Frame) :
    (∃ passed signal last,
        Moment.Extent ⟨now.state, ⟨.call .schedule, frames⟩⟩ frames passed signal last)
      ∧ ∀ passed signal last,
        Moment.Extent ⟨now.state, ⟨.call .schedule, frames⟩⟩ frames passed signal last →
          now.state.Schedules frames passed signal last.state := by
  have poised := run.poised built orderly timely conclusive atRest
  refine ⟨poised.toSteady.schedules frames, fun passed signal last extent => ⟨fun vain => ?_, ?_⟩⟩
  · obtain ⟨uneventful, rfl, rfl⟩ := (poised.in_vain serving vain frames).ends extent
    exact ⟨rfl, rfl, assigned_of_uneventful uneventful⟩
  · rintro - ⟨name, mem, some⟩
    rcases State.heads_or_empty serving with ⟨device, index, left, later, idle, searched⟩ | none
    · have blank := poised.blank ⟨device, index⟩ (by rw [idle]; exact List.mem_cons_self)
      have foremost : now.state.Foremost ⟨device, index⟩ := ⟨left, later, idle, searched⟩
      refine ⟨⟨device, index⟩, foremost, blank, fun fs rest queue quiet => ?_⟩
      obtain ⟨done, tried⟩ := poised.tries foremost queue extent quiet
      exact ⟨done, tried.attempted blank extent.run rfl⟩
    · exact absurd (none name mem) some

end Runs

/-! ### Units that are quiet -/

section Units

variable {s : State} {slot : SlotId}

/-- A unit of work fails quietly if failing is all that it does. -/
theorem State.fails_at_once (s : State) (slot : SlotId) (id : String) (error : BackendError)
    (frames : List Frame) :
    Moment.FailsQuietly ⟨s, ⟨.call (.perform slot (.scripted id [.fail error])), frames⟩⟩
      frames := by
  have fails : Moment.Reaches (fun m => m.reenters = false ∧ m.grants = false)
      ⟨s, ⟨.call (.perform slot (.scripted id [.fail error])), frames⟩⟩ frames
      ⟨(s.enter .work id slot).note (.failed id (Action.fail error).name error),
        ⟨.signal (.failed error), frames⟩⟩ :=
    .call (.perform slot _) [] rfl ⟨rfl, rfl⟩ (.call (.script _ _) [] rfl ⟨rfl, rfl⟩
      (.call (.act _ _) [_] rfl ⟨rfl, rfl⟩
        (.resume (.failed error) (.script _ _ _) [] rfl ⟨rfl, rfl⟩ (.refl _))))
  obtain ⟨passed, leads, quiet⟩ := fails
  exact ⟨passed, .failed error, _, ⟨leads.run, leads.above, rfl⟩, rfl, quiet⟩

/-- If a unit of work begins to run at this moment, its slot can be started and completes later. -/
def Moment.isReady (m : Moment) : Bool :=
  match m.thread.control with
  | .call (.perform slot _) =>
      m.state.grants slot && decide ((m.state.conduct slot.device).mode = .manual)
  | _ => true

/-- A unit of work starts its slot quietly if starting it is all that it does, and the slot
completes later. -/
theorem State.starts_at_once {id : String} {frames : List Frame}
    (ready : Moment.isReady ⟨s, ⟨.call (.perform slot (.scripted id [.start])), frames⟩⟩ = true) :
    Moment.StartsQuietly ⟨s, ⟨.call (.perform slot (.scripted id [.start])), frames⟩⟩ frames := by
  obtain ⟨grants, manual⟩ : s.grants slot = true ∧ (s.conduct slot.device).mode = .manual := by
    simpa [Moment.isReady] using ready
  let entered := s.enter .work id slot
  have starts : entered.start slot = .done (entered.started slot) := by
    have granted : entered.grants slot = true := grants
    have manual' : (entered.conduct slot.device).mode = .manual := manual
    rw [((entered.start_cases slot).resolve_left (by simp [granted])).2, State.launch, manual']
  have quiet : Moment.Reaches (fun m => m.reenters = false)
      ⟨s, ⟨.call (.perform slot (.scripted id [.start])), frames⟩⟩ frames
      ⟨entered, ⟨.call (.start slot), .script ⟨id, slot⟩ Action.start.name [] :: frames⟩⟩ :=
    .call (.perform slot _) [] rfl rfl (.call (.script _ _) [] rfl rfl
      (.call (.act _ _) [_] rfl rfl (.refl _)))
  have quiet' : Moment.Reaches (fun m => m.reenters = false)
      ⟨entered.started slot, ⟨.signal (.returned .done),
        .script ⟨id, slot⟩ Action.start.name [] :: frames⟩⟩ frames
      ⟨(entered.started slot).note (.acted id Action.start.name .done),
        ⟨.signal (.returned .done), frames⟩⟩ :=
    .resume (.returned .done) (.script _ _ _) [] rfl rfl (.call (.script _ _) [] rfl rfl (.refl _))
  obtain ⟨before, leads, quiet⟩ := quiet
  obtain ⟨after, leads', quiet'⟩ := quiet'
  have whole := leads.trans (leads'.call (.start slot) [_] starts)
  refine ⟨_, .done, _, ⟨whole.run, whole.above, rfl⟩, ?_, ?_⟩
  · exact List.forall_mem_append.mpr ⟨quiet, List.forall_mem_cons.mpr ⟨rfl, quiet'⟩⟩
  · exact ⟨_, List.mem_append_right _ List.mem_cons_self, grants⟩

end Units

/-- A device of two slots that is listed only after three units of work were submitted. The first of
them starts a slot; an attempt made then runs the second, which fails, and the third, which starts
the same slot. -/
theorem scheduling_runs_failing_units_on_one_slot_unlisted :
    let (_, now) := (Moment.initial .unlisted).operations 60
      [.submit "u" [.start], .submit "v" [.fail (.ofMessage "v")], .submit "w" [.start],
        .setPriorities [⟨"A", none⟩]]
    ∃ passed last slot,
      Moment.Extent ⟨now.state, ⟨.call .schedule, []⟩⟩ [] passed (.returned .done) last
        ∧ now.state.Attempted slot [.scripted "v" [.fail (.ofMessage "v")]] [.scripted "w" [.start]]
          passed last.state := by
  have run := Run.operations 60 (.initial .unlisted)
    [.submit "u" [.start], .submit "v" [.fail (.ofMessage "v")], .submit "w" [.start],
      .setPriorities [⟨"A", none⟩]]
  generalize played : Moment.operations 60 _ _ = outcome at run
  have orderly : Throughout Moment.Orderly outcome.1 := by
    subst played
    exact throughout_of_passes (fun _ _ => Moment.orderly_of_isOrderly) (by decide +kernel)
  have timely : Throughout Moment.Timely outcome.1 := by
    subst played
    exact throughout_of_passes (fun _ _ => Moment.timely_of_isTimely) (by decide +kernel)
  have conclusive : ∀ m ∈ outcome.1, m.Conclusive := by
    subst played
    exact fun m mem =>
      Moment.conclusive_of_isConclusive (List.all_eq_true.mp (by decide +kernel) m mem)
  have atRest : outcome.2.AtRest := by
    subst played
    exact ⟨_, rfl⟩
  have serving : outcome.2.state.serving = true := by
    subst played
    rfl
  obtain ⟨⟨passed, signal, last, extent⟩, law⟩ := scheduling_runs_failing_units_on_one_slot
    State.construct_unlisted run orderly timely conclusive atRest serving []
  have queue : outcome.2.state.queue
      = [.scripted "v" [.fail (.ofMessage "v")]] ++ [.scripted "w" [.start]] := by
    subst played
    rfl
  have idle : ∃ name ∈ outcome.2.state.priorities.map Preference.name,
      outcome.2.state.idle name ≠ [] := by
    subst played
    exact ⟨"A", List.mem_cons_self, by decide +kernel⟩
  have ready : passed.all Moment.isReady = true := by
    have steady : outcome.2.state.Steady := run.steady State.construct_unlisted
    have sturdy : Moment.Sturdy ⟨outcome.2.state, ⟨.call .schedule, []⟩⟩ :=
      ⟨steady, Moment.searching_of_no_frame (Moment.seeks_of_not rfl) rfl⟩
    rw [← (sturdy.finish_eq (Moment.above_of_call []) extent).2]
    subst played
    decide +kernel
  obtain ⟨slot, -, -, attempts⟩ := (law passed signal last extent).tries (by simp [queue]) idle
  suffices QuietUnits [] [.scripted "v" [.fail (.ofMessage "v")]] [.scripted "w" [.start]] passed by
    obtain ⟨rfl, attempted⟩ := attempts _ _ queue this
    exact ⟨passed, last, slot, extent, attempted⟩
  constructor
  · rintro before ⟨t, thread⟩ after own work split begins next
    obtain rfl : thread = _ := begins
    have first : (ran before).length < 1 := (List.getElem?_eq_some_iff.mp next).1
    obtain rfl : work = .scripted "v" [.fail (.ofMessage "v")] := by
      simpa [Nat.lt_one_iff.mp first] using next.symm
    exact t.fails_at_once own "v" _ _
  · rintro before ⟨t, thread⟩ after own work split begins - next
    obtain rfl : thread = _ := begins
    obtain rfl : work = .scripted "w" [.start] := by simpa using next.symm
    have mem : ⟨t, ⟨.call (.perform own (.scripted "w" [.start])), [.bound own]⟩⟩ ∈ passed :=
      split ▸ List.mem_append_right _ List.mem_cons_self
    exact State.starts_at_once (List.all_eq_true.mp ready _ mem)

end SlotDispatch
