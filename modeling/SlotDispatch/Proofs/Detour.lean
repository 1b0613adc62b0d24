import SlotDispatch.Proofs.Ahead
import SlotDispatch.Proofs.Courses

/-!
What becomes of a cancelled request whose unit of work comes to the head of the queue. A slot is
taken for the unit, which ends at once, and the slot is handed back; the search begins anew, and
comes to the same slot, with the same devices still to be looked at (`State.detour`). Nothing but
the unit and what the request has come to is different from before. That the search comes back to
where it was depends on what it has passed (`State.Searched`): the devices that it looked at before
have no idle slot, and the dispatcher serves.
-/

namespace SlotDispatch

/-! ### Ways of a thread -/

/-- The thread goes on above the frames from `first` to `last`, through the moments `passed`. -/
structure Moment.Leads (first : Moment) (frames : List Frame) (passed : List Moment)
    (last : Moment) : Prop where
  run : Run first passed last
  above : ∀ m ∈ passed, m.Above frames

namespace Moment

variable {first middle last after : Moment} {frames upper : List Frame}
  {passed later : List Moment} {signal : Signal}

theorem Leads.refl (first : Moment) (frames : List Frame) : first.Leads frames [] first :=
  ⟨.start, List.forall_mem_nil _⟩

theorem Leads.trans (one : first.Leads frames passed middle)
    (two : middle.Leads frames later last) : first.Leads frames (passed ++ later) last := by
  refine ⟨one.run.append two.run, fun m mem => ?_⟩
  rcases List.mem_append.mp mem with mem | mem
  · exact one.above m mem
  · exact two.above m mem

theorem Leads.cons (above : first.Above frames) (step : first.Step middle)
    (leads : middle.Leads frames later last) : first.Leads frames (first :: later) last := by
  refine ⟨(Run.single step).append leads.run, fun m mem => ?_⟩
  rcases List.mem_cons.mp mem with rfl | mem
  · exact above
  · exact leads.above m mem

/-- A call is made, wherever the thread goes on from there. -/
theorem Leads.call {s t : State} {control : Control} {added : List Frame} (call : Call)
    (upper : List Frame) (step : call.step s = ⟨t, control, added⟩)
    (leads : Leads ⟨t, ⟨control, added ++ upper ++ frames⟩⟩ frames later last) :
    Leads ⟨s, ⟨.call call, upper ++ frames⟩⟩ frames (⟨s, ⟨.call call, upper ++ frames⟩⟩ :: later)
      last := by
  have makes := Step.call s call (upper ++ frames)
  rw [step, Move.onto, ← List.append_assoc] at makes
  exact leads.cons ⟨upper, rfl, fun _ => ⟨call, rfl⟩⟩ makes

/-- A frame is handed a signal, wherever the thread goes on from there. -/
theorem Leads.resume {s t : State} {control : Control} {added : List Frame} (handed : Signal)
    (frame : Frame) (upper : List Frame) (step : frame.resume s handed = ⟨t, control, added⟩)
    (leads : Leads ⟨t, ⟨control, added ++ upper ++ frames⟩⟩ frames later last) :
    Leads ⟨s, ⟨.signal handed, frame :: upper ++ frames⟩⟩ frames
      (⟨s, ⟨.signal handed, frame :: upper ++ frames⟩⟩ :: later) last := by
  have makes := Step.resume s handed frame (upper ++ frames)
  rw [step, Move.onto, ← List.append_assoc] at makes
  exact leads.cons ⟨frame :: upper, rfl, by simp⟩ makes

/-- A thread that works above some frames works above those below them. -/
theorem Leads.below (leads : first.Leads (upper ++ frames) passed last) :
    first.Leads frames passed last := by
  refine ⟨leads.run, fun m mem => ?_⟩
  obtain ⟨above, shape, calls⟩ := leads.above m mem
  exact ⟨above ++ upper, by rw [shape, List.append_assoc],
    fun none => calls (List.append_eq_nil_iff.mp none).1⟩

theorem Leads.bare (leads : first.Leads frames passed last) : first.Leads [] passed last := by
  rw [← List.append_nil frames] at leads
  exact leads.below

/-- What comes to its end comes to it on the way that it has begun. -/
theorem Extent.of_leads (leads : first.Leads frames passed middle)
    (extent : middle.Extent frames later signal last) :
    first.Extent frames (passed ++ later) signal last := by
  refine ⟨leads.run.append extent.run, fun m mem => ?_, extent.back⟩
  rcases List.mem_append.mp mem with mem | mem
  · exact leads.above m mem
  · exact extent.above m mem

/-- An extent goes on wherever the thread has come to. -/
theorem Extent.onward {begun : List Moment} (leads : first.Leads frames begun middle)
    (extent : first.Extent frames passed signal last) :
    ∃ rest, passed = begun ++ rest ∧ middle.Extent frames rest signal last := by
  induction begun generalizing first passed with
  | nil =>
      obtain rfl := leads.run.eq_of_nil
      exact ⟨passed, rfl, extent⟩
  | cons now begun ih =>
      obtain ⟨rfl, second, step, run⟩ := leads.run.head
      have above := leads.above first List.mem_cons_self
      rcases extent.cases with ⟨-, -, back⟩ | ⟨after, rest, rfl, -, step', onward⟩
      · obtain ⟨upper, shape, calls⟩ := above
        rw [back] at shape calls
        obtain rfl : upper = [] := by simpa using shape.symm
        obtain ⟨call, same⟩ := calls rfl
        cases same
      · obtain ⟨state, thread⟩ : second.state = after.state ∧ second.thread = after.thread := by
          have same := (above.step_eq step).symm.trans (above.step_eq step')
          simpa using same
        obtain rfl : second = after := by
          cases second
          cases after
          simp_all
        obtain ⟨later, rfl, extent'⟩ :=
          ih ⟨run, fun other mem => leads.above other (List.mem_cons_of_mem _ mem)⟩ onward
        exact ⟨later, rfl, extent'⟩

end Moment

/-! ### Changes that are taken back -/

namespace State

variable {s : State} {slot : SlotId}

/-- Two changes of one slot are one. -/
theorem modifySlot_modifySlot (s : State) (slot : SlotId) {change : Slot → Slot}
    (keeps : ∀ slot, (change slot).id = slot.id) (next : Slot → Slot) :
    (s.modifySlot slot change).modifySlot slot next = s.modifySlot slot (next ∘ change) := by
  simp only [modifySlot, List.map_map]
  congr 1
  refine List.map_congr_left fun found _ => ?_
  by_cases own : found.id = slot
  · simp [own, keeps]
  · simp [own]

/-- A change that leaves a slot as it is changes nothing. -/
theorem modifySlot_eq_self {change : Slot → Slot} (distinct : (s.slots.map Slot.id).Nodup)
    (same : change (s.slot slot) = s.slot slot) : s.modifySlot slot change = s := by
  have all : ∀ found ∈ s.slots, (if found.id = slot then change found else found) = found := by
    intro found there
    split
    · next own => rw [← own, slot_eq_of_mem distinct there] at same; exact same
    · rfl
  have slots : s.slots.map (fun found => if found.id = slot then change found else found)
      = s.slots := (List.map_congr_left all).trans (List.map_id' _)
  simp only [modifySlot, slots]

/-- The pool of a device that is there. -/
theorem idle_of_mem {device : Device} (distinct : s.deviceNames.Nodup) (mem : device ∈ s.devices) :
    s.idle device.name = device.idle := by
  have found : s.device? device.name = some device := find?_key_of_mem distinct mem
  simp only [State.idle, found]

/-- A slot that was handed back is the first to be taken again. -/
theorem popIdle_pushIdle (distinct : s.deviceNames.Nodup)
    (known : (s.device? slot.device).isSome) :
    (s.pushIdle slot).popIdle slot.device = some (slot.index, s) := by
  simp only [popIdle, idle_pushIdle_self known, Option.some.injEq, Prod.mk.injEq, true_and]
  have all : ∀ device ∈ s.devices,
      (if device.name = slot.device then
        { device with idle := s.idle slot.device } else device) = device := by
    intro device there
    split
    · next own => rw [← own, idle_of_mem distinct there]
    · rfl
  have back : (s.devices.map fun device => if device.name = slot.device then
      { device with idle := s.idle slot.device } else device) = s.devices :=
    (List.map_congr_left all).trans (List.map_id' _)
  have twice : ((s.devices.map fun device => if device.name = slot.device then
      { device with idle := slot.index :: device.idle } else device).map fun device =>
        if device.name = slot.device then { device with idle := s.idle slot.device } else device)
      = s.devices := by
    rw [List.map_map]
    refine (List.map_congr_left fun device _ => ?_).trans back
    by_cases own : device.name = slot.device
    · have own' : ({ device with idle := slot.index :: device.idle } : Device).name = slot.device :=
        own
      simp only [Function.comp_apply, own, own', if_true]
    · simp only [Function.comp_apply, own, if_false]
  simp only [pushIdle, modifyDevice, twice]

end State

/-! ### Searches that have found a slot -/

/-- A search of the priority list has come to the device of the slot: the dispatcher serves, the
devices listed before have no idle slot, and those listed after it remain. -/
def State.Searched (s : State) (slot : SlotId) (devices : List String) : Prop :=
  s.serving = true ∧ ∃ earlier, s.priorities.map Preference.name = earlier ++ slot.device :: devices
    ∧ ∀ name ∈ earlier, s.idle name = []

/-- The device of the slot is there. -/
theorem State.Searched.known {s : State} {slot : SlotId} {devices : List String}
    (searched : s.Searched slot devices) (listed : s.Listed) :
    (s.device? slot.device).isSome = true := by
  obtain ⟨-, earlier, list, -⟩ := searched
  have among : slot.device ∈ s.priorities.map Preference.name := by simp [list]
  obtain ⟨entry, there, same⟩ := List.mem_map.mp among
  exact device?_isSome_iff.mpr (same ▸ listed.known entry there)

/-- A slot is offered to a unit of work only if it was searched for. -/
def Moment.Sought (m : Moment) : Prop :=
  ∀ slot devices, m.thread.control = .call (.offer slot devices) →
    m.state.queue = [] ∨ m.state.Searched slot devices

section Steps

variable {s : State} {frames : List Frame}

/-- A walk that has passed some devices has reached the slot that it takes. -/
theorem State.Passed.searched {device : String} {rest : List String} {index : Nat} {left : List Nat}
    (passed : s.Passed (device :: rest)) (serving : s.serving = true)
    (idle : s.idle device = index :: left) :
    (s.modifyDevice device fun device => { device with idle := left }).Searched ⟨device, index⟩
      rest := by
  obtain ⟨earlier, later, list, devices, empty⟩ := passed
  refine ⟨serving, earlier.map Preference.name, ?_, ?_⟩
  · change s.priorities.map Preference.name = _
    rw [list, List.map_append, ← devices]
  · intro name mem
    obtain ⟨entry, there, rfl⟩ := List.mem_map.mp mem
    have none := empty entry there
    rw [State.idle_modifyDevice s device (fun _ => left), if_neg]
    · exact none
    · rintro ⟨same, -⟩
      rw [same, idle] at none
      cases none

/-- Whatever is offered next was searched for. -/
theorem Moment.Step.sought {m after : Moment} (step : m.Step after) (searching : m.Searching) :
    after.Sought := by
  intro slot devices offers
  cases step with
  | call s call frames =>
      by_cases other : call.searches = false
      · have apart := ((call.flows s).apart other).1
        rw [show (call.step s).control = .call (.offer slot devices) from offers] at apart
        cases apart
      · cases call with
        | walk names handedBack =>
            have seeks := searching.seeks
            cases names with
            | nil =>
                simp only [Call.step] at offers
                split at offers <;> cases offers
            | cons device rest =>
                simp only [Call.step] at offers ⊢
                split at offers
                · cases offers
                · next index t popped =>
                    obtain ⟨left, idle, rfl⟩ := State.popIdle_eq_some popped
                    obtain ⟨rfl, rfl⟩ : ⟨device, index⟩ = slot ∧ rest = devices := by
                      simpa [Move.call, Move.onto] using offers
                    cases handedBack with
                    | true => exact .inl seeks
                    | false =>
                        have seeks : s.serving = true ∧ s.Passed (device :: rest) := seeks
                        exact .inr (seeks.2.searched seeks.1 idle)
        | schedule | offer =>
            simp only [Call.step] at offers
            split at offers <;> cases offers
        | bind | discard | markIdle | pushIdle => cases offers
        | _ => simp [Call.searches] at other
  | resume s signal frame frames =>
      have flows := frame.flows s signal
      generalize frame.resume s signal = move at flows offers
      cases flows <;> cases offers
  | begin s signal action => cases offers
  | deliver signal earlier later due => cases offers
  | drop s signal => cases offers

theorem Run.sought {past : List Moment} {now : Moment} (run : Run (.initial s) past now) :
    now.Sought := by
  cases run with
  | start => exact fun _ _ offers => by cases offers
  | next run step => exact step.sought run.searching

/-! ### The detour -/

/-- The unit of work that begins to run with the next step, if one does, and its slot. -/
def Moment.assigns (m : Moment) : List (SlotId × Work) :=
  match m.thread.control with
  | .call (.perform slot work) => [(slot, work)]
  | _ => []

/-- A search passes the devices that have no idle slot. -/
theorem State.leads_walk (s : State) {earlier : List String} (devices : List String)
    (frames : List Frame) (empty : ∀ name ∈ earlier, s.idle name = []) :
    ∃ passed, Moment.Leads ⟨s, ⟨.call (.walk (earlier ++ devices) false), frames⟩⟩ frames passed
        ⟨s, ⟨.call (.walk devices false), frames⟩⟩
      ∧ ∀ m ∈ passed, ∃ names, m.thread.control = .call (.walk names false) := by
  induction earlier with
  | nil => exact ⟨[], .refl _ _, List.forall_mem_nil _⟩
  | cons name earlier ih =>
      obtain ⟨passed, leads, walks⟩ := ih fun other mem => empty other (List.mem_cons_of_mem _ mem)
      have step := Call.step_walk_of_empty (empty name List.mem_cons_self)
        (earlier ++ devices) false
      exact ⟨_ :: passed, leads.call _ [] step, List.forall_mem_cons.mpr ⟨⟨_, rfl⟩, walks⟩⟩

variable {id : String} {r : Nat} {job : Job} {rest : List Work} {slot : SlotId}
  {devices : List String}

/-- The unit of a cancelled request comes to the head of the queue: the thread takes the slot for
it, hands the slot back, and offers it again. -/
theorem State.detour (frames : List Frame) (shape : s.queue = .request id r job :: rest)
    (cancelled : s.isCancelled r = true) (searched : s.Searched slot devices)
    (bound : (s.slot slot).bound = false) (pinned : (s.slot slot).pinned = false)
    (none : (s.slot slot).continuation = none) (distinct : (s.slots.map Slot.id).Nodup)
    (names : s.deviceNames.Nodup) (listed : s.Listed) :
    ∃ passed requests, SameBut r s.requests requests
      ∧ Moment.Leads ⟨s, ⟨.call (.offer slot devices), frames⟩⟩ frames passed
          ⟨s.recast rest requests, ⟨.call (.offer slot devices), frames⟩⟩
      ∧ passed.flatMap Moment.assigns = [(slot, .request id r job)] := by
  have known := searched.known listed
  obtain ⟨serving, earlier, list, empty⟩ := searched
  let taken := { s with queue := rest }
  let marked := taken.modifySlot slot fun slot => { slot with bound := true, pinned := true }
  let settled := (marked.settle r (.error .cancelled)).release r .unit
  let back := s.recast rest settled.requests
  have left : (settled.slot slot).continuation = .none := by
    change (marked.slot slot).continuation = _
    rcases taken.slot_modifySlot_cases slot slot
      (fun slot => { slot with bound := true, pinned := true }) (by intro; rfl) with
        same | ⟨-, same⟩
    · exact (congrArg Slot.continuation same).trans none
    · exact (congrArg Slot.continuation same).trans none
  have cleared : settled.clearContinuation slot
      = settled.modifySlot slot fun slot => { slot with continuation := .none } := by
    simp only [clearContinuation, left, dropContinuation]
  -- The marks that are set are taken off again, so the slots are as they were.
  have unmarked : ((settled.clearContinuation slot).modifySlot slot fun slot =>
      { slot with bound := false, pinned := false }) = back := by
    have same : s.modifySlot slot (fun slot =>
        { slot with bound := false, pinned := false, continuation := .none }) = s := by
      have whole : s.slot slot = { s.slot slot with
          bound := (s.slot slot).bound, pinned := (s.slot slot).pinned,
          continuation := (s.slot slot).continuation } := rfl
      rw [bound, pinned, none] at whole
      exact modifySlot_eq_self distinct whole.symm
    have slots := congrArg State.slots same
    rw [cleared, modifySlot_modifySlot _ _ (by intro; rfl)]
    have slots' : ((marked.modifySlot slot fun slot =>
        { slot with bound := false, pinned := false, continuation := .none })).slots = s.slots := by
      rw [modifySlot_modifySlot _ _ (by intro; rfl)]
      exact slots
    exact congrArg (fun slots => { back with slots }) slots'
  have popped : (back.pushIdle slot).popIdle slot.device = some (slot.index, back) :=
    popIdle_pushIdle names known
  have passes : ∀ name ∈ earlier, (back.pushIdle slot).idle name = [] := by
    intro name mem
    have once := list ▸ listed.distinct
    have other : name ≠ slot.device := fun same =>
      (List.nodup_append.mp once).2.2 name mem slot.device List.mem_cons_self same
    rw [idle_pushIdle_of_ne other]
    exact empty name mem
  obtain ⟨passed, leads, walks⟩ :=
    (back.pushIdle slot).leads_walk (slot.device :: devices) frames passes
  have unassigned : passed.flatMap Moment.assigns = [] := by
    refine List.flatMap_eq_nil_iff.mpr fun m mem => ?_
    obtain ⟨names, control⟩ := walks m mem
    simp only [Moment.assigns, control]
  have list' : (back.pushIdle slot).priorities.map Preference.name
      = earlier ++ slot.device :: devices := list
  have takes : Call.step (back.pushIdle slot) (.walk (slot.device :: devices) false)
      = .call back (.offer slot devices) := by simp only [Call.step, popped]
  have schedules : Call.step (back.pushIdle slot) .schedule
      = .call (back.pushIdle slot) (.walk (earlier ++ slot.device :: devices) false) := by
    rw [Call.step_schedule (s := back.pushIdle slot) serving, list']
  have unmarks : Call.step (settled.clearContinuation slot) (.markIdle slot)
      = .call back (.pushIdle slot) := by simp only [Call.step, unmarked]
  have declines : Call.step marked (.perform slot (.request id r job))
      = .signal settled .declined := by
    have flag : marked.isCancelled r = true := cancelled
    simp only [Call.step, perform, flag, if_true]
    rfl
  have takes' : Call.step s (.offer slot devices) = .call taken (.bind slot (.request id r job)) :=
    Call.step_offer shape devices
  have again := (leads.trans ((Moment.Leads.refl _ _).call _ [] takes)).call _ [] schedules
  have returned := again.resume (.returned .done) .reschedule [] rfl
  have handed := ((returned.call (.pushIdle slot) [.reschedule] rfl).call _ [.reschedule]
    unmarks).call (.discard slot) [.reschedule] rfl
  have declined := handed.resume .declined (.bound slot) [] rfl
  have bounds := ((declined.call _ [.bound slot] declines).call
    (.bind slot (.request id r job)) [] rfl).call _ [] takes'
  refine ⟨_, _, ?_, bounds, ?_⟩
  · exact (((SameBut.refl r s.requests).modify_left (Request.unresolved_settle _)).modify_left
      (Request.unresolved_release .unit)).symm
  · simp [Moment.assigns, unassigned]

end Steps

end SlotDispatch
