import Mathlib.Algebra.Order.BigOperators.Group.List
import Mathlib.Algebra.Order.Group.Nat
import Mathlib.Algebra.Ring.Nat
import SlotDispatch.Proofs.Discipline
import SlotDispatch.Proofs.Walk
import SlotDispatch.Proofs.Conservation

/-!
When a unit of work waits although a slot is idle that could be offered to it. Each operation
binds at most one unit, which is enough as long as it makes at most one more pair of a unit
and a slot possible. A submission, a completion and a unit that fails do no more. A change of
the priority list may list many idle slots at once while many units wait, and only the first
pair is bound: `idle_slots_can_meet_queued_work` is such a run. What holds is
`surplus_stems_from_reconfiguration`: no other operation leaves a pair behind, nor does any
make the pairs more that the last change of the list left.

The proof bounds the pairs at every moment (`Moment.Within`). A moment that has just triggered
scheduling may exceed the bound by one, and the walk that follows makes up for it.
-/

namespace SlotDispatch

/-! ### Pairs of units and slots -/

namespace State

/-- The number of idle slots on the devices of the priority list. -/
def offered (s : State) : Nat := (s.priorities.map fun entry => (s.idle entry.name).length).sum

/-- The number of units of work that wait although an idle slot could be offered to each. -/
def surplus (s : State) : Nat := min s.queue.length s.offered

theorem offered_eq_zero {s : State} :
    s.offered = 0 ↔ ∀ entry ∈ s.priorities, s.idle entry.name = [] := by
  simp [offered, List.sum_eq_zero_iff]

theorem surplus_eq_zero {s : State} :
    s.surplus = 0 ↔ s.queue = [] ∨ ∀ entry ∈ s.priorities, s.idle entry.name = [] := by
  rw [surplus, ← offered_eq_zero, ← List.length_eq_zero_iff]
  omega

theorem offered_congr {s t : State} (priorities : t.priorities = s.priorities)
    (pools : t.pools = s.pools) : t.offered = s.offered := by
  unfold offered
  rw [priorities]
  refine congrArg List.sum (List.map_congr_left fun entry _ => ?_)
  rw [idle_of_samePools pools]

theorem surplus_congr {s t : State} (queue : t.queue = s.queue)
    (priorities : t.priorities = s.priorities) (pools : t.pools = s.pools) :
    t.surplus = s.surplus := by
  rw [surplus, surplus, queue, offered_congr priorities pools]

theorem Undisturbed.surplus {s t : State} (same : Undisturbed s t) : t.surplus = s.surplus :=
  surplus_congr same.sameQueue same.samePriorities same.samePools

/-- One unit more that waits is one pair more at most. -/
theorem surplus_enqueued_le {s t : State} {work : Work} (queue : t.queue = s.queue ++ [work])
    (priorities : t.priorities = s.priorities) (pools : t.pools = s.pools) :
    t.surplus ≤ s.surplus + 1 := by
  rw [surplus, surplus, queue, offered_congr priorities pools, List.length_append]
  simp only [List.length_singleton]
  omega

/-- One slot more in a pool is one pair more at most, if no device is listed twice. -/
theorem offered_pushIdle_le {s : State}
    (distinct : (s.priorities.map Preference.name).Nodup) (slot : SlotId) :
    (s.pushIdle slot).offered ≤ s.offered + 1 := by
  have back (name : String) : ((s.pushIdle slot).idle name).length
      ≤ (s.idle name).length + if name = slot.device then 1 else 0 := by
    rw [pushIdle, idle_modifyDevice s slot.device (slot.index :: ·)]
    split <;> simp_all
  have bumped : ∀ entries : List Preference, (entries.map Preference.name).Nodup →
      (entries.map fun entry => ((s.pushIdle slot).idle entry.name).length).sum
        ≤ (entries.map fun entry => (s.idle entry.name).length).sum
          + if slot.device ∈ entries.map Preference.name then 1 else 0 := by
    intro entries
    induction entries with
    | nil => simp
    | cons entry rest ih =>
        intro distinct
        obtain ⟨fresh, distinct⟩ := List.nodup_cons.mp distinct
        have below := ih distinct
        have here := back entry.name
        simp only [List.map_cons, List.sum_cons, List.mem_cons]
        by_cases same : entry.name = slot.device
        · rw [same] at fresh here
          simp only [fresh, if_false] at below
          simp only [if_true] at here
          simp only [same, true_or, if_true]
          omega
        · have same' : slot.device ≠ entry.name := Ne.symm same
          simp only [same, if_false] at here
          simp only [same', false_or]
          omega
  have all := bumped s.priorities distinct
  unfold offered
  change (s.priorities.map fun entry => ((s.pushIdle slot).idle entry.name).length).sum ≤ _
  split at all <;> omega

/-- A slot that is taken from the pool of a listed device is a pair less. -/
theorem offered_popped_lt {s : State} {name : String} {index : Nat} {left : List Nat}
    (idle : s.idle name = index :: left) (listed : ∃ entry ∈ s.priorities, entry.name = name) :
    (s.modifyDevice name fun device => { device with idle := left }).offered < s.offered := by
  have fewer (other : String) :
      ((s.modifyDevice name fun device => { device with idle := left }).idle other).length
        ≤ (s.idle other).length := by
    rw [idle_modifyDevice s name (fun _ => left)]
    split
    · next here => simp [here.1, idle]
    · exact Nat.le_refl _
  obtain ⟨entry, mem, rfl⟩ := listed
  apply List.sum_lt_sum _ _ (fun other _ => fewer other.name)
  refine ⟨entry, mem, ?_⟩
  have known : (s.device? entry.name).isSome = true := by
    by_contra unknown
    simp only [Bool.not_eq_true, Option.isSome_eq_false_iff, Option.isNone_iff_eq_none] at unknown
    simp [State.idle, unknown] at idle
  rw [idle_modifyDevice s entry.name (fun _ => left), if_pos ⟨rfl, known⟩, idle]
  simp

/-! ### Lists that are installed -/

/-- A list is installed only while the dispatcher serves, and names no device twice. -/
theorem of_setPriorities {s t : State} {entries : List Preference} {text : String}
    (set : s.setPriorities entries text = .ok t) :
    s.serving = true ∧ (t.priorities.map Preference.name).Nodup := by
  rw [setPriorities_eq set]
  simp only [setPriorities] at set
  split at set
  · cases set
  · cases set
  · next distinct =>
      refine ⟨?_, nodup_of_checkDistinct distinct⟩
      split at set
      · next serving => exact serving
      · cases set

theorem of_reconfigured? {s t : State} {action : Action} (set : s.reconfigured? action = some t) :
    s.serving = true ∧ (t.priorities.map Preference.name).Nodup
      ∧ ∀ scope, s.act scope action = .await t .schedule (.answer .accepted) := by
  obtain ⟨entries, text, listed⟩ := setPriorities_of_reconfigured? set
  obtain ⟨serving, distinct⟩ := of_setPriorities listed
  have present : s.phase ≠ .dropped := by
    intro dropped
    simp [State.serving, dropped] at serving
  refine ⟨serving, distinct, fun scope => ?_⟩
  rcases reconfigured?_eq_some.mp set with ⟨entries, rfl, result⟩ | ⟨config, rfl, result⟩
  · simp [act, Move.onDispatcher, present, reconfigured, result]
  · simp [act, Move.onDispatcher, present, reconfigured, result]

end State

/-- The list that a dispatcher is built with names no device twice. -/
theorem nodup_of_construct {backends : List Backend} {priorities : List Preference} {s : State}
    (built : (construct backends priorities).result = .ok s) :
    (s.priorities.map Preference.name).Nodup := by
  obtain ⟨configured, lists, rfl⟩ := construct_configured built
  exact lists.listedOnce

/-! ### Reconfigurations -/

/-- The state after the next step, if that installs a priority list. -/
def Moment.installs (m : Moment) : Option State :=
  match m.thread.control with
  | .call (.act _ action) => m.state.reconfigured? action
  | _ => none

namespace Moment

/-- A list that is installed takes effect at once, and scheduling follows. -/
theorem Step.of_installs {m after : Moment} {t : State} (step : m.Step after)
    (installs : m.installs = some t) :
    (t.priorities.map Preference.name).Nodup ∧ after.state = t
      ∧ after.thread.control = .call .schedule := by
  cases step with
  | call s call frames =>
      cases call with
      | act scope action =>
          obtain ⟨-, distinct, act⟩ := State.of_reconfigured? installs
          refine ⟨distinct, ?_⟩
          simp only [Call.step, act]
          exact ⟨rfl, rfl⟩
      | _ => cases installs
  | resume | begin | deliver | drop => cases installs

/-- No other step changes the priority list, except that it is emptied at the end. -/
theorem Step.priorities_cases {m after : Moment} (step : m.Step after)
    (none : m.installs = none) :
    after.state.priorities = m.state.priorities
      ∨ after.state.priorities = [] ∧ after.state.serving = false := by
  cases step with
  | call s call frames =>
      cases call with
      | act scope action =>
          have acts := s.acts scope action
          simp only [Call.step, Move.onto]
          generalize s.act scope action = move at acts
          cases acts with
          | reordered entries text _ installs => simp [installs, Moment.installs] at none
          | continued scope' id script =>
              exact .inl (State.undisturbed_setContinuation _ _ _).samePriorities
          | shutDown =>
              rcases s.shutdown_eq with ⟨-, eq⟩ | ⟨-, requests, eq⟩
              · exact .inl (by rw [eq]; rfl)
              · exact .inr ⟨by rw [eq]; rfl, s.serving_shutdown⟩
          | _ => exact .inl rfl
      | offer slot devices =>
          simp only [Call.step]
          split <;> exact .inl rfl
      | _ => exact .inl (Call.sameWork_step s rfl).samePriorities
  | resume s signal frame frames => exact .inl (frame.undisturbed_resume s signal).samePriorities
  | begin s signal action => exact .inl rfl
  | deliver signal earlier later due => exact .inl rfl
  | drop s signal =>
      have detached (t : State) : t.detachUnpinned.priorities = t.priorities :=
        (State.undisturbed_detachUnpinned t).samePriorities
      have closed : s.drop.1.serving = false := by simp [State.serving, s.phase_drop]
      refine Or.imp_right (⟨·, closed⟩) ?_
      simp only [State.drop]
      split
      · exact .inl rfl
      · rw [detached]
        rcases { s with pending := s.pending.filter fun entry => !entry.2.awaited }.shutdown_eq with
          ⟨-, eq⟩ | ⟨-, requests, eq⟩
        · exact .inl (by rw [eq])
        · exact .inr (by rw [eq])

/-- The priority list names no device twice, whatever is installed. -/
theorem Step.distinct {m after : Moment} (step : m.Step after)
    (distinct : (m.state.priorities.map Preference.name).Nodup) :
    (after.state.priorities.map Preference.name).Nodup := by
  cases installs : m.installs with
  | some t =>
      obtain ⟨distinct, rfl, -⟩ := step.of_installs installs
      exact distinct
  | none =>
      rcases step.priorities_cases installs with same | ⟨empty, -⟩
      · rw [same]
        exact distinct
      · rw [empty]
        exact List.nodup_nil

end Moment

/-! ### The bound -/

/-- At this moment at most `bound` pairs are possible. Where scheduling has been triggered,
the pair that it will bind comes on top; a slot that was found is still part of its pair. -/
def Moment.Within (bound : Nat) (m : Moment) : Prop :=
  match m.thread with
  | ⟨.call .schedule, _⟩ | ⟨.call (.walk _ _), _⟩ | ⟨.signal (.returned _), .reschedule :: _⟩ =>
      m.state.surplus ≤ bound + 1
  | ⟨.call (.offer _ _), _⟩ => min m.state.queue.length (m.state.offered + 1) ≤ bound + 1
  | _ => m.state.surplus ≤ bound

/-- Nothing more is asked of any moment, unless a slot was just found. -/
theorem Moment.within_of_le {m : Moment} {bound : Nat} (le : m.state.surplus ≤ bound)
    (apart : m.thread.control.seeks = false) : m.Within bound := by
  obtain ⟨s, control, frames⟩ := m
  unfold Moment.Within
  split
  · exact Nat.le_succ_of_le le
  · simp_all [Control.seeks]
  · exact Nat.le_succ_of_le le
  · simp_all [Control.seeks]
  · exact le

section Steps

variable {s : State} {frames : List Frame} {bound : Nat}

/-- An action that installs no list makes one pair more possible at most, and then triggers
scheduling. -/
theorem State.Acts.within {scope : Option Scope} {action : Action} {move : Move}
    (acts : s.Acts scope action move) (none : s.reconfigured? action = none)
    (within : s.surplus ≤ bound) : (move.onto frames).Within bound := by
  have apart := (acts.flows.apart rfl).1
  have same {t : State} (undisturbed : Undisturbed s t) : t.surplus ≤ bound :=
    undisturbed.surplus.trans_le within
  have more {t : State} {work : Work} (queue : t.queue = s.queue ++ [work])
      (priorities : t.priorities = s.priorities) (pools : t.pools = s.pools) :
      t.surplus ≤ bound + 1 :=
    (surplus_enqueued_le queue priorities pools).trans (Nat.add_le_add_right within 1)
  cases acts with
  | submitted id script => exact more rfl rfl rfl
  | requested id job cancelled handles frame => exact more rfl rfl rfl
  | reordered entries text _ installs => simp [installs] at none
  | shutDown =>
      refine Moment.within_of_le ?_ apart
      change s.shutdown.surplus ≤ bound
      rcases s.shutdown_eq with ⟨-, eq⟩ | ⟨-, requests, eq⟩
      · rw [eq]
        exact within
      · rw [eq]
        simp [State.surplus]
  | continued scope' id script =>
      exact Moment.within_of_le (same (undisturbed_setContinuation _ _ _)) apart
  | answered devices pending answer _ pools =>
      exact Moment.within_of_le (same ⟨⟨pools, rfl⟩, rfl, rfl, rfl⟩) apart
  | _ => exact Moment.within_of_le (same ⟨⟨rfl, rfl⟩, rfl, rfl, rfl⟩) apart

/-- A walk passes devices without idle slots, or takes a pair for the unit it will bind. -/
theorem Call.within_walk {devices : List String} {handedBack : Bool}
    (searching : Moment.Searching ⟨s, ⟨.call (.walk devices handedBack), frames⟩⟩)
    (within : s.surplus ≤ bound + 1) :
    ((Call.step s (.walk devices handedBack)).onto frames).Within bound := by
  have seeks := searching.seeks
  have empty (none : s.queue = []) : s.surplus = 0 := State.surplus_eq_zero.mpr (.inl none)
  cases devices with
  | nil =>
      have none : s.surplus = 0 := by
        cases handedBack with
        | true => exact empty seeks
        | false =>
            obtain ⟨-, earlier, later, list, devices, idle⟩ :
              s.serving = true ∧ s.Passed [] := seeks
            obtain rfl : later = [] := List.map_eq_nil_iff.mp devices.symm
            rw [State.surplus_eq_zero, list, List.append_nil]
            exact .inr idle
      simp only [step]
      split
      · exact Moment.within_of_le (none.trans_le (Nat.zero_le _)) rfl
      · exact Moment.within_of_le (none.trans_le (Nat.zero_le _)) rfl
  | cons device rest =>
      simp only [step]
      split
      · exact within
      · next index t popped =>
          obtain ⟨left, idle, rfl⟩ := State.popIdle_eq_some popped
          cases handedBack with
          | true =>
              have none : s.queue.length = 0 := by
                rw [show s.queue = [] from seeks]
                rfl
              change min s.queue.length _ ≤ bound + 1
              omega
          | false =>
              obtain ⟨-, earlier, later, list, devices, -⟩ :
                s.serving = true ∧ s.Passed (device :: rest) := seeks
              have listed : ∃ entry ∈ s.priorities, entry.name = device := by
                cases later with
                | nil => cases devices
                | cons entry later =>
                    refine ⟨entry, ?_, (List.cons.inj devices).1.symm⟩
                    rw [list]
                    exact List.mem_append_right _ List.mem_cons_self
              have fewer := State.offered_popped_lt idle listed
              unfold State.surplus at within
              have paired : min s.queue.length
                  ((s.modifyDevice device fun device => { device with idle := left }).offered + 1)
                    ≤ bound + 1 := by omega
              exact paired

/-- A slot that returns to its pool makes one pair more possible at most, and triggers
scheduling, unless no unit waits. -/
theorem Call.within_pushIdle {slot : SlotId}
    (distinct : (s.priorities.map Preference.name).Nodup)
    (searching : Moment.Searching ⟨s, ⟨.call (.pushIdle slot), frames⟩⟩)
    (returning : ∃ frame ∈ frames.head?, frame.awaitsSlot = true) (within : s.surplus ≤ bound) :
    ((Call.step s (.pushIdle slot)).onto frames).Within bound := by
  obtain ⟨frame, head, awaits⟩ := returning
  obtain ⟨below, rfl⟩ : ∃ below, frames = frame :: below := by
    cases frames with
    | nil => cases head
    | cons first below => exact ⟨below, by simpa using head⟩
  cases frame with
  | walk devices =>
      have empty : s.queue = [] := (searching.waits _ rfl rfl).2
      have none : (s.pushIdle slot).surplus = 0 := State.surplus_eq_zero.mpr (.inl empty)
      exact Moment.within_of_le (none.trans_le (Nat.zero_le _)) rfl
  | reschedule =>
      have more := State.offered_pushIdle_le distinct slot
      change min s.queue.length (s.pushIdle slot).offered ≤ bound + 1
      unfold State.surplus at within
      omega
  | _ => simp [Frame.awaitsSlot] at awaits

theorem Call.within_step {call : Call}
    (distinct : (s.priorities.map Preference.name).Nodup)
    (closed : s.serving = false → s.queue = [])
    (searching : Moment.Searching ⟨s, ⟨.call call, frames⟩⟩)
    (returning : (Control.call call).returns = true →
      ∃ frame ∈ frames.head?, frame.awaitsSlot = true)
    (none : Moment.installs ⟨s, ⟨.call call, frames⟩⟩ = none)
    (within : Moment.Within bound ⟨s, ⟨.call call, frames⟩⟩) :
    ((call.step s).onto frames).Within bound := by
  have still (work : call.movesWork = false) (pools : call.movesPools = false)
      (apart : (call.step s).control.seeks = false) (within : s.surplus ≤ bound) :
      ((call.step s).onto frames).Within bound := by
    have same := sameWork_step s work
    refine Moment.within_of_le ?_ apart
    exact (State.surplus_congr same.sameQueue same.samePriorities (samePools_step s pools)).trans_le
      within
  cases call with
  | act scope action => exact (s.acts scope action).within none within
  | schedule =>
      have within : s.surplus ≤ bound + 1 := within
      simp only [step]
      split
      · exact within
      · next ended =>
          have empty := closed (by simpa using ended)
          have zero : s.surplus = 0 := State.surplus_eq_zero.mpr (.inl empty)
          exact Moment.within_of_le (zero.trans_le (Nat.zero_le _)) rfl
  | walk devices handedBack => exact within_walk searching within
  | offer slot devices =>
      have within : min s.queue.length (s.offered + 1) ≤ bound + 1 := within
      simp only [step]
      split
      · next empty =>
          have zero : s.surplus = 0 := State.surplus_eq_zero.mpr (.inl empty)
          exact zero.trans_le (Nat.zero_le _)
      · next work rest shape =>
          rw [shape, List.length_cons] at within
          change min rest.length s.offered ≤ bound
          omega
  | pushIdle slot => exact within_pushIdle distinct searching (returning rfl) within
  | bind slot work => exact within
  | markIdle slot => exact within
  | discard slot => exact still rfl rfl rfl within
  | _ => exact still rfl rfl ((Call.flows s _).apart rfl).1 within

theorem Frame.within_resume {signal : Signal} {frame : Frame}
    (within : Moment.Within bound ⟨s, ⟨.signal signal, frame :: frames⟩⟩) :
    ((frame.resume s signal).onto frames).Within bound := by
  have same := (frame.undisturbed_resume s signal).surplus
  by_cases schedules : ∃ answer, frame = .reschedule ∧ signal = .returned answer
  · obtain ⟨answer, rfl, rfl⟩ := schedules
    exact within
  · have le : s.surplus ≤ bound := by
      unfold Moment.Within at within
      split at within
      · simp_all
      · simp_all
      · simp_all
      · simp_all
      · exact within
    by_cases walks : frame.isWalk = false
    · exact Moment.within_of_le (same.trans_le le) ((frame.flows s signal).apart walks).1
    · cases frame with
      | walk devices =>
          cases signal with
          | returned answer => exact Nat.le_succ_of_le le
          | _ => exact Moment.within_of_le (same.trans_le le) rfl
      | _ => simp [isWalk] at walks

/-- Every step that installs no list keeps the bound. -/
theorem Moment.Step.within {m after : Moment} {counts : List Nat} (step : m.Step after)
    (distinct : (m.state.priorities.map Preference.name).Nodup)
    (closed : m.state.serving = false → m.state.queue = []) (searching : m.Searching)
    (shaped : m.Shaped counts) (none : m.installs = none) (within : m.Within bound) :
    after.Within bound := by
  cases step with
  | call s call frames =>
      exact Call.within_step distinct closed searching shaped.returning none within
  | resume s signal frame frames => exact Frame.within_resume within
  | begin s signal action => cases signal <;> exact within
  | deliver signal earlier later due => cases signal <;> exact within
  | drop s signal =>
      refine Moment.within_of_le ?_ rfl
      have empty : s.drop.1.queue = [] := by
        rw [s.queue_drop]
        split
        · rfl
        · next ended => exact closed (by simpa using ended)
      exact (State.surplus_eq_zero.mpr (.inl empty)).trans_le (Nat.zero_le _)

end Steps

/-! ### Runs -/

section Run

variable {backends : List Backend} {priorities : List Preference} {s : State}
  {past later : List Moment} {m now : Moment} {bound : Nat}

/-- What a run in which nothing panics relies on when it counts pairs. -/
structure Moment.Counted (counts : List Nat) (m : Moment) : Prop where
  shaped : m.Shaped counts
  searching : m.Searching
  distinct : (m.state.priorities.map Preference.name).Nodup
  closed : m.state.serving = false → m.state.queue = []

theorem Run.counted (built : (construct backends priorities).result = .ok s)
    (run : Run (.initial s) past now) (calm : Calm past) : now.Counted (starts past) := by
  have closed {past : List Moment} {now : Moment} (run : Run (.initial s) past now)
      (ended : now.state.serving = false) : now.state.queue = [] := (run.emptied built ended).1
  induction run with
  | start =>
      exact ⟨⟨by simp [Moment.initial], nofun, rfl⟩, Run.start.searching,
        nodup_of_construct built, closed .start⟩
  | @next past now after run step ih =>
      have counted := ih fun m mem => calm m (List.mem_append_left _ mem)
      have here := calm now (List.mem_append_right _ List.mem_cons_self)
      rw [starts_append_singleton]
      exact ⟨step.shaped here counted.shaped, step.searching counted.searching,
        step.distinct counted.distinct, closed (run.next step)⟩

/-- The bound holds until a list is installed. -/
theorem Run.within (built : (construct backends priorities).result = .ok s)
    (upTo : Run (.initial s) past m) (run : Run m later now) (calm : Calm (past ++ later))
    (none : ∀ other ∈ later, other.installs = none) (within : m.Within bound) :
    now.Within bound := by
  induction run with
  | start => exact within
  | @next later now after run step ih =>
      have calm' : Calm (past ++ later) := by
        intro other mem
        refine calm other ?_
        rw [← List.append_assoc]
        exact List.mem_append_left _ mem
      have counted := (upTo.append run).counted built calm'
      have before := ih calm' fun other mem => none other (List.mem_append_left _ mem)
      exact step.within counted.distinct counted.closed counted.searching counted.shaped
        (none now (List.mem_append_right _ List.mem_cons_self)) before

/-- No pair is possible unless a list was installed, and then fewer than it made possible. -/
theorem Run.within_or_installs (built : (construct backends priorities).result = .ok s)
    (run : Run (.initial s) past now) (calm : Calm past) :
    now.Within 0 ∨ ∃ before m later t, past = before ++ m :: later ∧ m.installs = some t
      ∧ (∀ other ∈ later, other.installs = none) ∧ now.Within (t.surplus - 1) := by
  induction run with
  | start =>
      obtain ⟨configured, -, rfl⟩ := construct_ok built
      exact .inl (Moment.within_of_le (State.surplus_eq_zero.mpr (.inl rfl)).le rfl)
  | @next past now after run step ih =>
      have calm' : Calm past := fun m mem => calm m (List.mem_append_left _ mem)
      have counted := run.counted built calm'
      cases installs : now.installs with
      | some t =>
          obtain ⟨-, rfl, schedules⟩ := step.of_installs installs
          refine .inr ⟨past, now, [], after.state, rfl, installs, by simp, ?_⟩
          obtain ⟨state, control, frames⟩ := after
          obtain rfl : control = .call .schedule := schedules
          change state.surplus ≤ state.surplus - 1 + 1
          omega
      | none =>
          have keeps {bound : Nat} (within : now.Within bound) : after.Within bound :=
            step.within counted.distinct counted.closed counted.searching counted.shaped installs
              within
          rcases ih calm' with within | ⟨before, m, later, t, rfl, set, none, within⟩
          · exact .inl (keeps within)
          · refine .inr ⟨before, m, later ++ [now], t, by simp, set, ?_, keeps within⟩
            intro other mem
            rcases List.mem_append.mp mem with mem | mem
            · exact none other mem
            · rw [List.mem_singleton.mp mem]
              exact installs

/-- Between operations the bound counts what is there. -/
theorem Moment.AtRest.within (atRest : m.AtRest) : m.Within bound ↔ m.state.surplus ≤ bound := by
  obtain ⟨state, thread⟩ := m
  obtain ⟨signal, rfl⟩ := atRest
  cases signal <;> rfl

/-! ### The law -/

/-- A unit of work waits although a slot is idle that could be offered to it only after the
priority list was changed, as long as nothing panics. Between operations there is no such
unit or no such slot, unless the last list that was installed made more pairs of them
possible, at the moment at which it was installed, than there are now. And until the next
list is installed, they never become more from one operation to a later one. -/
theorem surplus_stems_from_reconfiguration
    (built : (construct backends priorities).result = .ok s) (run : Run (.initial s) past now)
    (calm : Calm past) (atRest : now.AtRest) :
    ((now.state.queue = [] ∨ ∀ entry ∈ now.state.priorities, now.state.idle entry.name = [])
        ∨ ∃ before m later t, past = before ++ m :: later ∧ m.installs = some t
          ∧ (∀ other ∈ later, other.installs = none) ∧ now.state.surplus < t.surplus)
      ∧ ∀ before m later, past = before ++ m :: later → m.AtRest →
        (∀ other ∈ m :: later, other.installs = none) →
          now.state.surplus ≤ m.state.surplus := by
  constructor
  · rw [← State.surplus_eq_zero]
    rcases run.within_or_installs built calm with within | ⟨before, m, later, t, split, rest⟩
    · exact .inl (Nat.le_zero.mp (atRest.within.mp within))
    · obtain ⟨installs, none, within⟩ := rest
      have within := atRest.within.mp within
      by_cases zero : now.state.surplus = 0
      · exact .inl zero
      · exact .inr ⟨before, m, later, t, split, installs, none, by omega⟩
  · rintro before m later rfl rests none
    obtain ⟨upTo, onward⟩ := run.split
    exact atRest.within.mp (upTo.within built onward calm none (rests.within.mpr (Nat.le_refl _)))

end Run

/-- A device of two slots that the priority list does not name. -/
def State.unlisted : State :=
  .ofConfigured [(⟨"A", "net", .ok 2, none, false, ⟨.manual, .ok, none⟩⟩, 2)] []

theorem State.construct_unlisted :
    (construct [⟨"A", "net", .ok 2, none, false, ⟨.manual, .ok, none⟩⟩] []).result
      = .ok .unlisted := rfl

/-- Two units of work that wait, and then a list that names the device of both slots: only one
of the units is bound. -/
theorem surplus_stems_from_reconfiguration_unlisted :
    let played := Moment.operations 40 (.initial .unlisted)
      [.submit "u" [.start], .submit "v" [.start], .setPriorities [⟨"A", none⟩]]
    played.2.state.surplus = 1 ∧ Throughout Moment.Exact played.1
      ∧ ∃ before m later t, played.1 = before ++ m :: later ∧ m.installs = some t
        ∧ played.2.state.surplus < t.surplus := by
  have keeps : Throughout Moment.Exact (Moment.operations 40 (.initial .unlisted)
      [.submit "u" [.start], .submit "v" [.start], .setPriorities [⟨"A", none⟩]]).1 :=
    throughout_of_passes (fun _ _ => Moment.exact_of_check) (by decide +kernel)
  have law := surplus_stems_from_reconfiguration State.construct_unlisted
    (Run.operations 40 (.initial .unlisted)
      [.submit "u" [.start], .submit "v" [.start], .setPriorities [⟨"A", none⟩]])
    (keeps.mono fun _ _ here => here.toOrderly).calm ⟨.returned .accepted, rfl⟩
  refine ⟨by decide +kernel, keeps, ?_⟩
  obtain ⟨before, m, later, t, split, installs, -, fewer⟩ :=
    law.1.resolve_left (by rw [← State.surplus_eq_zero]; decide +kernel)
  exact ⟨before, m, later, t, split, installs, fewer⟩

/-- Even if every unit of work starts its slot once, completions come only from executing
slots and nothing panics, an idle slot of a listed device can meet a unit that waits. -/
theorem idle_slots_can_meet_queued_work :
    ¬ ∀ (backends : List Backend) (priorities : List Preference) (s : State)
        (past : List Moment) (now : Moment),
      (construct backends priorities).result = .ok s → Run (.initial s) past now →
        Throughout Moment.Exact past → now.AtRest → now.state.serving = true →
          now.state.queue ≠ [] → ∀ entry ∈ now.state.priorities,
            now.state.idle entry.name = [] := by
  intro claim
  have idle := claim _ _ .unlisted _ _ State.construct_unlisted
    (Run.operations 40 (.initial .unlisted)
      [.submit "u" [.start], .submit "v" [.start], .setPriorities [⟨"A", none⟩]])
    (throughout_of_passes (fun _ _ => Moment.exact_of_check) (by decide +kernel))
    ⟨.returned .accepted, rfl⟩ rfl (List.cons_ne_nil _ _) ⟨"A", none⟩ List.mem_cons_self
  exact absurd idle (by decide +kernel)

end SlotDispatch
