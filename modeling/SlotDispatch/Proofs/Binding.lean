import SlotDispatch.Proofs.Conservation
import SlotDispatch.Proofs.Exclusivity
import SlotDispatch.Proofs.Walk

/-!
Every binding is the right one. When a unit of work begins to run, the dispatcher serves, no
older unit waits, the devices that the list of that very moment prefers have no idle slot, and
among the idle slots of its device the one bound was returned last. No assumption on devices
or callers is needed, since a walk over the devices runs none of their code.

That a pool is a stack is read off the run. A slot in a pool lies on those that were there
when it was returned, or on those below it from the start, and these have stayed there since
(`RestsOn`). A step lemma says how one step changes a pool; the law for every slot in a pool
follows by induction over the run. The three steps before a unit of work begins to run are those
of its binding, the first of which took the slot (`TakenFrom`).
-/

namespace SlotDispatch

/-- In a run with the moments `past` behind it, a slot came to lie on the slots `others` of
its pool when it was returned, or lay on them from the start. Nothing of this has been taken
from the pool since. -/
def RestsOn (past : List Moment) (slot : SlotId) (others : List Nat) : Prop :=
  ∃ before since, past = before ++ since
    ∧ (before = [] ∨ ∃ earlier m, before = earlier ++ [m]
      ∧ m.thread.control = .call (.pushIdle slot) ∧ m.state.idle slot.device = others)
    ∧ ∀ m ∈ since, slot.index :: others <:+ m.state.idle slot.device

/-- The last three moments of the past are those of one binding. A walk over the devices found
the slot at the top of its pool, on the slots `others`; the slot was offered to the queue; and the
unit of work that was taken from the queue was bound to it. -/
def TakenFrom (past : List Moment) (slot : SlotId) (work : Work) (others : List Nat) : Prop :=
  ∃ before walk offer bind, past = before ++ [walk, offer, bind]
    ∧ (∃ devices handedBack,
      walk.thread.control = .call (.walk (slot.device :: devices) handedBack)
        ∧ offer.thread.control = .call (.offer slot devices))
    ∧ bind.thread.control = .call (.bind slot work)
    ∧ walk.state.idle slot.device = slot.index :: others ∧ RestsOn before slot others

variable {past : List Moment} {now : Moment}

/-! ### Pools -/

/-- A step leaves a pool as it is, takes its first slot, or returns a slot to it. -/
theorem Moment.Step.idle_cases {m after : Moment} (step : m.Step after) (name : String) :
    after.state.idle name = m.state.idle name
      ∨ (∃ index, m.state.idle name = index :: after.state.idle name)
      ∨ ∃ slot : SlotId, slot.device = name ∧ m.thread.control = .call (.pushIdle slot)
        ∧ after.state.idle name = slot.index :: m.state.idle name := by
  cases step with
  | call s call frames =>
      rcases call.idle_cases s name with same | taken | ⟨slot, at', rfl, pushed⟩
      · exact .inl same
      · exact .inr (.inl taken)
      · exact .inr (.inr ⟨slot, at', rfl, pushed⟩)
  | resume s signal frame frames => exact .inl ((frame.undisturbed_resume s signal).idle name)
  | begin s signal action => exact .inl rfl
  | deliver signal earlier later due => exact .inl rfl
  | drop s signal => exact .inl (s.sameSlots_drop.idle name)

/-- A slot that stays in its pool rests on what it did. -/
theorem RestsOn.stays {slot : SlotId} {others above : List Nat} (rests : RestsOn past slot others)
    (there : now.state.idle slot.device = above ++ slot.index :: others) :
    RestsOn (past ++ [now]) slot others := by
  obtain ⟨before, since, rfl, returned, stayed⟩ := rests
  refine ⟨before, since ++ [now], List.append_assoc .., returned, ?_⟩
  intro m mem
  rcases List.mem_append.mp mem with mem | mem
  · exact stayed m mem
  · rw [List.mem_singleton.mp mem, there]
    exact List.suffix_append above _

/-- Every slot in a pool rests on those below it. -/
theorem Run.restsOn {first : Moment} (run : Run first past now) {slot : SlotId}
    {above others : List Nat} (there : now.state.idle slot.device = above ++ slot.index :: others) :
    RestsOn past slot others := by
  induction run generalizing above with
  | start => exact ⟨[], [], rfl, .inl rfl, by simp⟩
  | @next past now after run step ih =>
      rcases step.idle_cases slot.device with same | ⟨index, taken⟩ | ⟨other, at', returns, pushed⟩
      · rw [same] at there
        exact (ih there).stays there
      · have before : now.state.idle slot.device = (index :: above) ++ slot.index :: others := by
          rw [taken, there]
          rfl
        exact (ih before).stays before
      · rw [there] at pushed
        cases above with
        | nil =>
            -- The slot is the one that has just been returned.
            obtain ⟨index, rfl⟩ := List.cons.inj pushed
            obtain rfl : slot = other := SlotId.eq_of_parts at'.symm index
            exact ⟨past ++ [now], [], by simp, .inr ⟨past, now, rfl, returns, rfl⟩, by simp⟩
        | cons top above =>
            have before : now.state.idle slot.device = above ++ slot.index :: others :=
              (List.cons.inj pushed).2.symm
            exact (ih before).stays before

/-! ### Slots that were taken -/

/-- Whether a control belongs to the binding of a slot that was found. -/
def Control.binds : Control → Bool
  | .call (.offer _ _) | .call (.bind _ _) | .call (.perform _ _) => true
  | _ => false

/-- Each call of a binding follows one call only: the offer the walk that found the slot, the
binding the offer, and the unit of work its binding. -/
def Control.Follows (call : Call) : Control → Prop
  | .call (.offer slot devices) => ∃ handedBack, call = .walk (slot.device :: devices) handedBack
  | .call (.bind slot _) => ∃ devices, call = .offer slot devices
  | .call (.perform slot work) => call = .bind slot work
  | _ => True

theorem Call.Flows.follows {call : Call} {move : Move} (flows : call.Flows move) :
    move.control.Follows call := by
  cases flows with
  | found => exact ⟨_, rfl⟩
  | used => exact ⟨_, rfl⟩
  | bind => rfl
  | _ => trivial

theorem Frame.Flows.binds {frame : Frame} {move : Move} (flows : frame.Flows move) :
    move.control.binds = false := by
  cases flows <;> rfl

section Binding

variable {m after : Moment} {slot : SlotId} {work : Work} {devices : List String}

/-- Only a call leads to the binding of a slot. -/
theorem Moment.Step.of_binds (step : m.Step after) (binds : after.thread.control.binds = true) :
    ∃ call frames, m.thread = ⟨.call call, frames⟩ ∧ after = (call.step m.state).onto frames
      ∧ after.thread.control.Follows call := by
  cases step with
  | call s call frames => exact ⟨call, frames, rfl, rfl, (call.flows s).follows⟩
  | resume s signal frame frames =>
      have unbound : (frame.resume s signal).control.binds = false := (frame.flows s signal).binds
      rw [Move.onto, unbound] at binds
      cases binds
  | begin s signal action => cases binds
  | deliver signal earlier later due => cases binds
  | drop s signal => cases binds

/-- A unit of work begins to run once it is bound. -/
theorem Moment.Step.of_perform (step : m.Step after)
    (performs : after.thread.control = .call (.perform slot work)) :
    m.thread.control = .call (.bind slot work) ∧ after.state.idle = m.state.idle := by
  obtain ⟨call, frames, thread, rfl, follows⟩ := step.of_binds (by rw [performs]; rfl)
  rw [performs] at follows
  obtain rfl : call = .bind slot work := follows
  exact ⟨congrArg Thread.control thread, rfl⟩

/-- A unit of work is bound to the slot that was offered. -/
theorem Moment.Step.of_bind (step : m.Step after)
    (binds : after.thread.control = .call (.bind slot work)) :
    ∃ devices, m.thread.control = .call (.offer slot devices)
      ∧ after.state.idle = m.state.idle := by
  obtain ⟨call, frames, thread, rfl, follows⟩ := step.of_binds (by rw [binds]; rfl)
  rw [binds] at follows
  obtain ⟨devices, rfl⟩ := follows
  refine ⟨devices, congrArg Thread.control thread, ?_⟩
  simp only [Move.onto, Call.step]
  split <;> rfl

/-- A slot that is offered was found at the top of its pool. -/
theorem Moment.Step.of_offer (step : m.Step after)
    (offers : after.thread.control = .call (.offer slot devices)) :
    ∃ handedBack, m.thread.control = .call (.walk (slot.device :: devices) handedBack)
      ∧ m.state.idle slot.device = slot.index :: after.state.idle slot.device := by
  obtain ⟨call, frames, thread, rfl, follows⟩ := step.of_binds (by rw [offers]; rfl)
  rw [offers] at follows
  obtain ⟨handedBack, rfl⟩ := follows
  refine ⟨handedBack, congrArg Thread.control thread, ?_⟩
  simp only [Move.onto, Call.step] at offers ⊢
  split at offers
  · cases offers
  · next index t popped =>
      have same : ⟨slot.device, index⟩ = slot := by simpa [Move.call] using offers
      have position : index = slot.index := congrArg SlotId.index same
      rw [← position]
      exact State.idle_of_popIdle popped

end Binding

/-- When a unit of work begins to run, the slot that it is bound to was just taken from the top of
its pool. -/
theorem Run.takenFrom {s : State} (run : Run (.initial s) past now) {slot : SlotId} {work : Work}
    (performs : now.thread.control = .call (.perform slot work)) :
    TakenFrom past slot work (now.state.idle slot.device) := by
  cases run with
  | start => cases performs
  | @next past bind now run step =>
      obtain ⟨binds, bound⟩ := step.of_perform performs
      cases run with
      | start => cases binds
      | @next past offer bind run step =>
          obtain ⟨devices, offers, offered⟩ := step.of_bind binds
          cases run with
          | start => cases offers
          | @next past walk offer run step =>
              obtain ⟨handedBack, walks, found⟩ := step.of_offer offers
              have top : walk.state.idle slot.device
                  = [] ++ slot.index :: offer.state.idle slot.device := found
              rw [bound, offered]
              exact ⟨past, walk, offer, bind, by simp, ⟨devices, handedBack, walks, offers⟩, binds,
                found, run.restsOn top⟩

/-! ### The law -/

/-- Every binding is the right one. When a unit of work begins to run, the dispatcher serves;
the unit is the oldest of those accepted that have not begun; the device of its slot is in
the priority list of that moment, and the devices listed before it have no idle slot; and the
slot was taken from the top of its pool, where it had come to lie after all those that are
left there. -/
theorem bindings_are_right {backends : List Backend} {priorities : List Preference} {s : State}
    (built : (construct backends priorities).result = .ok s) (run : Run (.initial s) past now)
    {slot : SlotId} {work : Work} (begins : now.thread.control = .call (.perform slot work)) :
    now.state.serving = true
      ∧ accepted past = ran past ++ work :: now.state.queue
      ∧ (∃ earlier entry later, now.state.priorities = earlier ++ entry :: later
        ∧ entry.name = slot.device ∧ ∀ other ∈ earlier, now.state.idle other.name = [])
      ∧ TakenFrom past slot work (now.state.idle slot.device) := by
  have chosen : now.state.Chosen slot := by
    have seeks := run.searching.seeks
    simpa only [Moment.Seeks, begins] using seeks
  obtain ⟨serving, listed⟩ := chosen
  refine ⟨serving, ?_, listed, run.takenFrom begins⟩
  have units := run.accepted_eq built serving
  simpa [Moment.inHand, Control.inHand, begins] using units

/-- Two devices. The one slot of the first is busy, the two of the second were returned one after
the other, and three units of work wait when both devices are listed again: the oldest of them is
bound to the slot that was returned last. -/
theorem bindings_are_right_pair :
    let (past, _) := (Moment.initial .pair).operations 60
      [.submit "s" [.start], .submit "t" [.start], .submit "u" [.start],
        .complete ⟨"B", 1⟩ .ok, .complete ⟨"B", 0⟩ .ok, .setPriorities [], .submit "v" [],
        .submit "w" [], .submit "x" [], .setPriorities [⟨"A", none⟩, ⟨"B", none⟩]]
    ∃ m ∈ past[107]?, m.thread.control = .call (.perform ⟨"B", 0⟩ (.scripted "v" []))
      ∧ m.state.serving = true
      ∧ accepted (past.take 107) = ran (past.take 107)
        ++ [.scripted "v" [], .scripted "w" [], .scripted "x" []]
      ∧ (∃ earlier entry later, m.state.priorities = earlier ++ entry :: later
        ∧ entry.name = "B" ∧ ∀ other ∈ earlier, m.state.idle other.name = [])
      ∧ m.state.priorities = [⟨"A", none⟩, ⟨"B", none⟩]
      ∧ TakenFrom (past.take 107) ⟨"B", 0⟩ (.scripted "v" []) [1] := by
  have run := Run.operations 60 (.initial .pair)
    [.submit "s" [.start], .submit "t" [.start], .submit "u" [.start],
      .complete ⟨"B", 1⟩ .ok, .complete ⟨"B", 0⟩ .ok, .setPriorities [], .submit "v" [],
      .submit "w" [], .submit "x" [], .setPriorities [⟨"A", none⟩, ⟨"B", none⟩]]
  generalize played : Moment.operations 60 _ _ = outcome at run
  have passed : 107 < outcome.1.length := by
    subst played
    decide +kernel
  have begins : outcome.1[107].thread.control
      = .call (.perform ⟨"B", 0⟩ (.scripted "v" [])) := by
    subst played
    rfl
  have queue : outcome.1[107].state.queue = [.scripted "w" [], .scripted "x" []] := by
    subst played
    rfl
  have idle : outcome.1[107].state.idle "B" = [1] := by
    subst played
    rfl
  have priorities : outcome.1[107].state.priorities = [⟨"A", none⟩, ⟨"B", none⟩] := by
    subst played
    rfl
  obtain ⟨serving, units, listed, taken⟩ :=
    bindings_are_right State.construct_pair (run.take 107 passed) begins
  rw [queue] at units
  rw [idle] at taken
  exact ⟨outcome.1[107], List.getElem?_eq_getElem passed, begins, serving, units, listed,
    priorities, taken⟩

end SlotDispatch
