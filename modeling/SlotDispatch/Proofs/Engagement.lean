import Mathlib.Data.List.Induction
import SlotDispatch.Proofs.Extent
import SlotDispatch.Proofs.Pins

/-!
How long a binding lasts, read off the history. A slot is engaged from the moment a unit of work
is bound to it until the unit fails, the slot completes, or another unit is bound to it
(`Engaged`). A unit that is being run and has not started its slot engages it
(`underway`), and once it has started it the engagement lasts although the unit may be gone.
-/

namespace SlotDispatch

/-! ### Histories -/

/-- The unit of work that was bound to the slot last was bound above `frames`, and `since` has
passed since. -/
structure BoundLast (past : List Moment) (slot : SlotId) (frames : List Frame)
    (since : List Moment) : Prop where
  bound : ∃ before s work, past = before ++ ⟨s, ⟨.call (.bind slot work), frames⟩⟩ :: since
  last : ∀ m ∈ since, ∀ work, m.thread.control ≠ .call (.bind slot work)

/-- The unit that was bound to the slot above `frames` has succeeded. -/
def Succeeded (slot : SlotId) (frames : List Frame) (since : List Moment) : Prop :=
  ∃ m ∈ since, ∃ answer, m.thread = ⟨.signal (.returned answer), .bound slot :: frames⟩

/-- It has not failed: if it has ended, it has succeeded. -/
def Unfailed (slot : SlotId) (frames : List Frame) (since : List Moment) : Prop :=
  ∀ m ∈ since, ∀ signal, m.thread = ⟨.signal signal, .bound slot :: frames⟩ →
    ∃ answer, signal = .returned answer

/-- No completion of the slot has been delivered. -/
def Uncompleted (slot : SlotId) (since : List Moment) : Prop :=
  ∀ m ∈ since, ∀ status, m.thread.control ≠ .call (.complete slot status)

/-- The unit of work that was bound to the slot last was bound above `frames`; it has not failed
since, nor has the slot completed. -/
def EngagedAt (past : List Moment) (slot : SlotId) (frames : List Frame) : Prop :=
  ∃ since, BoundLast past slot frames since ∧ Unfailed slot frames since ∧ Uncompleted slot since

/-- The slot is in the hands of the unit bound to it last, or executes for it, or the unit has
succeeded without a start. -/
def Engaged (past : List Moment) (slot : SlotId) : Prop := ∃ frames, EngagedAt past slot frames

/-- The moment does not end the engagement of the slot by the unit above `frames`. -/
structure Moment.Leaves (m : Moment) (slot : SlotId) (frames : List Frame) : Prop where
  rebinds : ∀ work, m.thread.control ≠ .call (.bind slot work)
  completes : ∀ status, m.thread.control ≠ .call (.complete slot status)
  fails : ∀ signal, m.thread = ⟨.signal signal, .bound slot :: frames⟩ →
    ∃ answer, signal = .returned answer

section Histories

variable {past since : List Moment} {m : Moment} {slot : SlotId} {frames : List Frame}

/-- A slot that is bound at the last moment is bound above that moment's frames. -/
theorem boundLast_nil : BoundLast (past ++ [m]) slot frames [] ↔
    ∃ s work, m = ⟨s, ⟨.call (.bind slot work), frames⟩⟩ := by
  constructor
  · rintro ⟨⟨before, s, work, split⟩, -⟩
    obtain ⟨-, same⟩ := List.append_inj' split rfl
    exact ⟨s, work, by simpa using same⟩
  · rintro ⟨s, work, rfl⟩
    exact ⟨⟨past, s, work, rfl⟩, List.forall_mem_nil _⟩

/-- What was bound last is still so unless the slot is bound anew. -/
theorem boundLast_append_singleton : BoundLast (past ++ [m]) slot frames (since ++ [m]) ↔
    BoundLast past slot frames since ∧ ∀ work, m.thread.control ≠ .call (.bind slot work) := by
  constructor
  · rintro ⟨⟨before, s, work, split⟩, last⟩
    rw [← List.cons_append, ← List.append_assoc] at split
    refine ⟨⟨⟨before, s, work, (List.append_inj' split rfl).1⟩, fun other mem => ?_⟩, ?_⟩
    · exact last other (List.mem_append_left _ mem)
    · exact last m (List.mem_append_right _ List.mem_cons_self)
  · rintro ⟨⟨⟨before, s, work, rfl⟩, last⟩, other⟩
    refine ⟨⟨before, s, work, List.append_assoc ..⟩, fun later mem => ?_⟩
    rcases List.mem_append.mp mem with mem | mem
    · exact last later mem
    · rw [List.mem_singleton.mp mem]
      exact other

/-- A slot that was bound last has just been bound, or was bound last before and is not bound
anew. -/
theorem BoundLast.cases (bound : BoundLast (past ++ [m]) slot frames since) :
    (since = [] ∧ ∃ s work, m = ⟨s, ⟨.call (.bind slot work), frames⟩⟩)
      ∨ ∃ earlier, since = earlier ++ [m] ∧ BoundLast past slot frames earlier
        ∧ ∀ work, m.thread.control ≠ .call (.bind slot work) := by
  rcases List.eq_nil_or_concat since with rfl | ⟨earlier, last, rfl⟩
  · exact .inl ⟨rfl, boundLast_nil.mp bound⟩
  · rw [List.concat_eq_append] at bound ⊢
    obtain rfl : m = last := by
      obtain ⟨before, s, work, split⟩ := bound.bound
      rw [← List.cons_append, ← List.append_assoc] at split
      simpa using (List.append_inj' split rfl).2
    exact .inr ⟨earlier, rfl, boundLast_append_singleton.mp bound⟩

/-- A slot is engaged if it has just been bound, or was engaged and nothing has ended that. -/
theorem engagedAt_append_singleton : EngagedAt (past ++ [m]) slot frames ↔
    (∃ s work, m = ⟨s, ⟨.call (.bind slot work), frames⟩⟩)
      ∨ EngagedAt past slot frames ∧ m.Leaves slot frames := by
  constructor
  · rintro ⟨since, bound, unfailed, uncompleted⟩
    rcases bound.cases with ⟨-, bind⟩ | ⟨earlier, rfl, bound, rebinds⟩
    · exact .inl bind
    · have here : m ∈ earlier ++ [m] := List.mem_append_right _ List.mem_cons_self
      refine .inr ⟨⟨earlier, bound, fun other mem => ?_, fun other mem => ?_⟩, ?_⟩
      · exact unfailed other (List.mem_append_left _ mem)
      · exact uncompleted other (List.mem_append_left _ mem)
      · exact ⟨rebinds, uncompleted m here, unfailed m here⟩
  · rintro (bind | ⟨⟨since, bound, unfailed, uncompleted⟩, leaves⟩)
    · exact ⟨[], boundLast_nil.mpr bind, List.forall_mem_nil _, List.forall_mem_nil _⟩
    · refine ⟨since ++ [m], boundLast_append_singleton.mpr ⟨bound, leaves.rebinds⟩, ?_, ?_⟩
      · intro other mem
        rcases List.mem_append.mp mem with mem | mem
        · exact unfailed other mem
        · rw [List.mem_singleton.mp mem]
          exact leaves.fails
      · intro other mem
        rcases List.mem_append.mp mem with mem | mem
        · exact uncompleted other mem
        · rw [List.mem_singleton.mp mem]
          exact leaves.completes

theorem not_engagedAt_nil : ¬ EngagedAt [] slot frames := by
  rintro ⟨since, ⟨⟨before, s, work, split⟩, -⟩, -⟩
  simp at split

/-- A slot is engaged by one unit only. -/
theorem EngagedAt.unique {other : List Frame} (engaged : EngagedAt past slot frames)
    (again : EngagedAt past slot other) : frames = other := by
  induction past using List.reverseRecOn with
  | nil => exact absurd engaged not_engagedAt_nil
  | append_singleton past m ih =>
      rcases engagedAt_append_singleton.mp engaged with ⟨s, work, rfl⟩ | ⟨engaged, leaves⟩
      · rcases engagedAt_append_singleton.mp again with ⟨t, work', same⟩ | ⟨-, leaves⟩
        · simpa using congrArg (fun m : Moment => m.thread.frames) same
        · exact absurd rfl (leaves.rebinds work)
      · rcases engagedAt_append_singleton.mp again with ⟨s, work, rfl⟩ | ⟨again, -⟩
        · exact absurd rfl (leaves.rebinds work)
        · exact ih engaged again

end Histories

/-- What is engaged stays so, unless it is bound anew, completes, or its unit fails. -/
theorem EngagedAt.next {past : List Moment} {slot : SlotId} {frames : List Frame}
    (engaged : EngagedAt past slot frames) (m : Moment) :
    EngagedAt (past ++ [m]) slot frames
      ∨ (∃ work, m.thread.control = .call (.bind slot work))
      ∨ (∃ status, m.thread.control = .call (.complete slot status))
      ∨ ∃ signal, m.thread = ⟨.signal signal, .bound slot :: frames⟩
        ∧ ∀ answer, signal ≠ .returned answer := by
  by_cases leaves : m.Leaves slot frames
  · exact .inl (engagedAt_append_singleton.mpr (.inr ⟨engaged, leaves⟩))
  · right
    by_contra none
    rw [not_or, not_or] at none
    obtain ⟨rebinds, completes, fails⟩ := none
    refine leaves ⟨fun work same => rebinds ⟨work, same⟩,
      fun status same => completes ⟨status, same⟩, fun signal same => ?_⟩
    by_contra lost
    exact fails ⟨signal, same, fun answer returned => lost ⟨answer, returned⟩⟩

/-! ### The end of a unit -/

section Endings

variable {first now : Moment} {past since : List Moment} {slot : SlotId} {frames : List Frame}

/-- Until the unit that was bound last has ended, its frame waits. -/
theorem Run.awaits_or_ended (run : Run first past now) (bound : BoundLast past slot frames since) :
    now.Above (.bound slot :: frames)
      ∨ ∃ m ∈ since ++ [now], ∃ signal, m.thread = ⟨.signal signal, .bound slot :: frames⟩ := by
  induction run generalizing since with
  | start =>
      obtain ⟨before, s, work, split⟩ := bound.bound
      simp at split
  | @next past now after run step ih =>
      rcases bound.cases with ⟨rfl, s, work, rfl⟩ | ⟨earlier, rfl, bound, -⟩
      · left
        cases step
        exact Moment.above_of_call _
      · rcases ih bound with above | ⟨m, mem, ended⟩
        · refine (above.step step).imp_right fun ended => ⟨after, ?_, ended⟩
          exact List.mem_append_right _ List.mem_cons_self
        · exact .inr ⟨m, List.mem_append_left _ mem, ended⟩

theorem suffix_of_suffix_append {added below : List Frame}
    (others : ∀ frame ∈ added, frame.isBound = false)
    (waits : .bound slot :: frames <:+ added ++ below) : .bound slot :: frames <:+ below := by
  induction added with
  | nil => exact waits
  | cons frame rest ih =>
      rcases List.suffix_cons_iff.mp waits with same | waits
      · have own := others frame List.mem_cons_self
        rw [← (List.cons.inj same).1] at own
        cases own
      · exact ih (fun other mem => others other (List.mem_cons_of_mem _ mem)) waits

/-- Only a binding adds the frame of a unit. -/
theorem Call.Flows.adds_no_unit {call : Call} {move : Move} (flows : call.Flows move)
    (other : ∀ slot work, call ≠ .bind slot work) :
    ∀ frame ∈ move.frames, frame.isBound = false := by
  cases flows with
  | bind => exact absurd rfl (other _ _)
  | _ => simp [Move.signal, Move.call, Move.await, Frame.isBound]

/-- The frame of a unit that waits after a step has just been put there, or waited before and
has not been handed a signal. -/
theorem Moment.Step.waits_cases {m after : Moment} (step : m.Step after)
    (waits : .bound slot :: frames <:+ after.thread.frames) :
    (∃ s work, m = ⟨s, ⟨.call (.bind slot work), frames⟩⟩)
      ∨ .bound slot :: frames <:+ m.thread.frames
        ∧ ∀ signal, m.thread ≠ ⟨.signal signal, .bound slot :: frames⟩ := by
  cases step with
  | call s call below =>
      by_cases binds : ∃ own work, call = .bind own work
      · obtain ⟨own, work, rfl⟩ := binds
        rcases List.suffix_cons_iff.mp waits with same | waits
        · cases same
          exact .inl ⟨s, work, rfl⟩
        · exact .inr ⟨waits, fun _ same => by cases same⟩
      · have added := (call.flows s).adds_no_unit fun own work same => binds ⟨own, work, same⟩
        exact .inr ⟨suffix_of_suffix_append added waits, fun _ same => by cases same⟩
  | resume s signal frame below =>
      have there := suffix_of_suffix_append (frame.flows s signal).moors.1 waits
      refine .inr ⟨there.trans (List.suffix_cons frame below), fun other same => ?_⟩
      cases same
      exact absurd there.length_le (Nat.not_succ_le_self _)
  | begin s signal action => cases List.suffix_nil.mp waits
  | deliver signal earlier later due => cases List.suffix_nil.mp waits
  | drop s signal => cases List.suffix_nil.mp waits

/-- Once the unit that was bound last has ended, its frame waits no more. -/
theorem Run.over (run : Run first past now) (bound : BoundLast past slot frames since)
    (ended : ∃ m ∈ since, ∃ signal, m.thread = ⟨.signal signal, .bound slot :: frames⟩) :
    ¬ .bound slot :: frames <:+ now.thread.frames := by
  induction run generalizing since with
  | start =>
      obtain ⟨before, s, work, split⟩ := bound.bound
      simp at split
  | @next past now after run step ih =>
      obtain ⟨m, mem, signal, ends⟩ := ended
      intro waits
      rcases bound.cases with ⟨rfl, -⟩ | ⟨earlier, rfl, bound, rebinds⟩
      · cases mem
      · rcases step.waits_cases waits with ⟨s, work, rfl⟩ | ⟨waits, goes⟩
        · exact rebinds work rfl
        · rcases List.mem_append.mp mem with mem | mem
          · exact ih bound ⟨m, mem, signal, ends⟩ waits
          · rw [List.mem_singleton.mp mem] at ends
            exact goes signal ends

/-- A unit that has succeeded has not failed. -/
theorem Run.unfailed (run : Run first past now) (bound : BoundLast past slot frames since)
    (succeeded : Succeeded slot frames since) : Unfailed slot frames since := by
  induction run generalizing since with
  | start =>
      obtain ⟨before, s, work, split⟩ := bound.bound
      simp at split
  | @next past now after run step ih =>
      obtain ⟨m, mem, answer, ends⟩ := succeeded
      rcases bound.cases with ⟨rfl, -⟩ | ⟨earlier, rfl, bound, -⟩
      · cases mem
      · -- The moment of the end is the last one, or there is no other.
        intro other mem' signal ends'
        rcases List.mem_append.mp mem with mem | mem
        · rcases List.mem_append.mp mem' with mem' | mem'
          · exact ih bound ⟨m, mem, answer, ends⟩ other mem' signal ends'
          · rw [List.mem_singleton.mp mem'] at ends'
            exact absurd ⟨[], (congrArg Thread.frames ends').symm⟩
              (run.over bound ⟨m, mem, _, ends⟩)
        · rw [List.mem_singleton.mp mem] at ends
          rcases List.mem_append.mp mem' with mem' | mem'
          · exact absurd ⟨[], (congrArg Thread.frames ends).symm⟩
              (run.over bound ⟨other, mem', _, ends'⟩)
          · rw [List.mem_singleton.mp mem', ends] at ends'
            cases ends'
            exact ⟨answer, rfl⟩

/-- Between operations a slot is engaged if the unit that was bound to it last has succeeded, and
the slot has not completed since. -/
theorem Run.engaged_iff (run : Run first past now) (atRest : now.AtRest) :
    Engaged past slot ↔ ∃ frames since,
      BoundLast past slot frames since ∧ Succeeded slot frames since ∧ Uncompleted slot since := by
  obtain ⟨last, rest⟩ := atRest
  constructor
  · rintro ⟨frames, since, bound, unfailed, uncompleted⟩
    refine ⟨frames, since, bound, ?_, uncompleted⟩
    rcases run.awaits_or_ended bound with ⟨upper, shape, -⟩ | ⟨m, mem, signal, ended⟩
    · simp [rest] at shape
    · rcases List.mem_append.mp mem with mem | mem
      · obtain ⟨answer, rfl⟩ := unfailed m mem signal ended
        exact ⟨m, mem, answer, ended⟩
      · rw [List.mem_singleton.mp mem, rest] at ended
        cases ended
  · rintro ⟨frames, since, bound, succeeded, uncompleted⟩
    exact ⟨frames, since, bound, run.unfailed bound succeeded, uncompleted⟩

end Endings

/-! ### Units under way -/

/-- The units of work that are being run and have not started their slots: the slot of each, and
the frames above which it was bound. -/
def underway : List Frame → List Nat → List (SlotId × List Frame)
  | [], _ => []
  | .bound slot :: below, counts =>
      if counts.head? = some 0 then (slot, below) :: underway below counts.tail
      else underway below counts.tail
  | _ :: below, counts => underway below counts

section Units

variable {frames below : List Frame} {counts : List Nat} {slot : SlotId}

theorem map_fst_underway (frames : List Frame) (counts : List Nat) :
    (underway frames counts).map Prod.fst = unstarted frames counts := by
  induction frames generalizing counts with
  | nil => rfl
  | cons frame below ih =>
      cases frame with
      | bound slot =>
          simp only [underway, unstarted]
          split
          · rw [List.map_cons, ih]
          · exact ih _
      | _ => exact ih counts

theorem underway_cons {frame : Frame} (other : frame.isBound = false) (below : List Frame)
    (counts : List Nat) : underway (frame :: below) counts = underway below counts := by
  cases frame with
  | bound slot => cases other
  | _ => rfl

theorem underway_append {added : List Frame} (others : ∀ frame ∈ added, frame.isBound = false)
    (below : List Frame) (counts : List Nat) :
    underway (added ++ below) counts = underway below counts :=
  append_of_heedless (underway · counts)
    (fun frame mem rest => underway_cons (others frame mem) rest counts) below

/-- A unit that has not started its slot owns it. -/
theorem mem_held_of_underway (mem : (slot, below) ∈ underway frames counts) :
    slot ∈ held frames counts := by
  refine (unstarted_sublist frames counts).subset ?_
  rw [← map_fst_underway]
  exact List.mem_map_of_mem mem

/-- The frame of a unit that is under way waits. -/
theorem waits_of_underway (mem : (slot, below) ∈ underway frames counts) :
    .bound slot :: below <:+ frames := by
  induction frames generalizing counts with
  | nil => cases mem
  | cons frame rest ih =>
      rw [List.suffix_cons_iff]
      cases frame with
      | bound own =>
          simp only [underway] at mem
          split at mem
          · rcases List.mem_cons.mp mem with same | mem
            · cases same
              exact .inl rfl
            · exact .inr (ih mem)
          · exact .inr (ih mem)
      | _ => exact .inr (ih mem)

/-- A unit that has been granted a start is under way no more; the others stay so. -/
theorem underway_modifyHead (frames : List Frame) (counts : List Nat) :
    underway frames (counts.modifyHead (· + 1)) ⊆ underway frames counts := by
  induction frames with
  | nil => exact List.Subset.refl _
  | cons frame below ih =>
      cases frame with
      | bound slot =>
          cases counts with
          | nil => exact List.Subset.refl _
          | cons count counts =>
              simp only [underway, List.modifyHead_cons, List.head?_cons, Option.some.injEq,
                Nat.succ_ne_zero, if_false, List.tail_cons]
              split
              · exact List.subset_cons_self _ _
              · exact List.Subset.refl _
      | _ => exact ih

/-- Those above which a unit was bound are still under way when it has ended. -/
theorem underway_tail (slot : SlotId) (below : List Frame) (counts : List Nat) :
    underway below counts.tail ⊆ underway (.bound slot :: below) counts := by
  simp only [underway]
  split
  · exact List.subset_cons_self _ _
  · exact List.Subset.refl _

/-- A unit that is under way after a step has just been bound, or was under way before and does
not end. -/
theorem Moment.Step.underway_cases {m after : Moment} (step : m.Step after)
    (mem : (slot, below) ∈ underway after.thread.frames (m.tally counts)) :
    (∃ s work, m = ⟨s, ⟨.call (.bind slot work), below⟩⟩)
      ∨ (slot, below) ∈ underway m.thread.frames counts
        ∧ ∀ signal, m.thread ≠ ⟨.signal signal, .bound slot :: below⟩ := by
  suffices here : (∃ s work, m = ⟨s, ⟨.call (.bind slot work), below⟩⟩)
      ∨ (slot, below) ∈ underway m.thread.frames counts by
    rcases step.waits_cases (waits_of_underway mem) with bind | ⟨-, goes⟩
    · exact .inl bind
    · exact here.imp_right fun there => ⟨there, goes⟩
  cases step with
  | call s call frames =>
      by_cases binds : ∃ own work, call = .bind own work
      · obtain ⟨own, work, rfl⟩ := binds
        rcases List.mem_cons.mp mem with same | mem
        · cases same
          exact .inl ⟨s, work, rfl⟩
        · exact .inr mem
      · have added := (call.flows s).adds_no_unit fun own work same => binds ⟨own, work, same⟩
        simp only [Move.onto, underway_append added] at mem
        right
        cases call with
        | bind own work => exact absurd ⟨own, work, rfl⟩ binds
        | start own =>
            simp only [Moment.tally] at mem
            split at mem
            · exact underway_modifyHead frames counts mem
            · exact mem
        | _ => exact mem
  | resume s signal frame frames =>
      simp only [Move.onto, underway_append (frame.flows s signal).moors.1] at mem
      right
      cases frame with
      | bound own => exact underway_tail own frames counts mem
      | _ => exact mem
  | begin s signal action => cases mem
  | deliver signal earlier later due => cases mem
  | drop s signal => cases mem

/-- A unit of work that starts its slot, as it may, was under way. -/
theorem Moment.Orderly.underway {m : Moment} (orderly : m.Orderly counts)
    (atHand : m.thread.Scoped) (starts' : m.thread.control = .call (.start slot)) :
    ∃ below, (slot, below) ∈ underway m.thread.frames counts := by
  obtain ⟨runs, fresh, -⟩ := orderly.owns atHand starts'
  have mine : slot ∈ unstarted m.thread.frames counts := by
    rw [unstarted_of_started runs fresh]
    exact List.mem_cons_self
  rw [← map_fst_underway] at mine
  obtain ⟨⟨own, below⟩, mem, rfl⟩ := List.mem_map.mp mine
  exact ⟨below, mem⟩

/-- So was one that fails. -/
theorem Moment.Orderly.underway_of_fails {m : Moment} {signal : Signal} (orderly : m.Orderly counts)
    (ends : m.thread = ⟨.signal signal, .bound slot :: below⟩)
    (fails : ∀ answer, signal ≠ .returned answer) :
    (slot, below) ∈ SlotDispatch.underway m.thread.frames counts := by
  have fresh := orderly.failed signal slot below ends fails
  rw [ends]
  simp only [SlotDispatch.underway, fresh, if_true]
  exact List.mem_cons_self

end Units

end SlotDispatch
