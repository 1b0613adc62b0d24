import SlotDispatch.Proofs.Liveness
import SlotDispatch.Proofs.Potential

/-!
Queued work is never stuck. Between operations, a dispatcher that serves has an executing
slot, an empty queue, or no slot to offer. And if nobody adds work, letting slots complete
one after another comes to an end, at which every unit of work has run.
-/

namespace SlotDispatch

/-! ### Runs -/

section Run

variable {backends : List Backend} {priorities : List Preference} {s : State}
  {past passed : List Moment} {now last : Moment}

/-- A dispatcher that was just built is lively. -/
theorem State.lively_ofConfigured {configured : List (Backend × Nat)}
    (distinct : (configured.map fun entry => entry.1.name).Nodup) :
    (Moment.initial (ofConfigured configured priorities)).Lively [] := by
  refine ⟨fun _ slot mem => ?_, fun _ slot present => ?_, fun _ => .inl (.inl rfl)⟩
  · obtain ⟨backend, count, there, index, bound, rfl⟩ := mem_slots_ofConfigured.mp mem
    rfl
  · exact .inl (idle_of_hasSlot_ofConfigured distinct present)

/-- A run in which code does what the dispatcher relies on stays lively. -/
theorem Run.lively (built : (construct backends priorities).result = .ok s)
    (run : Run (.initial s) past now) (keeps : Throughout Moment.Exact past) :
    now.Shaped (starts past) ∧ now.Lively (starts past) := by
  induction run with
  | start =>
      obtain ⟨configured, distinct, rfl⟩ := construct_ok built
      exact ⟨⟨nofun, nofun, rfl⟩, State.lively_ofConfigured distinct⟩
  | next run step ih =>
      obtain ⟨keeps, here⟩ := throughout_append_singleton.mp keeps
      obtain ⟨shaped, lively⟩ := ih keeps
      have sound := run.sound built (keeps.mono fun _ _ here => here.toOrderly)
      rw [starts_append_singleton]
      exact ⟨step.shaped here.calm shaped, step.lively sound shaped here lively⟩

/-- Between operations no unit of work runs. -/
theorem Moment.Shaped.counts_eq_nil {counts : List Nat} (shaped : now.Shaped counts)
    (atRest : now.AtRest) : counts = [] := by
  obtain ⟨signal, same⟩ := atRest
  have counted := shaped.counted
  rw [same] at counted
  exact List.eq_nil_of_length_eq_zero counted

/-- Between operations every slot of a dispatcher that serves is idle or executes, and if
none executes, no unit of work waits that could be offered a slot. -/
theorem Moment.Lively.between {counts : List Nat} (lively : now.Lively counts)
    (atRest : now.AtRest) (serving : now.state.serving = true) (still : now.state.running = []) :
    (∀ slot : SlotId, now.state.hasSlot slot = true → slot.index ∈ now.state.idle slot.device)
      ∧ (now.state.queue = []
        ∨ ∀ entry ∈ now.state.priorities, now.state.slotCount entry.name = 0) := by
  obtain ⟨s, thread⟩ := now
  obtain ⟨signal, rfl⟩ := atRest
  have accounted : s.Accounted [] := lively.accounted serving
  have quiet : s.Quiet := (lively.stirred serving).resolve_right
    (by simp [Moment.owners, Control.holds, held, Moment.Heading])
  have idle := accounted.idle still
  exact ⟨idle, quiet.empty_or_unlisted still idle⟩

end Run

/-! ### Completions, one after another -/

/-- The outside begins to let a slot complete that executes, on its own account or because
the completion is due. -/
inductive Moment.Completing : Moment → Moment → Prop where
  | asked (s : State) (signal : Signal) (slot : SlotId) (status : Status) :
      slot ∈ s.running →
      Completing ⟨s, ⟨.signal signal, []⟩⟩ ⟨s, .ofCall (.act none (.complete slot status))⟩
  | due (s : State) (signal : Signal) (slot : SlotId) (status : Status)
      (earlier later : List (SlotId × Status)) :
      slot ∈ s.running → s.due = earlier ++ (slot, status) :: later →
      Completing ⟨s, ⟨.signal signal, []⟩⟩
        ⟨{ s with due := earlier ++ later }, .ofCall (.complete slot status)⟩

/-- `Completions m count passed last`: from `m` on the outside has let `count` slots complete,
one after another, each until all that followed from it was done. -/
inductive Completions (m : Moment) : Nat → List Moment → Moment → Prop where
  | none : Completions m 0 [] m
  | more {count : Nat} {passed later : List Moment} {middle first last : Moment} :
      Completions m count passed middle → middle.Completing first → Run first later last →
      last.AtRest → Completions m (count + 1) (passed ++ middle :: later) last

/-- A slot that executes between operations is asked to complete. -/
theorem Completions.asked {m now : Moment} {count fuel : Nat} {passed : List Moment}
    (sequence : Completions m count passed now) (atRest : now.AtRest) {slot : SlotId}
    {status : Status} (executes : slot ∈ now.state.running)
    (rests : (now.operations fuel [.complete slot status]).2.AtRest) :
    Completions m (count + 1) (passed ++ (now.operations fuel [.complete slot status]).1)
      (now.operations fuel [.complete slot status]).2 := by
  obtain ⟨s, thread⟩ := now
  obtain ⟨signal, rfl⟩ := atRest
  simp only [Moment.operations, List.append_nil] at rests ⊢
  exact .more sequence (.asked s signal slot status executes) (Run.thread_run fuel s _) rests

/-- A completion that is under way is over before the thread comes to rest. -/
theorem Run.completions_pos {first last : Moment} {later : List Moment}
    (run : Run first later last) (atRest : last.AtRest) {slot : SlotId} {status : Status}
    (under : first.thread.control = .call (.complete slot status)) : 0 < completions later := by
  cases later with
  | nil =>
      obtain ⟨signal, same⟩ := atRest
      rw [run.eq_of_nil] at same
      simp [same] at under
  | cons m rest =>
      obtain ⟨rfl, -⟩ := run.head
      simp only [completions, Moment.completes, under, List.map_cons, List.sum_cons]
      omega

theorem Moment.Completing.step {middle first : Moment} (completing : middle.Completing first) :
    middle.Step first := by
  cases completing with
  | asked s signal slot status executes => exact .begin s signal _
  | due s signal slot status earlier later executes due => exact .deliver signal earlier later due

theorem Moment.Completing.running_ne_nil {middle first : Moment}
    (completing : middle.Completing first) : middle.state.running ≠ [] := by
  cases completing with
  | asked s signal slot status executes => exact List.ne_nil_of_mem executes
  | due s signal slot status earlier later executes due => exact List.ne_nil_of_mem executes

/-- An operation that lets a slot complete does so. -/
theorem Moment.Completing.completions_pos {middle first last : Moment} {later : List Moment}
    {s : State} {counts : List Nat} (completing : middle.Completing first)
    (sound : middle.Sound s counts) (run : Run first later last) (atRest : last.AtRest) :
    0 < completions later := by
  cases completing with
  | asked t signal slot status executes =>
      cases later with
      | nil =>
          obtain ⟨signal, same⟩ := atRest
          rw [run.eq_of_nil] at same
          simp [Thread.ofCall] at same
      | cons m rest =>
          obtain ⟨rfl, second, next, onward⟩ := run.head
          have present : t.hasSlot slot = true := State.hasSlot_of_mem_running executes
          have placed : (t.device? slot.device).isSome = true := sound.exclusive.placed slot present
          obtain ⟨device, found⟩ := Option.isSome_iff_exists.mp placed
          have acts : t.act none (.complete slot status) = .call t (.complete slot status) := by
            simp [State.act, State.completeSlot, found, present]
          have under : second.thread.control = .call (.complete slot status) := by
            cases next with
            | call s call frames =>
                simp only [Move.onto, Call.step, acts]
                rfl
          have pos := onward.completions_pos atRest under
          simp only [completions, List.map_cons, List.sum_cons] at pos ⊢
          omega
  | due s signal slot status earlier later executes due => exact run.completions_pos atRest rfl

/-- A sequence of completions is a run between two moments of rest, and each of them takes
at least one completion. -/
theorem Completions.run {backends : List Backend} {priorities : List Preference} {s : State}
    {past passed : List Moment} {now last : Moment} {count : Nat}
    (built : (construct backends priorities).result = .ok s) (run : Run (.initial s) past now)
    (sequence : Completions now count passed last) (atRest : now.AtRest)
    (keeps : Throughout Moment.Exact (past ++ passed)) :
    Run now passed last ∧ last.AtRest ∧ count ≤ completions passed := by
  induction sequence with
  | none => exact ⟨.start, atRest, Nat.zero_le _⟩
  | @more count passed later middle first last sequence completing onward rests ih =>
      have shorter : Throughout Moment.Exact (past ++ passed) := by
        rw [← List.append_assoc] at keeps
        exact keeps.of_append
      obtain ⟨upTo, -, counted⟩ := ih shorter
      have sound := (run.append upTo).sound built (shorter.mono fun _ _ here => here.toOrderly)
      have pos := completing.completions_pos sound onward rests
      refine ⟨upTo.append ((Run.single completing.step).append onward), rests, ?_⟩
      rw [completions_append]
      simp only [completions, List.map_cons, List.sum_cons] at counted pos ⊢
      omega

/-! ### The law -/

/-- Queued work is never stuck. If, between operations, a dispatcher that serves has no
executing slot, then its queue is empty or no device in its priority list has a slot. And
while nobody adds work, slots that execute can be let complete at most as often as slots
execute and units wait; once no more of them can, every unit of work accepted has run, in
order and once, and every slot is idle, provided that a device of the list has a slot. -/
theorem queued_work_is_never_stuck {backends : List Backend} {priorities : List Preference}
    {s : State} {past : List Moment} {now : Moment}
    (built : (construct backends priorities).result = .ok s) (run : Run (.initial s) past now)
    (keeps : Throughout Moment.Exact past) (atRest : now.AtRest)
    (serving : now.state.serving = true) :
    (now.state.running = [] → now.state.queue = []
        ∨ ∀ entry ∈ now.state.priorities, now.state.slotCount entry.name = 0)
      ∧ ∀ count passed last, Completions now count passed last →
        Throughout Moment.Exact (past ++ passed) → accepted passed = [] →
          count ≤ now.state.running.length + now.state.queue.length
            ∧ ((∀ first, ¬ last.Completing first) → last.state.serving = true →
              (∃ entry ∈ last.state.priorities, 0 < last.state.slotCount entry.name) →
                accepted (past ++ passed) = ran (past ++ passed)
                  ∧ ∀ slot : SlotId, last.state.hasSlot slot = true →
                    slot.index ∈ last.state.idle slot.device) := by
  obtain ⟨shaped, lively⟩ := run.lively built keeps
  refine ⟨fun still => (lively.between atRest serving still).2, ?_⟩
  intro count passed last sequence keeps none
  obtain ⟨onward, rests, counted⟩ := sequence.run built run atRest keeps
  refine ⟨?_, fun final serves listed => ?_⟩
  · have paid := run.completions_add_potential_le built onward
      (keeps.mono fun _ _ here => here.toOrderly)
    have calm := shaped.counts_eq_nil atRest
    obtain ⟨signal, same⟩ := atRest
    have potential : now.potential (starts past)
        = now.state.running.length + now.state.queue.length := by
      simp [Moment.potential, Moment.inHand, Control.inHand, Moment.spare, same, calm]
    rw [potential, none, List.length_nil] at paid
    omega
  · have onward := run.append onward
    have still : last.state.running = [] := by
      obtain ⟨t, thread⟩ := last
      obtain ⟨signal, rfl⟩ := rests
      refine List.eq_nil_iff_forall_not_mem.mpr fun slot executes => ?_
      exact final _ (.asked t signal slot .ok executes)
    obtain ⟨idle, empty⟩ := (onward.lively built keeps).2.between rests serves still
    obtain ⟨entry, mem, pos⟩ := listed
    have empty : last.state.queue = [] := empty.resolve_right fun none => by
      have zero := none entry mem
      omega
    refine ⟨?_, idle⟩
    have units := onward.accepted_eq built serves
    obtain ⟨signal, same⟩ := rests
    simpa [Moment.inHand, Control.inHand, same, empty] using units

/-- One slot and two units of work. The first has started the slot while the second waits, which is
bound once the slot has completed, and starts it as well. -/
theorem queued_work_is_never_stuck_single :
    let played := (Moment.initial (.single ⟨.manual, .ok, none⟩)).operations 60
      [.submit "u" [.start], .submit "v" [.start]]
    let first := played.2.operations 60 [.complete ⟨"A", 0⟩ .ok]
    let second := first.2.operations 60 [.complete ⟨"A", 0⟩ .ok]
    played.2.state.running = [⟨"A", 0⟩] ∧ played.2.state.queue = [.scripted "v" [.start]]
      ∧ Throughout Moment.Exact (played.1 ++ (first.1 ++ second.1))
      ∧ Completions played.2 2 (first.1 ++ second.1) second.2
      ∧ accepted (played.1 ++ (first.1 ++ second.1)) = ran (played.1 ++ (first.1 ++ second.1))
      ∧ ∀ slot : SlotId, second.2.state.hasSlot slot = true →
        slot.index ∈ second.2.state.idle slot.device := by
  have run := Run.operations 60 (.initial (.single ⟨.manual, .ok, none⟩))
    [.submit "u" [.start], .submit "v" [.start]]
  dsimp only
  generalize played : Moment.operations 60 (.initial _) _ = outcome at run
  generalize firstPlayed : outcome.2.operations 60 _ = first
  generalize secondPlayed : first.2.operations 60 _ = second
  have atRest : outcome.2.AtRest := by
    subst played
    exact ⟨_, rfl⟩
  have executes : outcome.2.state.running = [⟨"A", 0⟩] := by
    subst played
    rfl
  have waits : outcome.2.state.queue = [.scripted "v" [.start]] := by
    subst played
    rfl
  have between : first.2.AtRest := by
    subst firstPlayed played
    exact ⟨_, rfl⟩
  have again : first.2.state.running = [⟨"A", 0⟩] := by
    subst firstPlayed played
    rfl
  have rests : second.2.AtRest := by
    subst secondPlayed firstPlayed played
    exact ⟨_, rfl⟩
  have still : second.2.state.running = [] := by
    subst secondPlayed firstPlayed played
    rfl
  have keeps : Throughout Moment.Exact (outcome.1 ++ (first.1 ++ second.1)) := by
    subst secondPlayed firstPlayed played
    exact throughout_of_passes (fun _ _ => Moment.exact_of_check) (by decide +kernel)
  have nothing : accepted (first.1 ++ second.1) = [] := by
    subst secondPlayed firstPlayed played
    rfl
  have serves : outcome.2.state.serving = true := by
    subst played
    rfl
  have serves' : second.2.state.serving = true := by
    subst secondPlayed firstPlayed played
    rfl
  have staffed : ∃ entry ∈ second.2.state.priorities, 0 < second.2.state.slotCount entry.name := by
    subst secondPlayed firstPlayed played
    exact ⟨⟨"A", none⟩, by decide +kernel⟩
  have once : Completions outcome.2 1 first.1 first.2 := by
    rw [← firstPlayed] at between ⊢
    exact Completions.none.asked atRest (by simp [executes]) between
  have sequence : Completions outcome.2 2 (first.1 ++ second.1) second.2 := by
    rw [← secondPlayed] at rests ⊢
    exact once.asked between (by simp [again]) rests
  have final (next : Moment) : ¬ second.2.Completing next :=
    fun completing => completing.running_ne_nil still
  obtain ⟨-, law⟩ :=
    queued_work_is_never_stuck (State.construct_single _) run keeps.of_append atRest serves
  obtain ⟨-, settled⟩ := law 2 _ _ sequence keeps nothing
  obtain ⟨all, idle⟩ := settled final serves' staffed
  exact ⟨executes, waits, keeps, sequence, all, idle⟩

end SlotDispatch
