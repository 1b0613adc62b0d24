import SlotDispatch.Proofs.Attribution
import SlotDispatch.Proofs.Detour

/-!
A run with a cancelled request that waits, beside one from which its unit of work is missing. Each
moment of the one has its counterpart in the other (`Moment.Hides`), and a step of the one is
answered by a step of the other. Only when the unit of the request comes to the head of the queue
the one goes on alone: it makes the detour that leads it back to where it was. So both come to
their ends alike, and all other units begin in the same order and on the same slots
(`Moment.Hides.extent`).
-/

namespace SlotDispatch

/-- The second moment is the first without the unit of request `r` in the queue, and with requests
that differ at most in what `r` has come to. -/
def Moment.Hides (r : Nat) (m other : Moment) : Prop :=
  ∃ requests, SameBut r m.state.requests requests ∧ other = ⟨m.state.lacking r requests, m.thread⟩

theorem Move.Lacks.onto {r : Nat} {move other : Move} (lacks : move.Lacks r other)
    (frames : List Frame) : (move.onto frames).Hides r (other.onto frames) := by
  obtain ⟨requests, same, rfl⟩ := lacks
  exact ⟨requests, same, rfl⟩

section Steps

variable {s : State} {requests : List Request} {r : Nat} {frames : List Frame}

/-- A call that takes nothing from the queue comes to the same without the unit of the request. -/
theorem Call.lacks_step {call : Call} (same : SameBut r s.requests requests)
    (made : r < s.requests.length)
    (searching : Moment.Searching ⟨s, ⟨.call call, frames⟩⟩)
    (ignores : ∀ scope action, call = .act scope action → s.ignores r action = true)
    (offers : ∀ slot devices, call = .offer slot devices →
      ∀ work ∈ s.queue.head?, work.ofRequest r = false) :
    (call.step s).Lacks r (call.step (s.lacking r requests)) := by
  by_cases blind : call.looksAtQueue = false
  · have still : call.movesWork = false := by cases call <;> first | rfl | cases blind
    refine (Call.recast_step _ same blind).lacks ?_
    rw [(Call.sameWork_step s still).sameQueue]
  · cases call with
    | act scope action => exact State.lacking_act same made scope (ignores scope action rfl)
    | offer slot devices =>
        have heads := offers slot devices rfl
        cases shape : s.queue with
        | nil =>
            have shape' : (s.lacking r requests).queue = [] := by
              simp [State.lacking, State.recast, shape]
            simp only [step, shape, shape']
            exact ⟨requests, same, rfl⟩
        | cons work rest =>
            have other : work.ofRequest r = false := heads work (by simp [shape])
            have shape' : (s.lacking r requests).queue
                = work :: rest.filter fun work => !work.ofRequest r := by
              simp [State.lacking, State.recast, shape, other]
            simp only [step, shape, shape']
            exact ⟨requests, same, rfl⟩
    | walk devices handedBack =>
        cases devices with
        | cons => exact absurd rfl blind
        | nil =>
            cases handedBack with
            | false => exact absurd rfl blind
            | true =>
                have empty : s.queue = [] := searching.seeks
                have empty' : (s.lacking r requests).queue = [] := by
                  simp [State.lacking, State.recast, empty]
                simp only [step, empty, empty']
                exact ⟨requests, same, rfl⟩
    | _ => simp [looksAtQueue] at blind

/-- So does a frame that does not look for the outcome of the request. -/
theorem Frame.lacks_resume {frame : Frame} (same : SameBut r s.requests requests)
    (blind : ∀ id, frame ≠ .firstLook id r) (signal : Signal) :
    (frame.resume s signal).Lacks r (frame.resume (s.lacking r requests) signal) := by
  refine (Frame.recast_resume _ same blind signal).lacks ?_
  rw [(frame.undisturbed_resume s signal).sameQueue]

end Steps

section Moments

variable {backends : List Backend} {priorities : List Preference} {s : State}
  {past passed : List Moment} {m other after last : Moment} {frames : List Frame} {r : Nat}
  {signal : Signal}

/-! ### A request that waits and is cancelled -/

/-- A unit of a request that was made is not queued again. -/
theorem Moment.Step.awaits (step : m.Step after) (made : r < m.state.requests.length)
    (awaits : after.Awaits r) : m.Awaits r := by
  obtain ⟨unit, waits, own⟩ := awaits
  have positive := List.countP_pos_iff.mpr ⟨unit, waits, own⟩
  suffices 0 < m.state.queue.countP (Work.ofRequest r) from List.countP_pos_iff.mp this
  rcases step.passes_or_ends with passes | ends
  · have counts := passes.waiting r
    have older : m.accepts.countP (Work.ofRequest r) = 0 := by
      rw [List.countP_eq_zero]
      intro work accepts own
      cases work with
      | scripted => cases own
      | request id number job =>
          obtain rfl : number = r := by simpa [Work.ofRequest] using own
          have fresh := (Moment.number_of_accepts accepts).1
          omega
    -- A unit in hand stays in hand, or begins.
    have onward : m.inHand.countP (Work.ofRequest r)
        ≤ m.begins.countP (Work.ofRequest r) + after.inHand.countP (Work.ofRequest r) := by
      cases step with
      | call s call frames =>
          cases call <;>
            first | exact Nat.zero_le _ | exact Nat.le_add_left .. | exact Nat.le_add_right ..
      | _ => exact Nat.zero_le _
    simp only [Moment.waiting] at counts
    omega
  · rw [ends.emptied] at waits
    cases waits

/-- No operation drops the dispatcher. -/
theorem Moment.Above.there (above : m.Above frames) (step : m.Step after)
    (there : m.state.phase ≠ .dropped) : after.state.phase ≠ .dropped := by
  rcases above.cases step with ⟨s, call, upper, rfl, rfl⟩ | ⟨s, signal, frame, upper, rfl, rfl⟩
  · have there : s.phase ≠ .dropped := there
    cases call with
    | act scope action =>
        have acts := s.acts scope action
        change (s.act scope action).state.phase ≠ .dropped
        generalize s.act scope action = move at acts
        cases acts with
        | continued scope' id script =>
            change (s.setContinuation _ _).phase ≠ .dropped
            rw [(State.undisturbed_setContinuation _ _ _).samePhase]
            exact there
        | shutDown =>
            rcases s.shutdown_eq with ⟨-, eq⟩ | ⟨-, requests, eq⟩
            · simpa [Move.done, Move.answer, Move.signal, eq] using there
            · simp [Move.done, Move.answer, Move.signal, eq]
        | _ => exact there
    | offer slot devices =>
        simp only [Call.step]
        split <;> exact there
    | _ =>
        intro gone
        exact there ((Call.sameWork_step s rfl).samePhase.symm.trans gone)
  · intro gone
    exact there ((frame.undisturbed_resume s signal).samePhase.symm.trans gone)

/-- Only a request that was just made is looked for. -/
theorem Moment.Step.looks {id : String} (step : m.Step after) (made : r < m.state.requests.length)
    (looks : .firstLook id r ∈ after.thread.frames) : .firstLook id r ∈ m.thread.frames := by
  cases step with
  | call s call frames =>
      have made : r < s.requests.length := made
      rcases List.mem_append.mp looks with mem | mem
      · by_cases acts : ∃ scope action, call = .act scope action
        · obtain ⟨scope, action, rfl⟩ := acts
          have acts := s.acts scope action
          simp only [Call.step] at mem
          generalize s.act scope action = move at acts mem
          cases acts with
          | requested id' job cancelled handles frame serving unit waits =>
              rcases waits with rfl | rfl
              · simp [Move.await] at mem
              · obtain ⟨-, rfl⟩ : id = id' ∧ r = s.requests.length := by
                  simpa [Move.await] using mem
                omega
          | _ => simp [Move.await, Move.call, Move.signal, Move.answer, Move.done] at mem
        · have flows := call.flows s
          generalize call.step s = move at flows mem
          cases flows with
          | looks scope action => exact absurd ⟨scope, action, rfl⟩ acts
          | _ => simp [Move.await, Move.call, Move.signal] at mem
      · exact mem
  | resume s signal frame frames =>
      have flows := frame.flows s signal
      rcases List.mem_append.mp looks with mem | mem
      · generalize frame.resume s signal = move at flows mem
        cases flows <;> simp [Move.await, Move.call, Move.signal] at mem
      · exact List.mem_cons_of_mem _ mem
  | begin s signal action => cases looks
  | deliver signal earlier later due => cases looks
  | drop s signal => cases looks

/-- A request that is cancelled and for whose outcome nobody looks meanwhile. As long as it waits,
requests are all that has run. -/
structure Moment.Veiled (r : Nat) (past : List Moment) (m : Moment) : Prop where
  made : r < m.state.requests.length
  cancelled : m.state.isCancelled r = true
  governed : m.Awaits r → m.Governed r past
  unsought : ∀ id, .firstLook id r ∉ m.thread.frames
  there : m.state.phase ≠ .dropped

/-- It stays so with every step. -/
theorem Moment.Veiled.next (veiled : m.Veiled r past)
    (built : (construct backends priorities).result = .ok s) (run : Run (.initial s) past m)
    (step : m.Step after) (considerate : m.Awaits r → m.Considerate)
    (there : after.state.phase ≠ .dropped) : after.Veiled r (past ++ [m]) := by
  refine ⟨?_, step.lasting.isCancelled veiled.cancelled, fun awaits => ?_,
    fun id looks => veiled.unsought id (step.looks veiled.made looks), there⟩
  · obtain ⟨later, found, -⟩ := step.lasting r _ (List.getElem?_eq_getElem veiled.made)
    exact (List.getElem?_eq_some_iff.mp found).1
  · have before := step.awaits veiled.made awaits
    exact (veiled.governed before).next built run step (considerate before) before awaits there

theorem Moment.Veiled.onward (veiled : m.Veiled r past)
    (built : (construct backends priorities).result = .ok s) (run : Run (.initial s) past m)
    (leads : m.Leads frames passed last)
    (considerate : ∀ now ∈ passed, now.Awaits r → now.Considerate) :
    last.Veiled r (past ++ passed) := by
  obtain ⟨onward, above⟩ := leads
  induction onward with
  | start => simpa using veiled
  | @next passed now after onward step ih =>
      have here := ih (fun other mem => considerate other (List.mem_append_left _ mem))
        fun other mem => above other (List.mem_append_left _ mem)
      rw [← List.append_assoc]
      exact here.next built (run.append onward) step (considerate now (by simp))
        ((above now (by simp)).there step here.there)

/-! ### Steps that are answered, and the detour -/

/-- A step is answered by one, unless the unit of the request comes to the head of the queue. -/
theorem Moment.Hides.step (hides : m.Hides r other) (above : m.Above frames) (step : m.Step after)
    (searching : m.Searching) (made : r < m.state.requests.length)
    (unsought : ∀ id, .firstLook id r ∉ m.thread.frames)
    (ignores : ∀ scope action, m.thread.control = .call (.act scope action) →
      m.state.ignores r action = true)
    (offers : ∀ slot devices, m.thread.control = .call (.offer slot devices) →
      ∀ work ∈ m.state.queue.head?, work.ofRequest r = false) :
    other.Above frames ∧ ∃ next, other.Step next ∧ after.Hides r next := by
  obtain ⟨requests, same, rfl⟩ := hides
  refine ⟨above, ?_⟩
  rcases above.cases step with ⟨s, call, upper, rfl, rfl⟩ | ⟨s, signal, frame, upper, rfl, rfl⟩
  · have lacks := Call.lacks_step same made searching
      (fun scope action same => ignores scope action (congrArg Control.call same))
      fun slot devices same => offers slot devices (congrArg Control.call same)
    exact ⟨_, .call _ call _, lacks.onto _⟩
  · have lacks := Frame.lacks_resume same
      (fun id (own : frame = .firstLook id r) => unsought id (own ▸ List.mem_cons_self)) signal
    exact ⟨_, .resume _ signal frame _, lacks.onto _⟩

/-- The devices of a run have different names. -/
theorem Run.distinct_devices (built : (construct backends priorities).result = .ok s)
    (run : Run (.initial s) past m) : m.state.deviceNames.Nodup := by
  induction run with
  | start =>
      obtain ⟨configured, distinct, rfl⟩ := construct_ok built
      have names : (State.ofConfigured configured priorities).deviceNames
          = configured.map fun entry => entry.1.name := by
        rw [State.deviceNames, State.ofConfigured, List.map_map]
        rfl
      exact names ▸ distinct
  | next run step ih =>
      rw [step.keeps_devices]
      exact ih

/-- The unit of a cancelled request that comes to the head of the queue leaves no other trace. -/
theorem Moment.Hides.detour {id : String} {job : Job} {rest : List Work} {slot : SlotId}
    {devices : List String} {t : State} {upper : List Frame}
    (hides : Hides r ⟨t, ⟨.call (.offer slot devices), upper⟩⟩ other)
    (built : (construct backends priorities).result = .ok s)
    (run : Run (.initial s) past ⟨t, ⟨.call (.offer slot devices), upper⟩⟩)
    (veiled : Veiled r past ⟨t, ⟨.call (.offer slot devices), upper⟩⟩)
    (shape : t.queue = .request id r job :: rest) :
    ∃ passed u, Leads ⟨t, ⟨.call (.offer slot devices), upper⟩⟩ upper passed
        ⟨u, ⟨.call (.offer slot devices), upper⟩⟩
      ∧ 0 < passed.length ∧ passed.flatMap assigns = [(slot, .request id r job)]
      ∧ Hides r ⟨u, ⟨.call (.offer slot devices), upper⟩⟩ other := by
  obtain ⟨requests, same, rfl⟩ := hides
  have awaits : Awaits r ⟨t, ⟨.call (.offer slot devices), upper⟩⟩ :=
    ⟨.request id r job, by simp [shape], by simp [Work.ofRequest]⟩
  obtain ⟨bound, pinned, none, -⟩ := (veiled.governed awaits).vacant built run rfl veiled.there
  have searched := (run.sought slot devices rfl).resolve_left (by simp [shape])
  obtain ⟨passed, settled, same', leads, assigned⟩ := State.detour upper shape
    veiled.cancelled searched bound pinned none (run.grounded built).distinct
    (run.distinct_devices built) (run.listed built)
  refine ⟨passed, _, leads, List.length_pos_iff.mpr ?_, assigned, requests,
    same'.symm.trans same, ?_⟩
  · rintro rfl
    cases assigned
  · have own : Work.ofRequest r (.request id r job) = true := by simp [Work.ofRequest]
    simp [State.lacking, State.recast, shape, own]

/-! ### To the end -/

/-- A unit of work that comes to hand was the first of the queue. -/
theorem Moment.Step.takes (step : m.Step after) {work : Work} (inHand : work ∈ after.inHand) :
    work ∈ m.inHand ∨ ∃ slot devices, m.thread.control = .call (.offer slot devices)
      ∧ work ∈ m.state.queue.head? := by
  cases step with
  | call s call frames =>
      by_cases passes : (∃ slot devices, call = .offer slot devices)
          ∨ ∃ slot work, call = .bind slot work
      · rcases passes with ⟨slot, devices, rfl⟩ | ⟨slot, other, rfl⟩
        · refine .inr ⟨slot, devices, rfl, ?_⟩
          simp only [Move.onto, Call.step] at inHand
          split at inHand
          · cases inHand
          · next first rest shape =>
              rw [List.mem_singleton.mp inHand]
              simp [shape]
        · exact .inl inHand
      · have none := (call.flows s).inHand
          (fun slot devices same => passes (.inl ⟨slot, devices, same⟩))
          fun slot work same => passes (.inr ⟨slot, work, same⟩)
        have none : ((call.step s).onto frames).inHand = [] := none
        rw [none] at inHand
        cases inHand
  | resume s signal frame frames =>
      have none : ((frame.resume s signal).onto frames).inHand = [] := (frame.flows s signal).inHand
      rw [none] at inHand
      cases inHand
  | begin s signal action => cases inHand
  | deliver signal earlier later due => cases inHand
  | drop s signal => cases inHand

/-- A unit that begins was in hand. -/
theorem Moment.mem_inHand_of_assigns (m : Moment) {assigned : SlotId × Work}
    (mem : assigned ∈ m.assigns) : assigned.2 ∈ m.inHand := by
  obtain ⟨s, control, frames⟩ := m
  cases control with
  | signal => cases mem
  | call call =>
      cases call with
      | perform slot work =>
          obtain rfl : assigned = (slot, work) := List.mem_singleton.mp mem
          exact List.mem_cons_self
      | _ => cases mem

/-- What a thread comes to is the same without the unit of a cancelled request, and all other units
begin in the same order and on the same slots. -/
theorem Moment.Hides.extent (hides : m.Hides r other)
    (built : (construct backends priorities).result = .ok s) (run : Run (.initial s) past m)
    (veiled : m.Veiled r past) (apart : ∀ work ∈ m.inHand, work.ofRequest r = false)
    (extent : m.Extent frames passed signal last)
    (considerate : ∀ now ∈ passed, now.Awaits r → now.Considerate)
    (ignores : ∀ now ∈ passed, ∀ scope action, now.thread.control = .call (.act scope action) →
      now.state.ignores r action = true) :
    ∃ passed' last', other.Extent frames passed' signal last' ∧ last.Hides r last'
      ∧ passed'.flatMap assigns
        = (passed.flatMap assigns).filter fun assigned => !assigned.2.ofRequest r := by
  -- The induction is on what is left to go, which a detour shortens by more than a step.
  generalize long : passed.length = length
  induction length using Nat.strongRecOn generalizing past passed m other with
  | ind length ih =>
      by_cases heads : ∃ slot devices id job rest, m.thread.control = .call (.offer slot devices)
          ∧ m.state.queue = .request id r job :: rest
      · obtain ⟨slot, devices, id, job, rest, offers, shape⟩ := heads
        obtain ⟨t, control, lower⟩ := m
        obtain rfl : control = .call (.offer slot devices) := offers
        obtain ⟨upper, rfl⟩ : ∃ upper, lower = upper ++ frames := by
          rcases extent.cases with ⟨-, -, back⟩ | ⟨-, -, -, ⟨upper, shape, -⟩, -⟩
          · cases back
          · exact ⟨upper, shape⟩
        obtain ⟨begun, u, leads, some, assigned, hides'⟩ := hides.detour built run veiled shape
        obtain ⟨later, rfl, onward⟩ := extent.onward leads.below
        have earlier {now : Moment} (mem : now ∈ later) : now ∈ begun ++ later :=
          List.mem_append_right _ mem
        have veiled' := veiled.onward built run leads fun now mem =>
          considerate now (List.mem_append_left _ mem)
        obtain ⟨passed', last', extent', final, same⟩ := ih later.length
          (by simp only [List.length_append] at long; omega) hides' (run.append leads.run) veiled'
          (fun work inHand => by cases inHand) onward (fun now mem => considerate now (earlier mem))
          (fun now mem => ignores now (earlier mem)) rfl
        refine ⟨passed', last', extent', final, ?_⟩
        have own : Work.ofRequest r (.request id r job) = true := by simp [Work.ofRequest]
        simp [assigned, same, own]
      · have apart' {slot : SlotId} {devices : List String}
            (offers : m.thread.control = .call (.offer slot devices)) {work : Work}
            (first : work ∈ m.state.queue.head?) : work.ofRequest r = false := by
          cases work with
          | scripted id script => rfl
          | request id number job =>
              obtain ⟨rest, shape⟩ : ∃ rest, m.state.queue = .request id number job :: rest := by
                cases queue : m.state.queue with
                | nil => simp [queue] at first
                | cons head rest => exact ⟨rest, by simpa [queue] using first⟩
              apply Bool.eq_false_iff.mpr
              intro own
              obtain rfl : number = r := by simpa [Work.ofRequest] using own
              exact heads ⟨slot, devices, id, job, rest, offers, shape⟩
        rcases extent.cases with ⟨rfl, rfl, back⟩ | ⟨after, rest, rfl, above, step, onward⟩
        · obtain ⟨requests, same, rfl⟩ := hides
          exact ⟨[], _, ⟨.start, fun now mem => (List.not_mem_nil mem).elim, back⟩,
            ⟨requests, same, rfl⟩, rfl⟩
        · obtain ⟨above', next, step', hides'⟩ := hides.step above step run.searching veiled.made
            veiled.unsought (ignores m List.mem_cons_self) fun slot devices offers work mem =>
              apart' offers mem
          have veiled' := veiled.next built run step (considerate m List.mem_cons_self)
            (above.there step veiled.there)
          obtain ⟨passed', last', extent', final, same⟩ := ih rest.length (by simp [← long])
            hides' (run.next step) veiled' (fun work inHand => by
              rcases step.takes inHand with before | ⟨slot, devices, offers, first⟩
              · exact apart work before
              · exact apart' offers first) onward
            (fun now mem => considerate now (List.mem_cons_of_mem _ mem))
            (fun now mem => ignores now (List.mem_cons_of_mem _ mem)) rfl
          refine ⟨other :: passed', last', extent'.cons above' step', final, ?_⟩
          obtain ⟨requests, -, rfl⟩ := hides
          have all : m.assigns.filter (fun assigned => !assigned.2.ofRequest r) = m.assigns :=
            List.filter_eq_self.mpr fun assigned mem => by
              simp [apart assigned.2 (m.mem_inHand_of_assigns mem)]
          rw [List.flatMap_cons, List.flatMap_cons, List.filter_append, same, all]
          rfl

end Moments

end SlotDispatch
