import SlotDispatch.Proofs.Detour
import SlotDispatch.Proofs.Farewell

/-!
Work that keeps to itself: requests whose hooks do nothing but succeed or fail. Nothing else ever
waits, is left on a slot or runs as long as nothing else is accepted (`Run.tame`). A thread that
works on nothing else above some frames goes on so (`Moment.Tame`): it makes no request, starts no
slot but for a request, and no panic is under way.
-/

namespace SlotDispatch

/-! ### Tame work -/

/-- The hooks of a tame request do nothing but fail. -/
def Action.isTame : Action → Bool
  | .fail _ => true
  | _ => false

def Work.isTame : Work → Bool
  | .scripted _ _ => false
  | .request _ _ job => job.prepare.all Action.isTame && job.complete.all Action.isTame

def Continuation.isTame : Continuation → Bool
  | .scripted _ _ => false
  | .request _ _ complete => complete.all Action.isTame

/-- What a thread does next has to do with nothing but tame work. -/
def Control.isTame : Control → Bool
  | .call (.act none _) => false
  | .call (.act (some _) action) => action.isTame
  | .call (.script _ rest) => rest.all Action.isTame
  | .call (.bind _ work) | .call (.perform _ work) => work.isTame
  | .call _ => true
  | .signal (.panicked _) => false
  | .signal _ => true

/-- What waits has to do with nothing but tame work. -/
def Frame.isTame : Frame → Bool
  | .script _ _ rest => rest.all Action.isTame
  | .preparing _ _ _ complete => complete.all Action.isTame
  | .answer _ | .attempt | .keep _ _ | .firstLook _ _ | .rethrow _ => false
  | _ => true

/-- Nothing but tame work waits or is left on a slot. -/
structure State.Tame (s : State) : Prop where
  queue : ∀ work ∈ s.queue, work.isTame = true
  left : ∀ slot continuation, (s.slot slot).continuation = some continuation →
    continuation.isTame = true

/-- A move that has to do with nothing but tame work. -/
structure Move.Tame (move : Move) : Prop where
  state : move.state.Tame
  control : move.control.isTame = true
  frames : ∀ frame ∈ move.frames, frame.isTame = true

/-- The thread has to do with nothing but tame work above these frames. -/
structure Moment.Tame (frames : List Frame) (m : Moment) : Prop where
  state : m.state.Tame
  control : m.thread.control.isTame = true
  upper : ∃ upper, m.thread.frames = upper ++ frames ∧ ∀ frame ∈ upper, frame.isTame = true

/-! ### Steps -/

section Steps

variable {s : State} {frames : List Frame} {m after first last : Moment} {passed : List Moment}
  {signal : Signal}

theorem Move.Tame.onto {move : Move} (tame : move.Tame) {upper : List Frame}
    (above : ∀ frame ∈ upper, frame.isTame = true) :
    Moment.Tame frames (move.onto (upper ++ frames)) := by
  refine ⟨tame.state, tame.control, move.frames ++ upper, (List.append_assoc _ _ _).symm, ?_⟩
  intro frame mem
  rcases List.mem_append.mp mem with mem | mem
  · exact tame.frames frame mem
  · exact above frame mem

/-- A tame action fails. -/
theorem Action.eq_fail {action : Action} (tame : action.isTame = true) :
    ∃ error, action = .fail error := by
  cases action with
  | fail error => exact ⟨error, rfl⟩
  | _ => cases tame

/-- A step leaves what it finds, or what the unit of work that runs has left. -/
theorem Call.tame_state (tame : s.Tame) {call : Call}
    (control : (Control.call call).isTame = true) : (call.step s).state.Tame := by
  refine ⟨?_, fun slot continuation left => ?_⟩
  · cases moves : call.movesWork with
    | false =>
        rw [(sameWork_step s moves).sameQueue]
        exact tame.queue
    | true =>
        cases call with
        | act scope action =>
            cases scope with
            | none => cases control
            | some scope =>
                obtain ⟨error, rfl⟩ := Action.eq_fail control
                exact tame.queue
        | offer slot devices =>
            simp only [step]
            split
            · exact tame.queue
            · next work queue shape =>
                exact fun other mem => tame.queue other (shape ▸ List.mem_cons_of_mem _ mem)
        | _ => simp [movesWork] at moves
  · rcases @left_cases [] s call slot with same | none | registers
    · exact tame.left slot continuation (same ▸ left)
    · cases none.symm.trans left
    · simp only [Moment.registers?] at registers
      split at registers
      · next scope script below same =>
          obtain ⟨rfl, -⟩ : call = .act (some scope) (.andThen script) ∧ [] = below := by
            simpa using same
          cases control
      · next same => cases same
      · cases registers

/-- What a tame thread calls for has to do with nothing but tame work. -/
theorem Call.tame_step (tame : s.Tame) {call : Call} (control : (Control.call call).isTame = true) :
    (call.step s).Tame := by
  suffices (call.step s).control.isTame = true ∧ ∀ frame ∈ (call.step s).frames,
      frame.isTame = true from ⟨tame_state tame control, this.1, this.2⟩
  cases call with
  | act scope action =>
      cases scope with
      | none => cases control
      | some scope =>
          obtain ⟨error, rfl⟩ := Action.eq_fail control
          exact ⟨rfl, List.forall_mem_nil _⟩
  | script scope rest =>
      cases rest with
      | nil => exact ⟨rfl, List.forall_mem_nil _⟩
      | cons action rest =>
          obtain ⟨first, others⟩ : action.isTame = true ∧ rest.all Action.isTame = true := by
            simpa [Control.isTame] using control
          exact ⟨first, List.forall_mem_singleton.mpr others⟩
  | offer slot devices =>
      simp only [step]
      split
      · exact ⟨rfl, List.forall_mem_singleton.mpr rfl⟩
      · next work queue shape =>
          exact ⟨tame.queue work (shape ▸ List.mem_cons_self), List.forall_mem_nil _⟩
  | bind slot work => exact ⟨control, List.forall_mem_singleton.mpr rfl⟩
  | perform slot work =>
      cases work with
      | scripted id script => cases control
      | request id number job =>
          obtain ⟨prepare, complete⟩ : job.prepare.all Action.isTame = true
              ∧ job.complete.all Action.isTame = true := by
            simpa only [Control.isTame, Work.isTame, Bool.and_eq_true] using control
          simp only [step, State.perform]
          repeat' split
          · exact ⟨rfl, List.forall_mem_nil _⟩
          · exact ⟨prepare, List.forall_mem_singleton.mpr complete⟩
          · exact ⟨rfl, List.forall_mem_nil _⟩
  | start slot =>
      rcases s.start_cases slot with ⟨error, -, eq⟩ | ⟨-, eq⟩
      · rw [step, eq]
        exact ⟨rfl, List.forall_mem_nil _⟩
      · simp only [step, eq, State.launch]
        split
        · exact ⟨rfl, List.forall_mem_nil _⟩
        · exact ⟨rfl, List.forall_mem_nil _⟩
        · exact ⟨rfl, List.forall_mem_singleton.mpr rfl⟩
        · exact ⟨rfl, List.forall_mem_nil _⟩
  | notify slot status =>
      simp only [step, State.notify]
      split <;> exact ⟨rfl, List.forall_mem_singleton.mpr rfl⟩
  | followUp slot status =>
      cases left : (s.slot slot).continuation with
      | none =>
          rw [step, State.followUp, left]
          exact ⟨rfl, List.forall_mem_nil _⟩
      | some continuation =>
          have own := tame.left slot continuation left
          cases continuation with
          | scripted id script => cases own
          | request id number complete =>
              rw [step, State.followUp_request left]
              split
              · exact ⟨own, List.forall_mem_singleton.mpr rfl⟩
              · exact ⟨rfl, List.forall_mem_nil _⟩
  | walk devices handedBack =>
      cases devices <;> simp only [step] <;> split <;> exact ⟨rfl, List.forall_mem_nil _⟩
  | schedule | complete =>
      simp only [step, State.complete]
      split <;> exact ⟨rfl, List.forall_mem_nil _⟩
  | discard | markIdle | pushIdle => exact ⟨rfl, List.forall_mem_nil _⟩

theorem Frame.tame_state (tame : s.Tame) {frame : Frame} (waits : frame.isTame = true)
    (signal : Signal) : (frame.resume s signal).state.Tame := by
  refine ⟨fun work mem => ?_, fun slot continuation left => ?_⟩
  · exact tame.queue work ((frame.undisturbed_resume s signal).sameQueue ▸ mem)
  · rcases @left_cases [] s frame signal slot with same | none | registers
    · exact tame.left slot continuation (same ▸ left)
    · cases none.symm.trans left
    · simp only [Moment.registers?] at registers
      split at registers
      · next same => cases same
      · next answer own id number complete below same =>
          obtain ⟨rfl, rfl, -⟩ : signal = .returned answer
            ∧ frame = .preparing own id number complete ∧ [] = below := by simpa using same
          rcases (s.modifyRequest number (Request.hold .continuation)
            ).continuation_setContinuation_cases own slot (.request id number complete)
            with kept | set
          · exact tame.left slot continuation (kept.symm.trans left)
          · rw [← Option.some.inj (set.symm.trans left)]
            exact waits
      · cases registers

/-- What a tame frame goes on with has to do with nothing but tame work. -/
theorem Frame.tame_resume (tame : s.Tame) {frame : Frame} (waits : frame.isTame = true)
    {signal : Signal} (handed : (Control.signal signal).isTame = true) :
    (frame.resume s signal).Tame := by
  suffices (frame.resume s signal).control.isTame = true
      ∧ ∀ other ∈ (frame.resume s signal).frames, other.isTame = true from
    ⟨tame_state tame waits signal, this.1, this.2⟩
  cases frame with
  | script scope action rest =>
      cases signal with
      | returned answer => exact ⟨waits, List.forall_mem_nil _⟩
      | panicked message => cases handed
      | _ => exact ⟨rfl, List.forall_mem_nil _⟩
  | answer | attempt | keep | firstLook | rethrow => cases waits
  | bound | preparing =>
      cases signal with
      | panicked message => cases handed
      | _ => first
        | exact ⟨rfl, List.forall_mem_nil _⟩
        | exact ⟨rfl, List.forall_mem_singleton.mpr rfl⟩
  | completing slot =>
      cases signal with
      | panicked message => cases handed
      | _ =>
          simp only [resume]
          split
          · exact ⟨rfl, List.forall_mem_singleton.mpr rfl⟩
          · exact ⟨rfl, List.forall_mem_nil _⟩
  | _ =>
      cases signal with
      | panicked message => cases handed
      | _ => exact ⟨rfl, List.forall_mem_nil _⟩

/-! ### Ways of a tame thread -/

theorem Moment.Tame.step (tame : m.Tame frames) (above : m.Above frames) (step : m.Step after) :
    after.Tame frames := by
  obtain ⟨upper, shape, waits⟩ := tame.upper
  rcases above.cases step with
    ⟨s, call, upper', rfl, rfl⟩ | ⟨s, signal, frame, upper', rfl, rfl⟩
  · obtain rfl : upper' = upper := List.append_cancel_right shape
    exact (Call.tame_step tame.state tame.control).onto waits
  · obtain rfl : frame :: upper' = upper := List.append_cancel_right shape
    exact (Frame.tame_resume tame.state (waits frame List.mem_cons_self) tame.control).onto
      fun other mem => waits other (List.mem_cons_of_mem _ mem)

/-- A tame thread stays so on its way. -/
theorem Moment.Tame.leads (tame : first.Tame frames) (leads : first.Leads frames passed last) :
    (∀ m ∈ passed, m.Tame frames) ∧ last.Tame frames := by
  obtain ⟨run, above⟩ := leads
  induction run with
  | start => exact ⟨List.forall_mem_nil _, tame⟩
  | @next passed now after run step ih =>
      obtain ⟨all, here⟩ := ih fun m mem => above m (List.mem_append_left _ mem)
      refine ⟨fun m mem => ?_, here.step (above now (by simp)) step⟩
      rcases List.mem_append.mp mem with mem | mem
      · exact all m mem
      · rw [List.mem_singleton.mp mem]
        exact here

/-- What a tame call of the dispatcher's own comes to is not a panic. -/
theorem Moment.Tame.returned (tame : first.Tame frames)
    (extent : first.Extent frames passed signal last)
    (upper : List Frame) (shape : first.thread.frames = upper ++ frames)
    (settled : settledBelow first.thread.control.settled upper = true) :
    ∃ answer, signal = .returned answer := by
  rcases extent.settled upper shape settled with returned | ⟨message, rfl⟩
  · exact returned
  · have control := (tame.leads ⟨extent.run, extent.above⟩).2.control
    rw [extent.back] at control
    cases control

/-! ### Conducts -/

/-- The devices as they conduct themselves. -/
def State.backends (s : State) : List Backend := s.devices.map Device.backend

theorem State.conduct_eq_backends (s : State) (name : String) :
    s.conduct name = ((s.backends.find? fun backend => backend.name == name).map
      Backend.conduct).getD ⟨.manual, .ok, none⟩ := by
  have found : s.backends.find? (fun backend => backend.name == name)
      = (s.device? name).map Device.backend := by
    simp only [device?, backends, List.find?_map, Function.comp_def]
    rfl
  rw [found, conduct]
  cases s.device? name <;> rfl

/-- What a tame thread has no business with: the devices as they conduct themselves, and what is
kept for callers. -/
def State.aside (s : State) : List Backend × List (String × Pending) := (s.backends, s.pending)

theorem State.aside_modifyDevice (s : State) (name : String) (pool : Device → List Nat) :
    (s.modifyDevice name fun device => { device with idle := pool device }).aside = s.aside := by
  have same : (s.modifyDevice name fun device => { device with idle := pool device }).backends
      = s.backends := by
    simp only [backends, modifyDevice, List.map_map]
    refine List.map_congr_left fun device _ => ?_
    simp only [Function.comp]
    split <;> rfl
  exact congrArg (·, s.pending) same

theorem State.aside_dropContinuation (s : State) (continuation : Option Continuation) :
    (s.dropContinuation continuation).aside = s.aside := by
  obtain ⟨requests, eq⟩ := s.dropContinuation_eq continuation
  rw [eq]
  rfl

theorem Call.aside_step {call : Call} (control : (Control.call call).isTame = true) :
    (call.step s).state.aside = s.aside := by
  have changes := call.changes s
  generalize (call.step s).state = t at changes ⊢
  cases changes with
  | acted scope action =>
      cases scope with
      | none => cases control
      | some scope =>
          obtain ⟨error, rfl⟩ := Action.eq_fail control
          rfl
  | popped device rest handedBack index left => exact s.aside_modifyDevice device fun _ => left
  | pushed slot => exact s.aside_modifyDevice slot.device fun device => slot.index :: device.idle
  | discarded slot => exact State.aside_dropContinuation _ _
  | _ => rfl

theorem Frame.aside_resume (s : State) {frame : Frame} (waits : frame.isTame = true)
    (signal : Signal) : (frame.resume s signal).state.aside = s.aside := by
  have changes := frame.changes s signal
  generalize (frame.resume s signal).state = t at changes ⊢
  cases changes with
  | kept | looked => cases waits
  | registered => exact State.aside_dropContinuation _ _
  | detached => exact State.aside_dropContinuation _ _
  | _ => rfl

/-- A tame thread tells no device how to conduct itself, and keeps nothing for callers. -/
theorem Moment.Tame.aside (tame : first.Tame frames) (leads : first.Leads frames passed last) :
    (∀ m ∈ passed, m.state.aside = first.state.aside) ∧ last.state.aside = first.state.aside := by
  obtain ⟨run, above⟩ := leads
  induction run with
  | start => exact ⟨List.forall_mem_nil _, rfl⟩
  | @next passed now after run step ih =>
      have before {m : Moment} (mem : m ∈ passed) : m ∈ passed ++ [now] :=
        List.mem_append_left _ mem
      obtain ⟨all, here⟩ := ih fun m mem => above m (before mem)
      have tame' := (tame.leads ⟨run, fun m mem => above m (before mem)⟩).2
      refine ⟨fun m mem => ?_, ?_⟩
      · rcases List.mem_append.mp mem with mem | mem
        · exact all m mem
        · rw [List.mem_singleton.mp mem]
          exact here
      · obtain ⟨upper, shape, waits⟩ := tame'.upper
        rcases (above now (by simp)).cases step with
          ⟨s, call, upper', rfl, rfl⟩ | ⟨s, signal, frame, upper', rfl, rfl⟩
        · exact (Call.aside_step tame'.control).trans here
        · obtain rfl : frame :: upper' = upper := List.append_cancel_right shape
          exact (Frame.aside_resume s (waits frame List.mem_cons_self) signal).trans here

/-- The devices conduct themselves all along as they did at first. -/
theorem Moment.Tame.conduct (tame : first.Tame frames) (leads : first.Leads frames passed last)
    (name : String) : (∀ m ∈ passed, m.state.conduct name = first.state.conduct name)
      ∧ last.state.conduct name = first.state.conduct name := by
  obtain ⟨all, here⟩ := tame.aside leads
  simp only [State.conduct_eq_backends]
  exact ⟨fun m mem => by rw [(Prod.mk.inj (all m mem)).1], by rw [(Prod.mk.inj here).1]⟩

end Steps

/-! ### Runs -/

section Runs

variable {backends : List Backend} {priorities : List Preference} {s : State}
  {past : List Moment} {now : Moment}

/-- A frame that an operation leaves to wait for what it has called. -/
def Frame.isOuter : Frame → Bool
  | .answer _ | .keep _ _ | .firstLook _ _ => true
  | _ => false

/-- Nothing but tame work is about, and the thread is between operations, at the beginning of one,
or busy with tame work for one. -/
structure Moment.Calm (m : Moment) : Prop where
  state : m.state.Tame
  thread : (m.thread.frames = [] ∧ ((∃ signal, m.thread.control = .signal signal)
      ∨ ∃ action, m.thread.control = .call (.act none action)))
    ∨ ∃ frames, (frames = [] ∨ ∃ frame, frame.isOuter = true ∧ frames = [frame]) ∧ m.Tame frames

/-- An operation that submits nothing but tame work has to do with nothing else. -/
theorem State.Acts.calm {action : Action} {move : Move} (acts : s.Acts none action move)
    (tame : s.Tame) (unit : ∀ work, s.acceptedUnit? action = some work → work.isTame = true) :
    (move.onto []).Calm := by
  have answers {t : State} (signal : Signal) (tame : t.Tame) :
      ((Move.signal t signal).onto []).Calm := ⟨tame, .inl ⟨rfl, .inl ⟨signal, rfl⟩⟩⟩
  have awaits {t : State} {frame : Frame} {call : Call} (outer : frame.isOuter = true)
      (control : (Control.call call).isTame = true) (tame : t.Tame) :
      ((Move.await t call frame).onto []).Calm :=
    ⟨tame, .inr ⟨[frame], .inr ⟨frame, outer, rfl⟩, tame, control, [], rfl, List.forall_mem_nil _⟩⟩
  cases acts with
  | requested id job cancelled handles frame serving made waits =>
      refine awaits ?_ rfl ⟨fun work mem => ?_, tame.left⟩
      · rcases waits with rfl | rfl <;> rfl
      · rcases List.mem_append.mp mem with mem | mem
        · exact tame.queue work mem
        · rw [List.mem_singleton.mp mem]
          refine unit _ ?_
          rw [acceptedUnit?, if_pos serving, made]
  | submitted id script serving same =>
      subst same
      have scripted := unit (.scripted id script) (by rw [acceptedUnit?, if_pos serving]; rfl)
      cases scripted
  | started scope same | tried scope same | continued scope id script same => cases same
  | failed error none inside => cases inside
  | completed slot status =>
      exact ⟨tame, .inr ⟨[], .inl rfl, tame, rfl, [], rfl, List.forall_mem_nil _⟩⟩
  | finished slot status => exact awaits rfl rfl tame
  | reordered entries text => exact awaits rfl rfl ⟨tame.queue, tame.left⟩
  | panicked message => exact answers _ tame
  | shutDown =>
      refine answers _ ?_
      rcases s.shutdown_eq with ⟨-, eq⟩ | ⟨-, requests, eq⟩
      · rw [eq]
        exact tame
      · rw [eq]
        exact ⟨List.forall_mem_nil _, tame.left⟩
  | _ => exact answers _ ⟨tame.queue, tame.left⟩

theorem State.Tame.drop (tame : s.Tame) : s.drop.1.Tame := by
  refine ⟨?_, fun slot continuation left => ?_⟩
  · simp only [State.drop]
    split
    · exact tame.queue
    · rw [(undisturbed_detachUnpinned _).sameQueue]
      rcases shutdown_eq { s with pending := s.pending.filter fun entry => !entry.2.awaited } with
        ⟨-, eq⟩ | ⟨-, requests, eq⟩
      · rw [eq]
        exact tame.queue
      · rw [eq]
        exact List.forall_mem_nil _
  · rcases s.continuation_drop slot with same | none
    · exact tame.left slot continuation (same ▸ left)
    · cases none.symm.trans left

/-- An operation's own frame answers, and what waits for the operation is done. -/
theorem Frame.tame_outer (frame : Frame) (tame : s.Tame) (outer : frame.isOuter = true)
    (signal : Signal) : (frame.resume s signal).state.Tame
      ∧ (∃ handed, (frame.resume s signal).control = .signal handed)
      ∧ (frame.resume s signal).frames = [] := by
  cases frame with
  | answer | keep => cases signal <;> exact ⟨⟨tame.queue, tame.left⟩, ⟨_, rfl⟩, rfl⟩
  | firstLook id number =>
      cases signal <;> simp only [resume] <;> try split
      all_goals exact ⟨⟨tame.queue, tame.left⟩, ⟨_, rfl⟩, rfl⟩
  | _ => cases outer

theorem Moment.Step.calm {m after : Moment} (step : m.Step after) (calm : m.Calm)
    (accepts : ∀ work ∈ m.accepts, work.isTame = true) : after.Calm := by
  cases step with
  | call s call frames =>
      rcases calm.thread with ⟨rfl, ⟨signal, same⟩ | ⟨action, same⟩⟩ | ⟨outer, short, tame⟩
      · cases same
      · obtain rfl : call = .act none action := by simpa using same
        refine (s.acts none action).calm calm.state fun work unit => accepts work ?_
        simp [Moment.accepts, unit]
      · obtain ⟨upper, rfl, -⟩ := tame.upper
        have above : Moment.Above outer ⟨s, ⟨.call call, upper ++ outer⟩⟩ :=
          ⟨upper, rfl, fun _ => ⟨call, rfl⟩⟩
        have next := tame.step above (.call s call _)
        exact ⟨next.state, .inr ⟨outer, short, next⟩⟩
  | resume s signal frame frames =>
      rcases calm.thread with ⟨none, -⟩ | ⟨outer, short, tame⟩
      · cases none
      · obtain ⟨upper, shape, -⟩ := tame.upper
        cases upper with
        | cons first upper =>
            obtain ⟨rfl, rfl⟩ : frame = first ∧ frames = upper ++ outer := by simpa using shape
            have above : Moment.Above outer ⟨s, ⟨.signal signal, frame :: (upper ++ outer)⟩⟩ :=
              ⟨frame :: upper, rfl, by simp⟩
            have next := tame.step above (.resume s signal frame _)
            exact ⟨next.state, .inr ⟨outer, short, next⟩⟩
        | nil =>
            obtain rfl : frame :: frames = outer := shape
            rcases short with none | ⟨only, waits, same⟩
            · cases none
            · obtain ⟨rfl, rfl⟩ := List.cons.inj same
              obtain ⟨state, ⟨handed, control⟩, added⟩ := frame.tame_outer calm.state waits signal
              exact ⟨state, .inl ⟨by simp [Move.onto, added], .inl ⟨handed, control⟩⟩⟩
  | begin s signal action => exact ⟨calm.state, .inl ⟨rfl, .inr ⟨action, rfl⟩⟩⟩
  | @deliver s slot status signal earlier later due =>
      have state : State.Tame { s with due := earlier ++ later } :=
        ⟨calm.state.queue, calm.state.left⟩
      exact ⟨state, .inr ⟨[], .inl rfl, state, rfl, [], rfl, List.forall_mem_nil _⟩⟩
  | drop s signal => exact ⟨calm.state.drop, .inl ⟨rfl, .inl ⟨_, rfl⟩⟩⟩

/-- A run in which nothing but tame work is accepted has to do with nothing else. -/
theorem Run.calm (built : (construct backends priorities).result = .ok s)
    (run : Run (.initial s) past now) (tame : ∀ work ∈ accepted past, work.isTame = true) :
    now.Calm := by
  induction run with
  | start =>
      obtain ⟨configured, -, rfl⟩ := construct_ok built
      refine ⟨⟨List.forall_mem_nil _, fun slot continuation left => ?_⟩, .inl ⟨rfl, .inl ⟨_, rfl⟩⟩⟩
      simp only [Moment.initial, State.slot_ofConfigured] at left
      cases left
  | @next past now after run step ih =>
      rw [accepted_append, accepted_singleton] at tame
      exact step.calm (ih fun work mem => tame work (List.mem_append_left _ mem))
        fun work mem => tame work (List.mem_append_right _ mem)

end Runs

end SlotDispatch
