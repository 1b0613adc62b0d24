import SlotDispatch.Proofs.FileSteps
import SlotDispatch.Proofs.Shape

/-!
How a thread is stacked while requests are all that it runs. Hooks of jobs neither start a
slot nor leave a continuation, so a unit of work starts its slot where the facade does, right
above the frame of its slot, and code fails only where a frame waits that takes the failure.
`Moment.Regular` says so of a moment. Its step lemma goes through calls and frames; for runs,
`Run.regular` derives that they are orderly, hence that slots are exclusive.
-/

namespace SlotDispatch

/-! ### Runs of requests -/

/-- Whether an action may stand in a hook, or outside of scripts while requests are all that
is run: it neither starts a slot nor leaves a continuation, does not panic, and submits no
unit of work but that of a request. -/
def Action.isGentle : Action → Bool
  | .start | .tryStart | .andThen _ | .panic _ | .submit _ _ => false
  | _ => true

/-- At this moment completions come only from executing slots, and requests are all that
callers add. -/
structure Moment.Gentle (m : Moment) : Prop where
  delivered : ∀ slot status, m.thread.control = .call (.complete slot status) →
    (m.state.slot slot).running = true
  acts : ∀ scope action, m.thread.control = .call (.act scope action) → action.isGentle = true

/-- Besides, no start fails whose execution has come to its end already. -/
structure Moment.Faithful (m : Moment) : Prop extends m.Gentle where
  starts : ∀ slot, m.thread.control = .call (.start slot) → m.state.grants slot = true →
    (m.state.conduct slot.device).mode ≠ .immediateThenFail

/-- `Moment.Gentle`, computed. -/
def Moment.isGentle (m : Moment) : Bool :=
  match m.thread.control with
  | .call (.complete slot _) => (m.state.slot slot).running
  | .call (.act _ action) => action.isGentle
  | _ => true

/-- `Moment.Faithful`, computed. -/
def Moment.isFaithful (m : Moment) : Bool :=
  match m.thread.control with
  | .call (.start slot) =>
      !m.state.grants slot || (m.state.conduct slot.device).mode != .immediateThenFail
  | _ => m.isGentle

theorem Moment.gentle_of_isGentle {m : Moment} (checked : m.isGentle = true) : m.Gentle := by
  constructor
  · intro slot status same
    simpa [isGentle, same] using checked
  · intro scope action same
    simpa [isGentle, same] using checked

theorem Moment.faithful_of_isFaithful {m : Moment}
    (checked : m.isFaithful = true) : m.Faithful := by
  have gentle : m.isGentle = true := by
    unfold isFaithful at checked
    split at checked
    · next slot same => simp [isGentle, same]
    · exact checked
  refine ⟨gentle_of_isGentle gentle, ?_⟩
  intro slot same granted
  simpa [isFaithful, same, granted] using checked

def Work.isRequest : Work → Bool
  | .request _ _ _ => true
  | .scripted _ _ => false

def Continuation.isRequest : Continuation → Bool
  | .request _ _ _ => true
  | .scripted _ _ => false

/-- The units of work that wait are those of requests, and so are the continuations that were
left on slots. -/
structure State.OnlyRequests (s : State) : Prop where
  queue : ∀ work ∈ s.queue, work.isRequest = true
  left : ∀ slot ∈ s.slots, ∀ continuation ∈ slot.continuation, continuation.isRequest = true

/-! ### What lies on what -/

/-- The code that the uppermost frame stands for. -/
def foremost (frames : List Frame) : Option (Role × SlotId) := frames.head?.bind Frame.activation?

/-- Whether a frame waits for a hook. -/
def Frame.awaitsHook : Frame → Bool
  | .preparing _ _ _ _ | .collecting _ _ => true
  | _ => false

def Frame.isScript : Frame → Bool
  | .script _ _ _ => true
  | _ => false

/-- Scripts lie on hooks, hooks and starts on the code that they belong to. A unit whose first
hook runs has not started its slot. -/
def Stacked : List Frame → List Nat → Prop
  | [], _ => True
  | .script _ _ _ :: below, counts =>
      (∃ hook ∈ below.head?, hook.awaitsHook = true) ∧ Stacked below counts
  | .preparing slot _ _ _ :: below, counts =>
      foremost below = some (.unit, slot) ∧ counts.head? = some 0 ∧ Stacked below counts
  | .starting slot _ :: below, counts => foremost below = some (.unit, slot) ∧ Stacked below counts
  | .collecting slot _ :: below, counts =>
      foremost below = some (.continuation, slot) ∧ Stacked below counts
  | .bound _ :: below, counts => Stacked below counts.tail
  | .attempt :: _, _ | .refuse _ :: _, _ | .rethrow _ :: _, _ => False
  | _ :: below, counts => Stacked below counts

/-- The uppermost frame can take a failure. That of a unit does so only if the unit has not
started its slot. -/
def TakesFailure (counts : List Nat) : List Frame → Prop
  | .script _ _ _ :: _ | .preparing _ _ _ _ :: _ | .collecting _ _ :: _ => True
  | .starting _ _ :: _ | .bound _ :: _ => counts.head? = some 0
  | _ => False

/-- The control finds the frames that it belongs on. -/
def Rests (s : State) (counts : List Nat) (frames : List Frame) : Control → Prop
  | .call (.act (some _) _) => ∃ frame ∈ frames.head?, frame.isScript = true
  | .call (.script _ _) => ∃ hook ∈ frames.head?, hook.awaitsHook = true
  | .call (.bind _ work) => work.isRequest = true
  | .call (.perform slot work) =>
      work.isRequest = true ∧ foremost frames = some (.unit, slot) ∧ counts.head? = some 0
  | .call (.start slot) => counts.head? = some 0
      ∧ ∃ number below, frames = .starting slot number :: below ∧ slot ∈ s.keptBy number
  | .call (.followUp slot _) => foremost frames = some (.continuation, slot)
  | .signal (.failed _) => TakesFailure counts frames
  | .signal .declined => (∃ slot, foremost frames = some (.unit, slot)) ∧ counts.head? = some 0
  | .signal (.panicked _) => False
  | _ => True

/-- Requests are all that is run at this moment, and the thread is stacked accordingly. -/
structure Moment.Regular (counts : List Nat) (m : Moment) : Prop where
  only : m.state.OnlyRequests
  stacked : Stacked m.thread.frames counts
  rests : Rests m.state counts m.thread.frames m.thread.control

theorem eq_bound_of_foremost {frames : List Frame} {slot : SlotId}
    (runs : foremost frames = some (.unit, slot)) : ∃ below, frames = .bound slot :: below := by
  cases frames with
  | nil => cases runs
  | cons frame below =>
      cases frame with
      | bound own =>
          obtain rfl : own = slot := by simpa [foremost, Frame.activation?] using runs
          exact ⟨below, rfl⟩
      | _ => simp [foremost, Frame.activation?] at runs

/-- The code of the uppermost frame runs innermost. -/
theorem activation_of_foremost {frames : List Frame} {code : Role × SlotId}
    (runs : foremost frames = some code) : activation frames = some code := by
  cases frames with
  | nil => cases runs
  | cons frame below =>
      have own : frame.activation? = some code := runs
      simp [activation, own]

/-- A slot whose hook runs is in the hands of the code that the hook belongs to. -/
theorem Stacked.mem_held {frames : List Frame} {counts : List Nat} {hook : Frame} {slot : SlotId}
    (stacked : Stacked frames counts) (mem : hook ∈ frames) (waits : hook.awaitsHook = true)
    (at' : hook.slot? = some slot) : slot ∈ held frames counts := by
  have own {role : Role} {below : List Frame} {counts : List Nat}
      (runs : foremost below = some (role, slot)) (fresh : role = .unit → counts.head? = some 0) :
      slot ∈ held below counts := by
    cases below with
    | nil => cases runs
    | cons frame rest =>
        cases frame with
        | bound own =>
            obtain ⟨rfl, rfl⟩ : Role.unit = role ∧ own = slot := by
              simpa [foremost, Frame.activation?] using runs
            simp [held, fresh rfl]
        | completing own =>
            obtain ⟨-, rfl⟩ : Role.continuation = role ∧ own = slot := by
              simpa [foremost, Frame.activation?] using runs
            exact List.mem_cons_self
        | parting own kept =>
            obtain ⟨-, rfl⟩ : Role.continuation = role ∧ own = slot := by
              simpa [foremost, Frame.activation?] using runs
            exact List.mem_cons_self
        | _ => simp [foremost, Frame.activation?] at runs
  induction frames generalizing counts with
  | nil => cases mem
  | cons frame below ih =>
      rcases List.mem_cons.mp mem with same | inside
      · subst same
        cases hook with
        | preparing other id number complete =>
            obtain rfl : other = slot := Option.some.inj at'
            obtain ⟨runs, fresh, -⟩ := stacked
            change other ∈ held below counts
            exact own runs fun _ => fresh
        | collecting other number =>
            obtain rfl : other = slot := Option.some.inj at'
            obtain ⟨runs, -⟩ := stacked
            change other ∈ held below counts
            exact own runs fun same => by cases same
        | _ => cases waits
      · -- What is held below is held all the more with the frame on top.
        cases frame with
        | script => exact ih stacked.2 inside
        | preparing => exact ih stacked.2.2 inside
        | starting => exact ih stacked.2 inside
        | collecting => exact ih stacked.2 inside
        | bound other =>
            have below : slot ∈ held below counts.tail := ih stacked inside
            simp only [held]
            split
            · exact List.mem_cons_of_mem _ below
            · exact below
        | completing | parting =>
            have below : slot ∈ held below counts := ih stacked inside
            exact List.mem_cons_of_mem _ below
        | attempt | refuse | rethrow => cases stacked
        | answer | keep | firstLook | walk | reschedule =>
            have below : slot ∈ held below counts := ih stacked inside
            exact below

/-- At a regular moment code is orderly, if it is gentle. -/
theorem Moment.Regular.orderly {counts : List Nat} {m : Moment} (regular : m.Regular counts)
    (gentle : m.Gentle) : m.Orderly counts := by
  obtain ⟨s, control, frames⟩ := m
  have rests := regular.rests
  refine ⟨gentle.delivered, ?_, ?_, ?_⟩
  · rintro slot same
    obtain rfl : control = _ := same
    obtain ⟨fresh, number, below, rfl, -⟩ := rests
    have runs : foremost below = some (.unit, slot) := regular.stacked.1
    have runs := activation_of_foremost runs
    exact ⟨⟨slot, runs⟩, fresh⟩
  · rintro signal slot below same fails
    obtain ⟨rfl, rfl⟩ : control = .signal signal ∧ frames = .bound slot :: below := by
      simpa using same
    cases signal with
    | returned answer => exact absurd rfl (fails answer)
    | failed error => exact rests
    | declined => exact rests.2
    | panicked message => cases rests
  · rintro message same
    obtain rfl : control = _ := same
    cases rests

/-! ### States -/

namespace State

namespace OnlyRequests

variable {s t : State}

theorem of_leftovers (only : s.OnlyRequests) (queue : ∀ work ∈ t.queue, work ∈ s.queue)
    (same : t.leftovers = s.leftovers) : t.OnlyRequests := by
  refine ⟨fun work mem => only.queue work (queue work mem), ?_⟩
  intro slot mem continuation left
  have there : (slot.id, slot.continuation) ∈ s.leftovers := by
    rw [← same]
    exact List.mem_map_of_mem mem
  obtain ⟨other, mem, eq⟩ := List.mem_map.mp there
  refine only.left other mem continuation ?_
  rw [(Prod.mk.inj eq).2]
  exact left

/-- A slot may be left with what it had, or with the continuation of a request. -/
theorem modifySlot (only : s.OnlyRequests) (slot : SlotId) {change : Slot → Slot}
    (keeps : ∀ slot : Slot, ∀ continuation ∈ (change slot).continuation,
      continuation ∈ slot.continuation ∨ continuation.isRequest = true) :
    (s.modifySlot slot change).OnlyRequests := by
  refine ⟨only.queue, ?_⟩
  intro changed mem continuation left
  obtain ⟨other, there, rfl⟩ := List.mem_map.mp mem
  split at left
  · rcases keeps other continuation left with same | request
    · exact only.left other there continuation same
    · exact request
  · exact only.left other there continuation left

theorem dropContinuation (only : s.OnlyRequests) (continuation : Option Continuation) :
    (s.dropContinuation continuation).OnlyRequests := by
  obtain ⟨requests, eq⟩ := s.dropContinuation_eq continuation
  rw [eq]
  exact ⟨only.queue, only.left⟩

theorem clearContinuation (only : s.OnlyRequests) (slot : SlotId) :
    (s.clearContinuation slot).OnlyRequests := by
  refine OnlyRequests.dropContinuation ?_ _
  apply only.modifySlot slot
  simp

theorem detach (only : s.OnlyRequests) (slot : SlotId) : (s.detach slot).OnlyRequests :=
  (only.clearContinuation slot).modifySlot slot fun _ _ left => .inl left

theorem shutdown (only : s.OnlyRequests) : s.shutdown.OnlyRequests := by
  rcases s.shutdown_eq with ⟨-, eq⟩ | ⟨-, requests, eq⟩
  · rw [eq]
    exact only
  · rw [eq]
    exact ⟨by simp, only.left⟩

theorem drop (only : s.OnlyRequests) : s.drop.1.OnlyRequests := by
  simp only [State.drop]
  split
  · exact ⟨only.queue, only.left⟩
  · have filtered : OnlyRequests
        { s with pending := s.pending.filter fun entry => !entry.2.awaited } :=
      ⟨only.queue, only.left⟩
    refine @detachUnpinned_induction OnlyRequests _ ?_ fun t slot only => only.detach slot
    exact ⟨filtered.shutdown.queue, filtered.shutdown.left⟩

/-- The continuation that a slot holds is that of a request. -/
theorem of_slot (only : s.OnlyRequests) {slot : SlotId} {continuation : Continuation}
    (left : (s.slot slot).continuation = some continuation) : continuation.isRequest = true := by
  simp only [State.slot] at left
  cases found : s.slots.find? fun candidate => candidate.id == slot with
  | none => simp [found, Slot.fresh] at left
  | some there =>
      rw [found] at left
      exact only.left there (List.mem_of_find?_eq_some found) continuation left

end OnlyRequests

end State

/-! ### Steps -/

section Steps

variable {s : State} {frames : List Frame} {counts : List Nat}

/-- An action that neither starts a slot nor panics fails only in a script. -/
theorem State.Acts.rests {scope : Option Scope} {action : Action} {move : Move}
    (acts : s.Acts scope action move) (starts : action ≠ .start) (tries : action ≠ .tryStart)
    (calm : ∀ message, action ≠ .panic message) (stacked : Stacked frames counts)
    (rests : Rests s counts frames (.call (.act scope action))) :
    Stacked (move.frames ++ frames) counts
      ∧ Rests move.state counts (move.frames ++ frames) move.control := by
  cases acts with
  | requested id job cancelled handles frame serving unit waits =>
      rcases waits with rfl | rfl
      · exact ⟨stacked, trivial⟩
      · exact ⟨stacked, trivial⟩
  | started scope' at' none same => exact absurd same starts
  | tried scope' at' none same => exact absurd same tries
  | panicked message none same => exact absurd same (calm message)
  | failed error none inside =>
      refine ⟨stacked, ?_⟩
      obtain ⟨scope', rfl⟩ := Option.isSome_iff_exists.mp inside
      obtain ⟨frame, head, isScript⟩ := rests
      cases frames with
      | nil => cases head
      | cons first below =>
          obtain rfl : first = frame := Option.some.inj head
          cases first with
          | script scope action rest => trivial
          | _ => cases isScript
  | _ => exact ⟨stacked, trivial⟩

/-- A gentle action starts nothing, and submits nothing but requests. -/
theorem State.Acts.regular {scope : Option Scope} {action : Action} {move : Move}
    (acts : s.Acts scope action move) (gentle : action.isGentle = true)
    (regular : Moment.Regular counts ⟨s, ⟨.call (.act scope action), frames⟩⟩) :
    (move.onto frames).Regular counts := by
  obtain ⟨only, stacked, rests⟩ := regular
  have only : s.OnlyRequests := only
  obtain ⟨stacked, rests⟩ := acts.rests (by rintro rfl; cases gentle) (by rintro rfl; cases gentle)
    (by rintro message rfl; cases gentle) stacked rests
  refine ⟨?_, stacked, rests⟩
  cases acts with
  | submitted id script serving same =>
      subst same
      cases gentle
  | requested id job cancelled handles frame serving unit waits =>
      refine ⟨?_, only.left⟩
      intro work mem
      rcases List.mem_append.mp mem with mem | mem
      · exact only.queue work mem
      · rw [List.mem_singleton.mp mem]
        rfl
  | continued scope' id script at' none same =>
      subst same
      cases gentle
  | shutDown => exact only.shutdown
  | _ => exact ⟨only.queue, only.left⟩

/-- A unit of work that begins is that of a request, and runs the first hook or fails. -/
theorem Call.regular_perform {slot : SlotId} {work : Work}
    (regular : Moment.Regular counts ⟨s, ⟨.call (.perform slot work), frames⟩⟩) :
    ((Call.step s (.perform slot work)).onto frames).Regular counts := by
  obtain ⟨only, stacked, isRequest, runs, fresh⟩ := regular
  cases work with
  | scripted id script => cases isRequest
  | request id number job =>
      rcases s.perform_cases slot id number job with
        ⟨-, eq⟩ | ⟨-, t, same, queue, ⟨-, eq⟩ | ⟨-, eq⟩⟩
      · rw [step, eq]
        exact ⟨⟨only.queue, only.left⟩, stacked, ⟨slot, runs⟩, fresh⟩
      · have only : t.OnlyRequests :=
          only.of_leftovers (queue ▸ fun _ mem => mem) same.sameLeftovers
        rw [step, eq]
        exact ⟨only, ⟨runs, fresh, stacked⟩, _, rfl, rfl⟩
      · have only : t.OnlyRequests :=
          only.of_leftovers (queue ▸ fun _ mem => mem) same.sameLeftovers
        rw [step, eq]
        refine ⟨⟨only.queue, only.left⟩, stacked, ?_⟩
        obtain ⟨below, rfl⟩ := eq_bound_of_foremost runs
        exact fresh

/-- A start that is granted counts for the unit above which it was called. -/
theorem Stacked.of_started {slot : SlotId} {number : Nat}
    (stacked : Stacked (.starting slot number :: frames) counts) :
    Stacked (.starting slot number :: frames) (counts.modifyHead (· + 1)) := by
  obtain ⟨runs, below⟩ := stacked
  refine ⟨runs, ?_⟩
  obtain ⟨rest, rfl⟩ := eq_bound_of_foremost runs
  cases counts with
  | nil => exact below
  | cons count counts => exact below

/-- A start is refused before anything has begun, or leaves the slot to its device. -/
theorem Call.regular_start {slot : SlotId}
    (starts : s.grants slot = true → (s.conduct slot.device).mode ≠ .immediateThenFail)
    (regular : Moment.Regular counts ⟨s, ⟨.call (.start slot), frames⟩⟩) :
    ((Call.step s (.start slot)).onto frames).Regular
      (Moment.tally counts ⟨s, ⟨.call (.start slot), frames⟩⟩) := by
  obtain ⟨only, stacked, fresh, number, below, same, -⟩ := regular
  obtain rfl : frames = .starting slot number :: below := same
  rcases s.start_cases slot with ⟨error, refused, eq⟩ | ⟨granted, eq⟩
  · rw [step, eq, Moment.tally_of_refused refused]
    exact ⟨⟨only.queue, only.left⟩, stacked, fresh⟩
  · have noted : (s.note (.started slot)).OnlyRequests := ⟨only.queue, only.left⟩
    have only : (s.started slot).OnlyRequests := noted.modifySlot slot fun _ _ left => .inl left
    have stacked := stacked.of_started
    rw [step, eq, Moment.tally_of_granted granted]
    simp only [State.launch]
    split
    · exact ⟨only, stacked, trivial⟩
    · exact ⟨only, stacked, trivial⟩
    · next fails => exact absurd fails (starts granted)
    · exact ⟨⟨only.queue, only.left⟩, stacked, trivial⟩

/-- The continuation that a completion finds is that of a request. It runs the last hook, or
settles the request at once. -/
theorem Call.regular_followUp {slot : SlotId} {status : Status}
    (regular : Moment.Regular counts ⟨s, ⟨.call (.followUp slot status), frames⟩⟩) :
    ((Call.step s (.followUp slot status)).onto frames).Regular counts := by
  obtain ⟨only, stacked, runs⟩ := regular
  have relieved : (s.relieved slot).OnlyRequests := by
    apply State.OnlyRequests.modifySlot only slot
    simp
  rw [step]
  cases left : (s.slot slot).continuation with
  | none =>
      rw [State.followUp, left]
      exact ⟨relieved, stacked, trivial⟩
  | some continuation =>
      have isRequest := only.of_slot left
      cases continuation with
      | scripted id script => cases isRequest
      | request id number complete =>
          rw [State.followUp_request left]
          split
          · exact ⟨⟨relieved.queue, relieved.left⟩, ⟨runs, stacked⟩, _, rfl, rfl⟩
          · exact ⟨⟨relieved.queue, relieved.left⟩, stacked, trivial⟩

/-- Every call leaves the thread stacked as it should be. -/
theorem Call.regular_step {call : Call} (faithful : Moment.Faithful ⟨s, ⟨.call call, frames⟩⟩)
    (regular : Moment.Regular counts ⟨s, ⟨.call call, frames⟩⟩) :
    ((call.step s).onto frames).Regular (Moment.tally counts ⟨s, ⟨.call call, frames⟩⟩) := by
  obtain ⟨only, stacked, rests⟩ := id regular
  have only : s.OnlyRequests := only
  have stacked : Stacked frames counts := stacked
  cases call with
  | act scope action => exact (s.acts scope action).regular (faithful.acts scope action rfl) regular
  | perform slot work => exact Call.regular_perform regular
  | start slot => exact Call.regular_start (faithful.starts slot rfl) regular
  | followUp slot status => exact Call.regular_followUp regular
  | script scope rest =>
      cases rest with
      | nil => exact ⟨only, stacked, trivial⟩
      | cons action rest => exact ⟨only, ⟨rests, stacked⟩, _, rfl, rfl⟩
  | schedule =>
      simp only [step]
      split <;> exact ⟨only, stacked, trivial⟩
  | walk devices handedBack =>
      cases devices with
      | nil =>
          simp only [step]
          split <;> exact ⟨only, stacked, trivial⟩
      | cons device rest =>
          simp only [step]
          split
          · exact ⟨only, stacked, trivial⟩
          · next index t popped =>
              obtain ⟨left, -, rfl⟩ := State.popIdle_eq_some popped
              exact ⟨⟨only.queue, only.left⟩, stacked, trivial⟩
  | offer slot devices =>
      simp only [step]
      split
      · exact ⟨only, stacked, trivial⟩
      · next work queue waits =>
          have isRequest := only.queue work (waits ▸ List.mem_cons_self)
          refine ⟨⟨fun other mem => only.queue other ?_, only.left⟩, stacked, isRequest⟩
          rw [waits]
          exact List.mem_cons_of_mem _ mem
  | bind slot work =>
      have only : (s.modifySlot slot fun slot =>
          { slot with bound := true, pinned := true }).OnlyRequests :=
        only.modifySlot slot fun _ _ left => .inl left
      exact ⟨only, stacked, rests, rfl, rfl⟩
  | complete slot status =>
      have only : (s.modifySlot slot fun slot =>
          { slot with output := slot.input, running := false }).OnlyRequests :=
        only.modifySlot slot fun _ _ left => .inl left
      simp only [step, State.complete]
      split <;> exact ⟨only, stacked, trivial⟩
  | notify slot status =>
      have only : (s.modifySlot slot fun slot =>
          { slot with pinned := false, last := status }).OnlyRequests :=
        only.modifySlot slot fun _ _ left => .inl left
      simp only [step, State.notify]
      split <;> exact ⟨only, stacked, rfl⟩
  | discard slot => exact ⟨only.clearContinuation slot, stacked, trivial⟩
  | markIdle slot => exact ⟨only.modifySlot slot fun _ _ left => .inl left, stacked, trivial⟩
  | pushIdle slot => exact ⟨⟨only.queue, only.left⟩, stacked, trivial⟩

/-- Where the uppermost frame neither takes a failure nor stands for a unit of work, only
answers are handed back. -/
theorem Rests.returns {frame : Frame} {signal : Signal}
    (rests : Rests s counts (frame :: frames) (.signal signal))
    (refuses : ¬ TakesFailure counts (frame :: frames)) (other : frame.isBound = false) :
    ∃ answer, signal = .returned answer := by
  cases signal with
  | returned answer => exact ⟨answer, rfl⟩
  | failed error => exact absurd rests refuses
  | declined =>
      obtain ⟨⟨slot, runs⟩, -⟩ := rests
      obtain ⟨below, same⟩ := eq_bound_of_foremost runs
      cases same
      cases other
  | panicked message => cases rests

/-- Where it takes failures, but does not stand for a unit of work, nothing else is handed
back. -/
theorem Rests.returns_or_fails {frame : Frame} {signal : Signal}
    (rests : Rests s counts (frame :: frames) (.signal signal))
    (other : frame.isBound = false) :
    (∃ answer, signal = .returned answer) ∨ ∃ error, signal = .failed error := by
  cases signal with
  | returned answer => exact .inl ⟨answer, rfl⟩
  | failed error => exact .inr ⟨error, rfl⟩
  | declined =>
      obtain ⟨⟨slot, runs⟩, -⟩ := rests
      obtain ⟨below, same⟩ := eq_bound_of_foremost runs
      cases same
      cases other
  | panicked message => cases rests

/-- The continuation that was just left on a slot is found there. -/
theorem State.mem_keptBy_setContinuation {slot : SlotId} {n : Nat} {continuation : Continuation}
    (distinct : (s.slots.map Slot.id).Nodup) (present : s.hasSlot slot = true)
    (own : continuation.ofRequest n = true) :
    slot ∈ (s.setContinuation slot continuation).keptBy n := by
  have found : (s.modifySlot slot fun slot =>
      { slot with continuation := some continuation }).keptBy n
        = (s.setContinuation slot continuation).keptBy n := by
    rw [keptBy_eq_leftovers, keptBy_eq_leftovers, setContinuation, leftovers_dropContinuation]
  have distinct : ((s.modifySlot slot fun slot =>
      { slot with continuation := some continuation }).slots.map Slot.id).Nodup := by
    rw [slotIds_modifySlot s slot (by intro; rfl)]
    exact distinct
  rw [← found, mem_keptBy distinct, slot_modifySlot_self present (by intro; rfl)]
  exact own

/-- The first hook of a request ends: the slot is started, or the unit fails. -/
theorem Frame.regular_preparing {slot : SlotId} {id : String} {number : Nat} {complete : Script}
    {signal : Signal} (distinct : (s.slots.map Slot.id).Nodup) (present : s.hasSlot slot = true)
    (regular : Moment.Regular counts
      ⟨s, ⟨.signal signal, .preparing slot id number complete :: frames⟩⟩) :
    ((Frame.resume s (.preparing slot id number complete) signal).onto frames).Regular counts := by
  obtain ⟨only, ⟨runs, fresh, stacked⟩, rests⟩ := regular
  rcases rests.returns_or_fails rfl with ⟨answer, rfl⟩ | ⟨error, rfl⟩
  · have held : (s.modifyRequest number (Request.hold .continuation)).OnlyRequests :=
      ⟨only.queue, only.left⟩
    have only : ((s.modifyRequest number (Request.hold .continuation)).setContinuation slot
        (.request id number complete)).OnlyRequests := by
      refine State.OnlyRequests.dropContinuation (held.modifySlot slot ?_) _
      rintro _ _ ⟨⟩
      exact .inr rfl
    have own : (Continuation.request id number complete).ofRequest number = true := by
      simp [Continuation.ofRequest]
    refine ⟨only, ⟨runs, stacked⟩, fresh, number, frames, rfl, ?_⟩
    exact State.mem_keptBy_setContinuation distinct present own
  · obtain ⟨below, rfl⟩ := eq_bound_of_foremost runs
    exact ⟨⟨only.queue, only.left⟩, stacked, fresh⟩

/-- Every frame leaves the thread stacked as it should be. -/
theorem Frame.regular_resume {signal : Signal} {frame : Frame}
    (grounded : Moment.Grounded ⟨s, ⟨.signal signal, frame :: frames⟩⟩)
    (regular : Moment.Regular counts ⟨s, ⟨.signal signal, frame :: frames⟩⟩) :
    ((frame.resume s signal).onto frames).Regular
      (Moment.tally counts ⟨s, ⟨.signal signal, frame :: frames⟩⟩) := by
  obtain ⟨only, stacked, rests⟩ := id regular
  have only : s.OnlyRequests := only
  have rests : Rests s counts (frame :: frames) (.signal signal) := rests
  cases frame with
  | preparing slot id number complete =>
      refine Frame.regular_preparing grounded.distinct ?_ regular
      apply State.hasSlot_iff.mpr
      exact mem_of_slotAtHand
        (fun frame mem => grounded.known.frames frame (List.mem_cons_of_mem _ mem))
        (grounded.atHand.frames.1 slot rfl)
  | script scope action rest =>
      obtain ⟨⟨hook, head, waits⟩, stacked⟩ := stacked
      rcases rests.returns_or_fails rfl with ⟨answer, rfl⟩ | ⟨error, rfl⟩
      · exact ⟨⟨only.queue, only.left⟩, stacked, hook, head, waits⟩
      · refine ⟨⟨only.queue, only.left⟩, stacked, ?_⟩
        cases frames with
        | nil => cases head
        | cons first below =>
            obtain rfl : first = hook := Option.some.inj head
            cases first with
            | preparing | collecting => trivial
            | _ => cases waits
  | bound slot =>
      have stacked : Stacked frames counts.tail := stacked
      cases signal with
      | panicked message => cases rests
      | _ => exact ⟨only, stacked, trivial⟩
  | starting slot number =>
      obtain ⟨runs, stacked⟩ := stacked
      rcases rests.returns_or_fails rfl with ⟨answer, rfl⟩ | ⟨error, rfl⟩
      · exact ⟨⟨only.queue, only.left⟩, stacked, trivial⟩
      · obtain ⟨below, rfl⟩ := eq_bound_of_foremost runs
        exact ⟨⟨only.queue, only.left⟩, stacked, rests⟩
  | collecting slot number =>
      obtain ⟨runs, stacked⟩ := stacked
      rcases rests.returns_or_fails rfl with ⟨answer, rfl⟩ | ⟨error, rfl⟩
      · exact ⟨⟨only.queue, only.left⟩, stacked, trivial⟩
      · exact ⟨⟨only.queue, only.left⟩, stacked, trivial⟩
  | completing slot =>
      obtain ⟨answer, rfl⟩ := rests.returns id rfl
      simp only [resume]
      split <;> exact ⟨only, stacked, trivial⟩
  | parting slot kept =>
      obtain ⟨answer, rfl⟩ := rests.returns id rfl
      cases kept with
      | false => exact ⟨only, stacked, trivial⟩
      | true => exact ⟨only.detach slot, stacked, trivial⟩
  | firstLook id number =>
      obtain ⟨answer, rfl⟩ := rests.returns (fun takes => takes) rfl
      simp only [resume]
      split
      · exact ⟨⟨only.queue, only.left⟩, stacked, trivial⟩
      · exact ⟨only, stacked, trivial⟩
  | keep id number =>
      obtain ⟨answer, rfl⟩ := rests.returns (fun takes => takes) rfl
      exact ⟨⟨only.queue, only.left⟩, stacked, trivial⟩
  | answer | walk | reschedule =>
      obtain ⟨answer, rfl⟩ := rests.returns id rfl
      exact ⟨only, stacked, trivial⟩
  | attempt | refuse | rethrow => cases stacked

/-- Every step leaves the thread stacked as it should be. -/
theorem Moment.Step.regular {m after : Moment} (step : m.Step after) (grounded : m.Grounded)
    (faithful : m.Faithful) (regular : m.Regular counts) : after.Regular (m.tally counts) := by
  cases step with
  | call s call frames => exact Call.regular_step faithful regular
  | resume s signal frame frames => exact Frame.regular_resume grounded regular
  | begin s signal action => exact ⟨regular.only, trivial, trivial⟩
  | deliver signal earlier later due =>
      exact ⟨⟨regular.only.queue, regular.only.left⟩, trivial, trivial⟩
  | drop s signal => exact ⟨regular.only.drop, trivial, trivial⟩

end Steps

/-! ### Runs -/

/-- A dispatcher that was just built holds neither units of work nor continuations. -/
theorem State.onlyRequests_ofConfigured (configured : List (Backend × Nat))
    (priorities : List Preference) : (ofConfigured configured priorities).OnlyRequests := by
  refine ⟨by simp [ofConfigured], ?_⟩
  intro slot mem continuation left
  obtain ⟨backend, count, -, index, -, rfl⟩ := mem_slots_ofConfigured.mp mem
  cases left

/-- A run of requests is stacked as it should be at every moment, and orderly so far. -/
theorem Run.regular {backends : List Backend} {priorities : List Preference} {s : State}
    {past : List Moment} {now : Moment}
    (built : (construct backends priorities).result = .ok s) (run : Run (.initial s) past now)
    (faithful : ∀ m ∈ past, m.Faithful) :
    now.Regular (starts past) ∧ Throughout Moment.Orderly past := by
  induction run with
  | start =>
      obtain ⟨configured, -, rfl⟩ := construct_ok built
      exact ⟨⟨State.onlyRequests_ofConfigured _ _, trivial, trivial⟩, by simp [Throughout]⟩
  | @next past now after run step ih =>
      have here : now.Faithful := faithful now (by simp)
      obtain ⟨regular, orderly⟩ := ih fun m mem => faithful m (List.mem_append_left _ mem)
      constructor
      · rw [starts_append_singleton]
        exact step.regular (run.grounded built) here regular
      · exact throughout_append_singleton.mpr ⟨orderly, regular.orderly here.toGentle⟩

end SlotDispatch
