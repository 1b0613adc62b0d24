import SlotDispatch.Proofs.Shape
import SlotDispatch.Proofs.SlotInvariant

/-!
What a walk over the devices has seen. It looks at a snapshot of the priority list, and runs
no code of others on its way: as long as it holds no slot, the devices that it has passed
have no idle slot, the list is still the one it began with, and the dispatcher serves. A walk
that has handed a slot back goes on only because the queue was empty, and it still is.
`Moment.Searching` says so of every moment, and `Run.searching` that it holds in every run,
whatever devices and callers do.
-/

namespace SlotDispatch

/-! ### What a walk relies on -/

namespace State

/-- The devices that remain are the end of the priority list, and those before them have no
idle slot. -/
def Passed (s : State) (devices : List String) : Prop :=
  ∃ earlier later, s.priorities = earlier ++ later ∧ devices = later.map Preference.name
    ∧ ∀ entry ∈ earlier, s.idle entry.name = []

/-- The dispatcher serves, the device of the slot is in the priority list, and the devices
listed before it have no idle slot. -/
def Chosen (s : State) (slot : SlotId) : Prop :=
  s.serving = true ∧ ∃ earlier entry later, s.priorities = earlier ++ entry :: later
    ∧ entry.name = slot.device ∧ ∀ other ∈ earlier, s.idle other.name = []

/-- A walk begins at the head of the list. -/
theorem passed_start (s : State) : s.Passed (s.priorities.map Preference.name) :=
  ⟨[], s.priorities, rfl, rfl, by simp⟩

/-- A device without an idle slot is passed. -/
theorem Passed.next {s : State} {device : String} {rest : List String}
    (passed : s.Passed (device :: rest)) (none : s.idle device = []) : s.Passed rest := by
  obtain ⟨earlier, later, list, devices, empty⟩ := passed
  cases later with
  | nil => cases devices
  | cons entry later =>
      obtain ⟨rfl, rfl⟩ : device = entry.name ∧ rest = later.map Preference.name := by
        simpa using devices
      refine ⟨earlier ++ [entry], later, by simp [list], rfl, ?_⟩
      intro other mem
      rcases List.mem_append.mp mem with mem | mem
      · exact empty other mem
      · rw [List.mem_singleton.mp mem]
        exact none

/-- The first device with an idle slot is the one whose slot is taken. -/
theorem Passed.found {s : State} {device : String} {rest : List String} {index : Nat}
    {left : List Nat} (passed : s.Passed (device :: rest)) (serving : s.serving = true)
    (idle : s.idle device = index :: left) :
    (s.modifyDevice device fun device => { device with idle := left }).Chosen ⟨device, index⟩ := by
  obtain ⟨earlier, later, list, devices, empty⟩ := passed
  cases later with
  | nil => cases devices
  | cons entry later =>
      obtain ⟨rfl, rfl⟩ : device = entry.name ∧ rest = later.map Preference.name := by
        simpa using devices
      refine ⟨serving, earlier, entry, later, list, rfl, ?_⟩
      intro other mem
      have none := empty other mem
      rw [idle_modifyDevice s entry.name (fun _ => left), if_neg]
      · exact none
      · rintro ⟨same, -⟩
        rw [same, idle] at none
        cases none

/-- A change that leaves the phase, the list and the pools alone leaves the choice. -/
theorem Chosen.of_same {s t : State} {slot : SlotId} (chosen : s.Chosen slot)
    (phase : t.phase = s.phase) (priorities : t.priorities = s.priorities)
    (idle : ∀ name, t.idle name = s.idle name) : t.Chosen slot := by
  obtain ⟨serving, earlier, entry, later, list, at', empty⟩ := chosen
  refine ⟨?_, earlier, entry, later, priorities.trans list, at', ?_⟩
  · rw [State.serving, phase]
    exact serving
  · intro other mem
    rw [idle]
    exact empty other mem

end State

/-! ### Searches -/

/-- Whether a control looks for a slot or has found one for a unit of work. -/
def Control.seeks : Control → Bool
  | .call (.walk _ _) | .call (.offer _ _) | .call (.bind _ _) | .call (.perform _ _) => true
  | _ => false

/-- Whether a control returns a slot, or has done so. -/
def Control.hands : Control → Bool
  | .signal _ => true
  | control => control.returns

def Frame.isWalk : Frame → Bool
  | .walk _ => true
  | _ => false

/-- What the control of a moment relies on while it looks for a slot. -/
def Moment.Seeks (m : Moment) : Prop :=
  match m.thread.control with
  | .call (.walk _ true) => m.state.queue = []
  | .call (.walk devices false) => m.state.serving = true ∧ m.state.Passed devices
  | .call (.offer slot _) => m.state.queue = [] ∨ m.state.Chosen slot
  | .call (.bind slot _) | .call (.perform slot _) => m.state.Chosen slot
  | _ => True

/-- A walk that waits does so for the slot that it hands back, above all other frames, and
the queue is empty. -/
structure Moment.Searching (m : Moment) : Prop where
  seeks : m.Seeks
  alone : ∀ frame ∈ m.thread.frames.tail, frame.isWalk = false
  waits : ∀ frame ∈ m.thread.frames.head?, frame.isWalk = true →
    m.thread.control.hands = true ∧ m.state.queue = []

/-- A control that does not look for a slot relies on nothing. -/
theorem Moment.seeks_of_not {m : Moment} (apart : m.thread.control.seeks = false) : m.Seeks := by
  obtain ⟨s, control, frames⟩ := m
  unfold Moment.Seeks
  unfold Control.seeks at apart
  split <;> simp_all

/-- Only a walk that returns a slot waits above a call that does not return one. -/
theorem Moment.Searching.no_walk {m : Moment} (searching : m.Searching)
    (busy : m.thread.control.hands = false) : ∀ frame ∈ m.thread.frames, frame.isWalk = false := by
  obtain ⟨s, control, frames⟩ := m
  cases frames with
  | nil => exact nofun
  | cons head below =>
      intro frame mem
      rcases List.mem_cons.mp mem with rfl | mem
      · cases walks : frame.isWalk with
        | false => rfl
        | true =>
            have hands := (searching.waits frame rfl walks).1
            rw [hands] at busy
            cases busy
      · exact searching.alone frame mem

/-- A move that adds no walk, onto frames of which none is a walk. -/
theorem Move.searching {move : Move} {frames : List Frame} (seeks : (move.onto frames).Seeks)
    (added : ∀ frame ∈ move.frames, frame.isWalk = false)
    (below : ∀ frame ∈ frames, frame.isWalk = false) : (move.onto frames).Searching := by
  have none : ∀ frame ∈ move.frames ++ frames, frame.isWalk = false := by
    intro frame mem
    rcases List.mem_append.mp mem with mem | mem
    · exact added frame mem
    · exact below frame mem
  refine ⟨seeks, fun frame mem => none frame (List.mem_of_mem_tail mem), ?_⟩
  intro frame mem walks
  rw [none frame (List.mem_of_mem_head? mem)] at walks
  cases walks

theorem Move.searching_call {s : State} {call : Call} {frames : List Frame}
    (seeks : Moment.Seeks ⟨s, ⟨.call call, frames⟩⟩)
    (below : ∀ frame ∈ frames, frame.isWalk = false) :
    ((Move.call s call).onto frames).Searching := by
  refine Move.searching seeks ?_ below
  intro frame mem
  cases mem

theorem Move.searching_signal (s : State) (signal : Signal) {frames : List Frame}
    (below : ∀ frame ∈ frames, frame.isWalk = false) :
    ((Move.signal s signal).onto frames).Searching := by
  refine Move.searching trivial ?_ below
  intro frame mem
  cases mem

/-- Between operations no walk waits. -/
theorem Moment.searching_of_no_frame {m : Moment} (seeks : m.Seeks) (none : m.thread.frames = []) :
    m.Searching := by
  refine ⟨seeks, ?_, ?_⟩
  · simp [none]
  · simp [none]

/-! ### Steps -/

/-- Whether a call is part of a search, or of the return of a slot. -/
def Call.searches : Call → Bool
  | .schedule | .walk _ _ | .offer _ _ | .bind _ _ | .discard _ | .markIdle _ | .pushIdle _ => true
  | _ => false

/-- The other calls do not begin to look for a slot. -/
theorem Call.Flows.apart {call : Call} {move : Move} (flows : call.Flows move)
    (other : call.searches = false) :
    move.control.seeks = false ∧ ∀ frame ∈ move.frames, frame.isWalk = false := by
  have signal (t : State) (signal : Signal) : (Move.signal t signal).control.seeks = false
      ∧ ∀ frame ∈ (Move.signal t signal).frames, frame.isWalk = false :=
    ⟨rfl, by simp [Move.signal]⟩
  have call {t : State} {next : Call} (apart : (Control.call next).seeks = false) :
      (Move.call t next).control.seeks = false
        ∧ ∀ frame ∈ (Move.call t next).frames, frame.isWalk = false :=
    ⟨apart, by simp [Move.call]⟩
  have await {t : State} {next : Call} {added : Frame} (apart : (Control.call next).seeks = false)
      (stays : added.isWalk = false) : (Move.await t next added).control.seeks = false
        ∧ ∀ frame ∈ (Move.await t next added).frames, frame.isWalk = false := by
    refine ⟨apart, fun frame mem => ?_⟩
    rw [List.mem_singleton.mp mem]
    exact stays
  cases flows with
  | ends => exact signal _ _
  | starts | completes | runs | completesAtOnce | notify | continues => exact call rfl
  | answers | keeps | looks | tries | finishes | script | prepares | completesAndFails
  | completing | parting | collects => exact await rfl rfl
  | _ => simp [Call.searches] at other

/-- No frame but a walk goes on to look for a slot. -/
theorem Frame.Flows.apart {frame : Frame} {move : Move} (flows : frame.Flows move)
    (other : frame.isWalk = false) :
    move.control.seeks = false ∧ ∀ frame ∈ move.frames, frame.isWalk = false := by
  cases flows with
  | walk devices t => simp [Frame.isWalk] at other
  | ends => exact ⟨rfl, by simp [Move.signal]⟩
  | script | schedule => exact ⟨rfl, by simp [Move.call]⟩
  | start | unbound | unboundInPanic | completed | completedInPanic =>
      exact ⟨rfl, by simp [Move.await, Frame.isWalk]⟩

section Steps

variable {s : State} {frames : List Frame}

/-- A walk goes on to the next device, or has found a slot. -/
theorem Call.searching_walk {device : String} {rest : List String} {handedBack : Bool}
    (searching : Moment.Searching ⟨s, ⟨.call (.walk (device :: rest) handedBack), frames⟩⟩) :
    ((Call.step s (.walk (device :: rest) handedBack)).onto frames).Searching := by
  have below := searching.no_walk rfl
  have seeks := searching.seeks
  simp only [step]
  split
  · next none =>
      have none := State.popIdle_eq_none_iff.mp none
      cases handedBack with
      | true => exact Move.searching_call seeks below
      | false =>
          have seeks : s.serving = true ∧ s.Passed (device :: rest) := seeks
          have passed : s.Passed rest := seeks.2.next none
          exact Move.searching_call ⟨seeks.1, passed⟩ below
  · next index t popped =>
      obtain ⟨left, idle, rfl⟩ := State.popIdle_eq_some popped
      cases handedBack with
      | true => exact Move.searching_call (.inl seeks) below
      | false =>
          have seeks : s.serving = true ∧ s.Passed (device :: rest) := seeks
          exact Move.searching_call (.inr (seeks.2.found seeks.1 idle)) below

/-- A slot that was found goes to the oldest unit of work, or the walk waits for its return. -/
theorem Call.searching_offer {slot : SlotId} {devices : List String}
    (searching : Moment.Searching ⟨s, ⟨.call (.offer slot devices), frames⟩⟩) :
    ((Call.step s (.offer slot devices)).onto frames).Searching := by
  have below := searching.no_walk rfl
  have seeks : s.queue = [] ∨ s.Chosen slot := searching.seeks
  simp only [step]
  split
  · next empty =>
      refine ⟨trivial, below, fun frame mem walks => ⟨rfl, empty⟩⟩
  · next work rest shape =>
      have chosen : s.Chosen slot := seeks.resolve_left (by simp [shape])
      exact Move.searching_call (chosen.of_same rfl rfl fun _ => rfl) below

/-- A slot on its way back takes nothing from the queue and adds nothing to it. -/
theorem Call.searching_returns {call : Call} (returns : (Control.call call).returns = true)
    (searching : Moment.Searching ⟨s, ⟨.call call, frames⟩⟩) :
    ((call.step s).onto frames).Searching := by
  obtain ⟨hands, added, apart, still⟩ : (call.step s).control.hands = true
      ∧ (call.step s).frames = [] ∧ (call.step s).control.seeks = false
      ∧ call.movesWork = false := by
    cases call with
    | discard slot => exact ⟨rfl, rfl, rfl, rfl⟩
    | markIdle slot => exact ⟨rfl, rfl, rfl, rfl⟩
    | pushIdle slot => exact ⟨rfl, rfl, rfl, rfl⟩
    | _ => simp [Control.returns] at returns
  have same := Call.sameWork_step s still
  refine ⟨Moment.seeks_of_not apart, ?_, ?_⟩
  · simp only [Move.onto, added, List.nil_append]
    exact searching.alone
  · intro frame mem walks
    simp only [Move.onto, added, List.nil_append] at mem
    exact ⟨hands, same.sameQueue.trans (searching.waits frame mem walks).2⟩

/-- Every call keeps what a search relies on. -/
theorem Call.searching_step {call : Call}
    (searching : Moment.Searching ⟨s, ⟨.call call, frames⟩⟩) :
    ((call.step s).onto frames).Searching := by
  by_cases other : call.searches = false
  · have apart := (call.flows s).apart other
    refine Move.searching (Moment.seeks_of_not apart.1) apart.2 (searching.no_walk ?_)
    cases call with
    | discard | markIdle | pushIdle => simp [searches] at other
    | _ => rfl
  · cases call with
    | schedule =>
        have below := searching.no_walk rfl
        simp only [step]
        split
        · next serving =>
            exact Move.searching_call ⟨serving, s.passed_start⟩ below
        · exact Move.searching_signal _ _ below
    | walk devices handedBack =>
        cases devices with
        | nil =>
            simp only [step]
            split
            · exact Move.searching_call trivial (searching.no_walk rfl)
            · exact Move.searching_signal _ _ (searching.no_walk rfl)
        | cons device rest => exact searching_walk searching
    | offer slot devices => exact searching_offer searching
    | bind slot work =>
        have chosen : s.Chosen slot := searching.seeks
        refine Move.searching ?_ (by simp [step, Move.await, Frame.isWalk]) (searching.no_walk rfl)
        exact chosen.of_same rfl rfl fun _ => rfl
    | discard slot => exact searching_returns rfl searching
    | markIdle slot => exact searching_returns rfl searching
    | pushIdle slot => exact searching_returns rfl searching
    | _ => simp [searches] at other

/-- So does every frame that goes on. -/
theorem Frame.searching_resume {signal : Signal} {frame : Frame}
    (searching : Moment.Searching ⟨s, ⟨.signal signal, frame :: frames⟩⟩) :
    ((frame.resume s signal).onto frames).Searching := by
  have below : ∀ other ∈ frames, other.isWalk = false := searching.alone
  by_cases other : frame.isWalk = false
  · have apart := (frame.flows s signal).apart other
    exact Move.searching (Moment.seeks_of_not apart.1) apart.2 below
  · cases frame with
    | walk devices =>
        have empty : s.queue = [] := (searching.waits _ rfl rfl).2
        cases signal with
        | returned answer =>
            exact Move.searching_call empty below
        | _ => exact Move.searching_signal _ _ below
    | _ => simp [isWalk] at other

/-- Every step keeps what a search relies on. -/
theorem Moment.Step.searching {m after : Moment} (step : m.Step after)
    (searching : m.Searching) : after.Searching := by
  cases step with
  | call s call frames => exact Call.searching_step searching
  | resume s signal frame frames => exact Frame.searching_resume searching
  | begin s signal action => exact searching_of_no_frame trivial rfl
  | deliver signal earlier later due => exact searching_of_no_frame trivial rfl
  | drop s signal => exact searching_of_no_frame trivial rfl

end Steps

/-- A run keeps what a search relies on, whatever devices and callers do. -/
theorem Run.searching {s : State} {past : List Moment} {now : Moment}
    (run : Run (.initial s) past now) : now.Searching := by
  induction run with
  | start => exact Moment.searching_of_no_frame trivial rfl
  | next run step ih => exact step.searching ih

end SlotDispatch
