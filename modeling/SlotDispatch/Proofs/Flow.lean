import SlotDispatch.Proofs.Acts

/-!
What may come next. `Call.Flows` and `Frame.Flows` list the calls that a call or a frame can
lead to, with the frame that is left to wait for each, whatever the state is; every step is
on the list. A law that has to do with the thread alone is proved by going through it.
-/

namespace SlotDispatch

/-- What a call can lead to. -/
inductive Call.Flows : Call → Move → Prop where
  | ends (call : Call) (t : State) (signal : Signal) : Flows call (.signal t signal)
  | answers (scope : Option Scope) (action : Action) (t : State) (answer : Answer) :
      Flows (.act scope action) (.await t .schedule (.answer answer))
  | keeps (scope : Option Scope) (action : Action) (t : State) (id : String) (number : Nat) :
      Flows (.act scope action) (.await t .schedule (.keep id number))
  | looks (scope : Option Scope) (action : Action) (t : State) (id : String) (number : Nat) :
      Flows (.act scope action) (.await t .schedule (.firstLook id number))
  | starts (scope : Scope) (action : Action) (t : State) :
      Flows (.act (some scope) action) (.call t (.start scope.slot))
  | tries (scope : Scope) (action : Action) (t : State) :
      Flows (.act (some scope) action) (.await t (.start scope.slot) .attempt)
  | completes (scope : Option Scope) (action : Action) (t : State) (slot : SlotId)
      (status : Status) : Flows (.act scope action) (.call t (.complete slot status))
  | finishes (scope : Option Scope) (action : Action) (t : State) (slot : SlotId)
      (status : Status) :
      Flows (.act scope action) (.await t (.complete slot status) (.answer (.finished slot)))
  | script (scope : Scope) (action : Action) (rest : Script) (t : State) :
      Flows (.script scope (action :: rest))
        (.await t (.act (some scope) action) (.script scope action.name rest))
  | schedule (devices : List String) (t : State) : Flows .schedule (.call t (.walk devices false))
  | again (handedBack : Bool) (t : State) : Flows (.walk [] handedBack) (.call t .schedule)
  | onward (device : String) (rest : List String) (handedBack : Bool) (t : State) :
      Flows (.walk (device :: rest) handedBack) (.call t (.walk rest handedBack))
  | found (device : String) (rest : List String) (handedBack : Bool) (index : Nat) (t : State) :
      Flows (.walk (device :: rest) handedBack) (.call t (.offer ⟨device, index⟩ rest))
  | unused (slot : SlotId) (devices : List String) (t : State) :
      Flows (.offer slot devices) (.await t (.discard slot) (.walk devices))
  | used (slot : SlotId) (devices : List String) (work : Work) (t : State) :
      Flows (.offer slot devices) (.call t (.bind slot work))
  | bind (slot : SlotId) (work : Work) (t : State) :
      Flows (.bind slot work) (.await t (.perform slot work) (.bound slot))
  | runs (slot : SlotId) (id : String) (script : Script) (t : State) :
      Flows (.perform slot (.scripted id script)) (.call t (.script ⟨id, slot⟩ script))
  | prepares (slot : SlotId) (id : String) (number : Nat) (job : Job) (t : State) :
      Flows (.perform slot (.request id number job))
        (.await t (.script ⟨id, slot⟩ job.prepare) (.preparing slot id number job.complete))
  | completesAtOnce (slot : SlotId) (status : Status) (t : State) :
      Flows (.start slot) (.call t (.complete slot status))
  | completesAndFails (slot : SlotId) (status : Status) (error : BackendError) (t : State) :
      Flows (.start slot) (.await t (.complete slot status) (.refuse error))
  | notify (slot : SlotId) (status : Status) (t : State) :
      Flows (.complete slot status) (.call t (.notify slot status))
  | completing (slot : SlotId) (status : Status) (t : State) :
      Flows (.notify slot status) (.await t (.followUp slot status) (.completing slot))
  | parting (slot : SlotId) (status : Status) (held : Bool) (t : State) :
      Flows (.notify slot status) (.await t (.followUp slot status) (.parting slot held))
  | continues (slot : SlotId) (status : Status) (id : String) (script : Script) (t : State) :
      Flows (.followUp slot status) (.call t (.script ⟨id, slot⟩ script))
  | collects (slot : SlotId) (status : Status) (id : String) (number : Nat) (complete : Script)
      (t : State) : Flows (.followUp slot status)
        (.await t (.script ⟨id, slot⟩ complete) (.collecting slot number))
  | discard (slot : SlotId) (t : State) : Flows (.discard slot) (.call t (.markIdle slot))
  | markIdle (slot : SlotId) (t : State) : Flows (.markIdle slot) (.call t (.pushIdle slot))

/-- What a frame can lead to once it is handed a signal. -/
inductive Frame.Flows : Frame → Move → Prop where
  | ends (frame : Frame) (t : State) (signal : Signal) : Flows frame (.signal t signal)
  | script (scope : Scope) (action : String) (rest : Script) (t : State) :
      Flows (.script scope action rest) (.call t (.script scope rest))
  | walk (devices : List String) (t : State) :
      Flows (.walk devices) (.call t (.walk devices true))
  | schedule (t : State) : Flows .reschedule (.call t .schedule)
  | unbound (slot : SlotId) (t : State) :
      Flows (.bound slot) (.await t (.discard slot) .reschedule)
  | unboundInPanic (slot : SlotId) (message : String) (t : State) :
      Flows (.bound slot) (.await t (.discard slot) (.rethrow message))
  | start (slot : SlotId) (id : String) (number : Nat) (complete : Script) (t : State) :
      Flows (.preparing slot id number complete) (.await t (.start slot) (.starting slot number))
  | completed (slot : SlotId) (t : State) :
      Flows (.completing slot) (.await t (.markIdle slot) .reschedule)
  | completedInPanic (slot : SlotId) (message : String) (t : State) :
      Flows (.completing slot) (.await t (.discard slot) (.rethrow message))

/-! ### The lists are complete -/

theorem State.Acts.flows {s : State} {scope : Option Scope} {action : Action} {move : Move}
    (acts : s.Acts scope action move) : (Call.act scope action).Flows move := by
  cases acts with
  | submitted id script => exact .answers ..
  | requested id job cancelled handles frame serving unit waits =>
      rcases waits with rfl | rfl
      · exact .keeps ..
      · exact .looks ..
  | started scope' same =>
      subst same
      exact .starts ..
  | tried scope' same =>
      subst same
      exact .tries ..
  | completed slot status => exact .completes ..
  | finished slot status => exact .finishes ..
  | reordered entries text => exact .answers ..
  | _ => exact .ends ..

theorem State.flows_launch (s : State) (slot : SlotId) (conduct : Conduct) :
    (Call.start slot).Flows (s.launch slot conduct) := by
  simp only [launch]
  split
  · exact .ends ..
  · exact .completesAtOnce ..
  · exact .completesAndFails ..
  · exact .ends ..

/-- Every call leads to something on the list. -/
theorem Call.flows (s : State) (call : Call) : call.Flows (call.step s) := by
  cases call with
  | act scope action => exact (s.acts scope action).flows
  | script scope rest =>
      cases rest with
      | nil => exact .ends ..
      | cons action rest => exact .script ..
  | schedule =>
      simp only [step]
      split
      · exact .schedule ..
      · exact .ends ..
  | walk devices handedBack =>
      cases devices with
      | nil =>
          simp only [step]
          split
          · exact .again ..
          · exact .ends ..
      | cons device rest =>
          simp only [step]
          split
          · exact .onward ..
          · exact .found ..
  | offer slot devices =>
      simp only [step]
      split
      · exact .unused ..
      · exact .used ..
  | bind slot work => exact .bind ..
  | perform slot work =>
      cases work with
      | scripted id script => exact .runs ..
      | request id number job =>
          simp only [step, State.perform]
          repeat' split
          · exact .ends ..
          · exact .prepares ..
          · exact .ends ..
  | start slot =>
      simp only [step, State.start]
      repeat' split
      · exact .ends ..
      · exact .ends ..
      · exact State.flows_launch ..
  | complete slot status =>
      simp only [step, State.complete]
      split
      · exact .notify ..
      · exact .ends ..
  | notify slot status =>
      simp only [step, State.notify]
      split
      · exact .parting ..
      · exact .completing ..
  | followUp slot status =>
      simp only [step, State.followUp]
      repeat' split
      · exact .ends ..
      · exact .continues ..
      · exact .collects ..
      · exact .ends ..
  | discard slot => exact .discard ..
  | markIdle slot => exact .markIdle ..
  | pushIdle slot => exact .ends ..

/-- So does every frame. -/
theorem Frame.flows (s : State) (frame : Frame) (signal : Signal) :
    frame.Flows (frame.resume s signal) := by
  cases frame with
  | script scope action rest =>
      cases signal with
      | returned answer => exact .script ..
      | _ => exact .ends ..
  | firstLook id number =>
      cases signal with
      | returned answer =>
          simp only [resume]
          split <;> exact .ends ..
      | _ => exact .ends ..
  | walk devices =>
      cases signal with
      | returned answer => exact .walk ..
      | _ => exact .ends ..
  | bound slot =>
      cases signal with
      | returned answer => exact .ends ..
      | panicked message => exact .unboundInPanic ..
      | _ => exact .unbound ..
  | reschedule =>
      cases signal with
      | returned answer => exact .schedule ..
      | _ => exact .ends ..
  | preparing slot id number complete =>
      cases signal with
      | returned answer => exact .start ..
      | _ => exact .ends ..
  | completing slot =>
      cases signal with
      | panicked message => exact .completedInPanic ..
      | _ =>
          simp only [resume]
          split
          · exact .completed ..
          · exact .ends ..
  | parting slot held => cases signal <;> exact .ends ..
  | _ => cases signal <;> exact .ends ..

end SlotDispatch
