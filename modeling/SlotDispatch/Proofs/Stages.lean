import SlotDispatch.Request
import SlotDispatch.Execution

/-!
How far a request has come. What happens to a request in a run is a list of `Happening`s,
and its `Stage` is what they make of it: its unit of work waits, prepares, awaits the end of
the execution, collects the result, or the request is settled. `Told` lists the shapes such
a history can have.

A `File` is where the unit and the continuation of a request are found at a moment, with its
entry among the requests. `Consistent` says which files belong to which history, and one
lemma for each way in which a file changes that the two stay together. A start that fails
races a completion; the file left behind tells which of them came first.
-/

namespace SlotDispatch

/-- What a step means to a request. -/
inductive Happening where
  /-- Its unit of work begins to run, and calls the first hook unless it was cancelled. -/
  | begun (slot : SlotId) (cancelled : Bool)
  /-- The first hook ends, with an error or without. If without, the start is called. -/
  | prepared (failure : Option BackendError)
  /-- The start fails. -/
  | refused (error : BackendError)
  /-- A completion takes the continuation, and calls the last hook if all went well. -/
  | taken (status : Status)
  /-- The last hook ends, with what it returned unless it panicked. -/
  | collected (result : Option (Except BackendError String))

/-- How far a request has come, given all that happened to it. -/
inductive Stage where
  /-- Its unit of work has not begun to run. -/
  | queued
  /-- Its first hook runs on a slot. -/
  | preparing (slot : SlotId)
  /-- The start of its slot was called, with its continuation left on the slot. -/
  | awaiting (slot : SlotId)
  /-- A completion has taken the continuation, and the last hook runs. -/
  | collecting (slot : SlotId)
  | settled (outcome : Outcome)

/-- The outcome that the last hook of request `n` gives it on a slot. -/
def collectedOutcome (n : Nat) (slot : SlotId) : Except BackendError String → Outcome
  | .ok value => .ok ⟨n, slot.device, .ok, value⟩
  | .error error => .error (.backend slot.device error)

namespace Stage

/-- What becomes of request `n`. -/
def react (n : Nat) : Stage → Happening → Stage
  | .queued, .begun _ true => .settled (.error .cancelled)
  | .queued, .begun slot false => .preparing slot
  | .preparing slot, .prepared none => .awaiting slot
  | .preparing slot, .prepared (some error) => .settled (.error (.backend slot.device error))
  | .awaiting slot, .refused error => .settled (.error (.backend slot.device error))
  | .awaiting slot, .taken status =>
      if status.isOk then .collecting slot
      else .settled (.error (.backend slot.device (.ofStatus status)))
  | .collecting slot, .collected none => .awaiting slot
  | .collecting slot, .collected (some result) => .settled (collectedOutcome n slot result)
  | stage, _ => stage

/-- The stage that a history has brought request `n` to. -/
def reached (n : Nat) (history : List Happening) : Stage := history.foldl (react n) .queued

theorem reached_append (n : Nat) (history more : List Happening) :
    reached n (history ++ more) = more.foldl (react n) (reached n history) :=
  List.foldl_append

/-- The outcome of a request at a stage; it is abandoned if neither its unit of work nor its
continuation is held any more. -/
def outcome (held : Bool) : Stage → Option Outcome
  | .settled outcome => some outcome
  | _ => if held then none else some (.error .abandoned)

end Stage

/-! ### Histories -/

/-- The history of a request whose start was called. -/
abbrev startedOn (slot : SlotId) (rest : List Happening) : List Happening :=
  .begun slot false :: .prepared none :: rest

/-- What comes of a start, as far as it fails. -/
inductive Refusal : List Happening → Prop where
  | none : Refusal []
  | refused (error : BackendError) : Refusal [.refused error]

/-- What comes of a continuation, as far as it is taken. -/
inductive Ending : List Happening → Prop where
  | none : Ending []
  | taken (status : Status) : Ending [.taken status]
  | collected (status : Status) (result : Option (Except BackendError String)) :
      status.isOk = true → Ending [.taken status, .collected result]

/-- The histories of requests. -/
inductive Told : List Happening → Prop where
  | nothing : Told []
  | cancelled (slot : SlotId) : Told [.begun slot true]
  | begun (slot : SlotId) : Told [.begun slot false]
  | unprepared (slot : SlotId) (error : BackendError) :
      Told [.begun slot false, .prepared (some error)]
  | ended (slot : SlotId) {refusal ending : List Happening} : Refusal refusal → Ending ending →
      Told (startedOn slot (ending ++ refusal))
  | refused (slot : SlotId) {refusal ending : List Happening} : Refusal refusal → Ending ending →
      Told (startedOn slot (refusal ++ ending))

namespace Told

variable {history : List Happening} {slot : SlotId}

end Told

/-! ### Files -/

/-- Where a request is found at a moment. -/
structure File where
  /-- How many units of work of the request wait for a slot or are on their way to one. -/
  waiting : Nat
  /-- The frames in which its hooks run or its start is waited for, the innermost first. -/
  traces : List Frame
  /-- The slots that its continuation was left on. -/
  kept : List SlotId
  request : Option Request

/-- Whether the unit of work or the continuation of the request still exists. -/
def File.held (file : File) : Bool :=
  file.waiting != 0 || !file.traces.isEmpty || !file.kept.isEmpty

/-- The files that belong to a history of request `n`. -/
inductive Consistent (n : Nat) : List Happening → File → Prop where
  /-- The request has not been made. -/
  | unmade : Consistent n [] ⟨0, [], [], none⟩
  | queued (cancelled : Bool) : Consistent n [] ⟨1, [], [], some ⟨cancelled, [.unit], none⟩⟩
  | preparing (slot : SlotId) (id : String) (complete : Script) (cancelled : Bool) :
      Consistent n [.begun slot false]
        ⟨0, [.preparing slot id n complete], [], some ⟨cancelled, [.unit], none⟩⟩
  | starting (slot : SlotId) (cancelled : Bool) :
      Consistent n (startedOn slot [])
        ⟨0, [.starting slot n], [slot], some ⟨cancelled, [.continuation, .unit], none⟩⟩
  /-- The continuation was destroyed, or panicked, while the start is still waited for. -/
  | bereft (slot : SlotId) (cancelled : Bool) {ending : List Happening} : Ending ending →
      Stage.reached n (startedOn slot ending) = .awaiting slot →
      Consistent n (startedOn slot ending)
        ⟨0, [.starting slot n], [], some ⟨cancelled, [.unit], none⟩⟩
  /-- The continuation has settled the request while the start is still waited for. -/
  | outrun (slot : SlotId) {ending : List Happening} {outcome : Outcome} {request : Request} :
      Ending ending → Stage.reached n (startedOn slot ending) = .settled outcome →
      request.outcome = some outcome →
      Consistent n (startedOn slot ending) ⟨0, [.starting slot n], [], some request⟩
  /-- The completion came in while the start is still waited for. -/
  | collectingWithin (slot : SlotId) (status : Status) (cancelled : Bool) : status.isOk = true →
      Consistent n (startedOn slot [.taken status])
        ⟨0, [.collecting slot n, .starting slot n], [],
          some ⟨cancelled, [.continuation, .unit], none⟩⟩
  | granted (slot : SlotId) (cancelled : Bool) :
      Consistent n (startedOn slot []) ⟨0, [], [slot], some ⟨cancelled, [.continuation], none⟩⟩
  | collecting (slot : SlotId) (status : Status) (cancelled : Bool) : status.isOk = true →
      Consistent n (startedOn slot [.taken status])
        ⟨0, [.collecting slot n], [], some ⟨cancelled, [.continuation], none⟩⟩
  /-- The start has failed, but the continuation is still there. -/
  | left (slot : SlotId) (error : BackendError) (request : Request) :
      request.outcome = some (.error (.backend slot.device error)) →
      Consistent n (startedOn slot [.refused error]) ⟨0, [], [slot], some request⟩
  | collectingLate (slot : SlotId) (error : BackendError) (status : Status) (request : Request) :
      status.isOk = true → request.outcome = some (.error (.backend slot.device error)) →
      Consistent n (startedOn slot [.refused error, .taken status])
        ⟨0, [.collecting slot n], [], some request⟩
  /-- Neither the unit of work nor the continuation is left. -/
  | closed {history : List Happening} {request : Request} : Told history →
      request.outcome = (Stage.reached n history).outcome false →
      Consistent n history ⟨0, [], [], some request⟩

namespace Consistent

variable {n waiting : Nat} {history : List Happening} {traces : List Frame} {kept : List SlotId}
  {request : Option Request} {slot : SlotId}

/-- The outcome of a request that was made is that of its stage. -/
theorem outcome_eq {file : File} (holds : Consistent n history file) (made : file.request.isSome) :
    file.request.bind Request.outcome = (Stage.reached n history).outcome file.held := by
  cases holds with
  | unmade => simp at made
  | queued => rfl
  | preparing => rfl
  | starting => rfl
  | bereft slot cancelled ending awaits => simp [awaits, Stage.outcome, File.held]
  | outrun slot ending settles settled => simpa [settles, Stage.outcome] using settled
  | collectingWithin slot status cancelled succeeds =>
      simp [Stage.reached, Stage.react, succeeds, Stage.outcome, File.held]
  | granted => rfl
  | collecting slot status cancelled succeeds =>
      simp [Stage.reached, Stage.react, succeeds, Stage.outcome, File.held]
  | left slot error request settled =>
      simpa [Stage.reached, Stage.react, Stage.outcome] using settled
  | collectingLate slot error status request succeeds settled =>
      simpa [Stage.reached, Stage.react, Stage.outcome] using settled
  | closed told outcome => exact outcome

theorem told {file : File} (holds : Consistent n history file) : Told history := by
  cases holds with
  | unmade => exact .nothing
  | queued => exact .nothing
  | preparing slot => exact .begun slot
  | starting slot => exact .ended slot .none .none
  | bereft slot cancelled ending => simpa using Told.refused slot .none ending
  | outrun slot ending => simpa using Told.refused slot .none ending
  | collectingWithin slot status => exact .ended slot .none (.taken status)
  | granted slot => exact .ended slot .none .none
  | collecting slot status => exact .ended slot .none (.taken status)
  | left slot error => exact .refused slot (.refused error) .none
  | collectingLate slot error status => exact .refused slot (.refused error) (.taken status)
  | closed told => exact told

/-! ### What a file tells about the history -/

/-- A request whose hooks or start are under way has begun, and was not cancelled. -/
theorem begun_of_trace {file : File} {frame : Frame} (holds : Consistent n history file)
    (mem : frame ∈ file.traces) : ∃ slot, .begun slot false ∈ history := by
  cases holds with
  | preparing slot => exact ⟨slot, List.mem_cons_self⟩
  | starting slot => exact ⟨slot, List.mem_cons_self⟩
  | bereft slot => exact ⟨slot, List.mem_cons_self⟩
  | outrun slot => exact ⟨slot, List.mem_cons_self⟩
  | collectingWithin slot => exact ⟨slot, List.mem_cons_self⟩
  | collecting slot => exact ⟨slot, List.mem_cons_self⟩
  | collectingLate slot => exact ⟨slot, List.mem_cons_self⟩
  | _ => simp at mem

theorem made (holds : Consistent n history ⟨waiting, traces, kept, none⟩) (cancelled : Bool) :
    Consistent n history ⟨waiting + 1, traces, kept, some (.new cancelled)⟩ := by
  cases holds
  exact .queued cancelled

theorem refused (holds : Consistent n history ⟨waiting, traces, kept, none⟩) (cancelled : Bool) :
    Consistent n history ⟨waiting, traces, kept, some ((Request.new cancelled).release .unit)⟩ := by
  cases holds
  exact .closed .nothing rfl

theorem cancel (holds : Consistent n history ⟨waiting, traces, kept, request⟩) :
    Consistent n history
      ⟨waiting, traces, kept, request.map fun request => { request with cancelled := true }⟩ := by
  cases holds with
  | unmade => exact .unmade
  | queued => exact .queued true
  | preparing slot id complete => exact .preparing slot id complete true
  | starting slot => exact .starting slot true
  | bereft slot cancelled ending awaits => exact .bereft slot true ending awaits
  | outrun slot ending settles settled => exact .outrun slot ending settles settled
  | collectingWithin slot status cancelled succeeds =>
      exact .collectingWithin slot status true succeeds
  | granted slot => exact .granted slot true
  | collecting slot status cancelled succeeds => exact .collecting slot status true succeeds
  | left slot error request settled => exact .left slot error _ settled
  | collectingLate slot error status request succeeds settled =>
      exact .collectingLate slot error status _ succeeds settled
  | closed told outcome => exact .closed told outcome

/-! ### How its unit of work ends -/

/-- It is destroyed before it has run. -/
theorem dropUnit (holds : Consistent n history ⟨waiting + 1, traces, kept, request⟩) :
    Consistent n history ⟨waiting, traces, kept, request.map (Request.release .unit)⟩ := by
  cases holds
  exact .closed .nothing rfl

theorem begunCancelled (slot : SlotId)
    (holds : Consistent n history ⟨waiting + 1, traces, kept, request⟩) :
    Consistent n (history ++ [.begun slot true])
      ⟨waiting, traces, kept,
        request.map fun request => (request.settle (.error .cancelled)).release .unit⟩ := by
  cases holds
  exact .closed (.cancelled slot) rfl

theorem begunPreparing (slot : SlotId) (id : String) (complete : Script)
    (holds : Consistent n history ⟨waiting + 1, traces, kept, request⟩) :
    Consistent n (history ++ [.begun slot false])
      ⟨waiting, .preparing slot id n complete :: traces, kept, request⟩ := by
  cases holds with
  | queued cancelled => exact .preparing slot id complete cancelled

theorem preparedFailed {id : String} {complete : Script} (error : BackendError)
    (holds : Consistent n history
      ⟨waiting, .preparing slot id n complete :: traces, kept, request⟩) :
    Consistent n (history ++ [.prepared (some error)])
      ⟨waiting, traces, kept, request.map fun request =>
        (request.settle (.error (.backend slot.device error))).release .unit⟩ := by
  cases holds
  exact .closed (.unprepared slot error) rfl

theorem kept_of_preparing {id : String} {complete : Script}
    (holds : Consistent n history
      ⟨waiting, .preparing slot id n complete :: traces, kept, request⟩) : kept = [] := by
  cases holds
  rfl

/-- The continuation is left on the slot. -/
theorem preparedReturned {id : String} {complete : Script}
    (holds : Consistent n history
      ⟨waiting, .preparing slot id n complete :: traces, kept, request⟩) :
    Consistent n (history ++ [.prepared none])
      ⟨waiting, .starting slot n :: traces, [slot],
        request.map (Request.hold .continuation)⟩ := by
  cases holds with
  | preparing slot id complete cancelled => exact .starting slot cancelled

theorem preparedLost {id : String} {complete : Script}
    (holds : Consistent n history
      ⟨waiting, .preparing slot id n complete :: traces, kept, request⟩) :
    Consistent n history ⟨waiting, traces, kept, request.map (Request.release .unit)⟩ := by
  cases holds
  exact .closed (.begun slot) rfl

theorem startEnded
    (holds : Consistent n history ⟨waiting, .starting slot n :: traces, kept, request⟩) :
    Consistent n history ⟨waiting, traces, kept, request.map (Request.release .unit)⟩ := by
  have told := holds.told
  cases holds with
  | starting slot cancelled => exact .granted slot cancelled
  | bereft slot cancelled ending awaits => exact .closed told (by rw [awaits]; rfl)
  | outrun slot ending settles settled =>
      refine .closed told ?_
      rw [settles, Request.outcome_release_of_some _ settled]
      rfl

theorem startFailed (error : BackendError)
    (holds : Consistent n history ⟨waiting, .starting slot n :: traces, kept, request⟩) :
    Consistent n (history ++ [.refused error])
      ⟨waiting, traces, kept, request.map fun request =>
        (request.settle (.error (.backend slot.device error))).release .unit⟩ := by
  cases holds with
  | starting slot cancelled => exact .left slot error _ rfl
  | bereft slot cancelled ending awaits =>
      refine .closed (.ended slot (.refused error) ending) ?_
      rw [Stage.reached_append, awaits]
      rfl
  | outrun slot ending settles settled =>
      refine .closed (.ended slot (.refused error) ending) ?_
      rw [Stage.reached_append, settles]
      exact Request.outcome_release_of_some _ (Request.outcome_settle_of_some _ settled)

/-! ### How its continuation ends -/

theorem filter_ne_self (slot : SlotId) : [slot].filter (· ≠ slot) = [] := by simp

theorem filter_ne_of_not_mem (absent : slot ∉ kept) : kept.filter (· ≠ slot) = kept := by
  apply List.filter_eq_self.mpr
  intro other mem
  simpa using fun same : other = slot => absent (same ▸ mem)

/-- What was left on a slot is destroyed. -/
theorem lose (holds : Consistent n history ⟨waiting, traces, kept, request⟩) (slot : SlotId) :
    Consistent n history
      ⟨waiting, traces, kept.filter (· ≠ slot),
        if slot ∈ kept then request.map (Request.release .continuation) else request⟩ := by
  by_cases there : slot ∈ kept
  · rw [if_pos there]
    cases holds with
    | starting other cancelled =>
        obtain rfl := List.mem_singleton.mp there
        rw [filter_ne_self]
        exact .bereft slot cancelled .none rfl
    | granted other cancelled =>
        obtain rfl := List.mem_singleton.mp there
        rw [filter_ne_self]
        exact .closed (.ended slot .none .none) rfl
    | left other error request settled =>
        obtain rfl := List.mem_singleton.mp there
        rw [filter_ne_self]
        exact .closed (.refused slot (.refused error) .none)
          (Request.outcome_release_of_some _ settled)
    | _ => simp at there
  · rw [if_neg there, filter_ne_of_not_mem there]
    exact holds

theorem takenFailed {status : Status}
    (holds : Consistent n history ⟨waiting, traces, kept, request⟩) (there : slot ∈ kept)
    (fails : status.isOk = false) :
    Consistent n (history ++ [.taken status])
      ⟨waiting, traces, kept.filter (· ≠ slot), request.map fun request =>
        (request.settle (.error (.backend slot.device (.ofStatus status)))).release
          .continuation⟩ := by
  have settles : Stage.reached n (startedOn slot [.taken status])
      = .settled (.error (.backend slot.device (.ofStatus status))) := by
    simp [Stage.reached, Stage.react, fails]
  cases holds with
  | starting other cancelled =>
      obtain rfl := List.mem_singleton.mp there
      rw [filter_ne_self]
      exact .outrun slot (.taken status) settles rfl
  | granted other cancelled =>
      obtain rfl := List.mem_singleton.mp there
      have told : Told (startedOn slot [.taken status]) := .ended slot .none (.taken status)
      rw [filter_ne_self]
      exact .closed told (congrArg (Stage.outcome false) settles).symm
  | left other error request settled =>
      obtain rfl := List.mem_singleton.mp there
      rw [filter_ne_self]
      exact .closed (.refused slot (.refused error) (.taken status))
        (Request.outcome_release_of_some _ (Request.outcome_settle_of_some _ settled))
  | _ => simp at there

theorem takenOk {status : Status} (holds : Consistent n history ⟨waiting, traces, kept, request⟩)
    (there : slot ∈ kept) (succeeds : status.isOk = true) :
    Consistent n (history ++ [.taken status])
      ⟨waiting, .collecting slot n :: traces, kept.filter (· ≠ slot), request⟩ := by
  cases holds with
  | starting other cancelled =>
      obtain rfl := List.mem_singleton.mp there
      rw [filter_ne_self]
      exact .collectingWithin slot status cancelled succeeds
  | granted other cancelled =>
      obtain rfl := List.mem_singleton.mp there
      rw [filter_ne_self]
      exact .collecting slot status cancelled succeeds
  | left other error request settled =>
      obtain rfl := List.mem_singleton.mp there
      rw [filter_ne_self]
      exact .collectingLate slot error status request succeeds settled
  | _ => simp at there

/-- The last hook ends. Its result, if it has one, is the outcome, unless the start has failed
before. -/
theorem collected (result : Option (Except BackendError String))
    (holds : Consistent n history ⟨waiting, .collecting slot n :: traces, kept, request⟩) :
    Consistent n (history ++ [.collected result])
      ⟨waiting, traces, kept, request.map fun request =>
        (result.elim request fun result =>
          request.settle (collectedOutcome n slot result)).release .continuation⟩ := by
  cases holds with
  | collectingWithin slot status cancelled succeeds =>
      have ending : Ending [.taken status, .collected result] :=
        .collected status result succeeds
      cases result with
      | none =>
          refine .bereft slot cancelled ending ?_
          simp [Stage.reached, Stage.react, succeeds]
      | some result =>
          refine .outrun slot ending ?_ rfl
          simp [Stage.reached, Stage.react, succeeds]
  | collecting slot status cancelled succeeds =>
      have told : Told (startedOn slot [.taken status, .collected result]) :=
        .ended slot .none (.collected status result succeeds)
      refine .closed told ?_
      cases result <;>
        simp [Stage.reached, Stage.react, succeeds, Stage.outcome, Request.settle, Request.release]
  | collectingLate slot error status request succeeds settled =>
      have told : Told (startedOn slot [.refused error, .taken status, .collected result]) :=
        .refused slot (.refused error) (.collected status result succeeds)
      refine .closed told (Request.outcome_release_of_some _ ?_)
      cases result with
      | none => exact settled
      | some result => exact Request.outcome_settle_of_some _ settled

end Consistent

end SlotDispatch
