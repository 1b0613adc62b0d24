import SlotDispatch.Proofs.Lasting

/-!
What a thread can tell of the queue and of what one request has come to. Nothing but an offer, a
walk that handed a slot back, and a few actions look at the units that wait; nothing but the
actions and the frames that look for an outcome ask what a request has come to. All other steps
are the same whatever waits, and whatever has become of the request (`Call.recast_step`,
`Frame.recast_resume`). Without the unit of one request in the queue even the actions are the
same, as long as they neither count the units that wait nor look for the outcome of that request
(`State.lacking_act`).
-/

namespace SlotDispatch

/-! ### Requests but for what one has come to -/

/-- A request but for what it has come to. -/
def Request.unresolved (request : Request) : Request :=
  { request with holders := [], outcome := none }

namespace Request

@[simp] theorem unresolved_settle (outcome : Outcome) (request : Request) :
    (request.settle outcome).unresolved = request.unresolved := by
  unfold settle
  split <;> rfl

@[simp] theorem unresolved_release (holder : Holder) (request : Request) :
    (request.release holder).unresolved = request.unresolved := by
  simp only [release]
  split
  · exact unresolved_settle _ _
  · rfl

end Request

/-- Two lists of requests that differ at most in what request `r` has come to. -/
def SameBut (r : Nat) (requests others : List Request) : Prop :=
  others.modify r Request.unresolved = requests.modify r Request.unresolved

namespace SameBut

variable {r n : Nat} {requests others : List Request}

theorem refl (r : Nat) (requests : List Request) : SameBut r requests requests := rfl

theorem symm (same : SameBut r requests others) : SameBut r others requests := Eq.symm same

theorem trans {third : List Request} (same : SameBut r requests others)
    (same' : SameBut r others third) : SameBut r requests third := Eq.trans same' same

theorem length_eq (same : SameBut r requests others) : others.length = requests.length := by
  have lengths := congrArg List.length same
  simpa using lengths

theorem getElem?_of_ne (same : SameBut r requests others) (other : n ≠ r) :
    others[n]? = requests[n]? := by
  have entries := congrArg (fun list => list[n]?) same
  simpa [List.getElem?_modify, Ne.symm other] using entries

theorem getElem?_own (same : SameBut r requests others) :
    others[r]?.map Request.unresolved = requests[r]?.map Request.unresolved := by
  have entries := congrArg (fun list => list[r]?) same
  simpa [List.getElem?_modify] using entries

theorem cancelled (same : SameBut r requests others) (n : Nat) :
    others[n]?.map Request.cancelled = requests[n]?.map Request.cancelled := by
  by_cases own : n = r
  · subst own
    have flags := congrArg (Option.map Request.cancelled) same.getElem?_own
    rw [Option.map_map, Option.map_map] at flags
    exact flags
  · rw [same.getElem?_of_ne own]

/-- What is done to one request on both sides, and does not hang on what it has come to. -/
theorem modify (same : SameBut r requests others) (n : Nat) {change : Request → Request}
    (known : Request → Request)
    (blind : ∀ request, (change request).unresolved = known request.unresolved) :
    SameBut r (requests.modify n change) (others.modify n change) := by
  have commutes (list : List Request) : (list.modify n change).modify r Request.unresolved
      = (list.modify r Request.unresolved).modify n (if n = r then known else change) := by
    refine List.ext_getElem? fun i => ?_
    simp only [List.getElem?_modify]
    by_cases own : n = r
    · subst own
      simp only [if_true]
      split <;> simp [Option.map_map, Function.comp_def, blind]
    · simp only [own, if_false]
      by_cases here : r = i
      · have apart : n ≠ i := here ▸ own
        simp [here, apart]
      · simp [here]
  rw [SameBut, commutes, commutes, same]

/-- What request `r` comes to on one side only. -/
theorem modify_left (same : SameBut r requests others) {change : Request → Request}
    (blind : ∀ request, (change request).unresolved = request.unresolved) :
    SameBut r (requests.modify r change) others := by
  have hides : (requests.modify r change).modify r Request.unresolved
      = requests.modify r Request.unresolved := by
    refine List.ext_getElem? fun i => ?_
    simp only [List.getElem?_modify]
    split <;> simp [Option.map_map, Function.comp_def, blind]
  rw [SameBut, hides]
  exact same

/-- A request that is made on both sides. -/
theorem append (same : SameBut r requests others) (made : r < requests.length)
    (request : Request) : SameBut r (requests ++ [request]) (others ++ [request]) := by
  have commutes {list : List Request} (made : r < list.length) :
      (list ++ [request]).modify r Request.unresolved
        = list.modify r Request.unresolved ++ [request] := by
    refine List.ext_getElem? fun i => ?_
    simp only [List.getElem?_modify, List.getElem?_append, List.length_modify]
    by_cases own : r = i
    · subst own
      simp [made]
    · simp [own]
  rw [SameBut, commutes made, commutes (same.length_eq ▸ made), same]

end SameBut

/-! ### Other units that wait, and other requests -/

namespace State

/-- The state with other units waiting, and with other requests. -/
def recast (s : State) (queue : List Work) (requests : List Request) : State :=
  { s with queue, requests }

section Recast

variable {s : State} {queue : List Work} {requests : List Request} {r : Nat}

@[simp] theorem isCancelled_recast (same : SameBut r s.requests requests) (n : Nat) :
    (s.recast queue requests).isCancelled n = s.isCancelled n := by
  have flags := same.cancelled n
  simp only [isCancelled, recast]
  cases found : s.requests[n]? <;> cases found' : requests[n]? <;>
    simp [found, found'] at flags ⊢
  exact flags

theorem outcome?_recast (same : SameBut r s.requests requests) {n : Nat} (other : n ≠ r) :
    (s.recast queue requests).outcome? n = s.outcome? n := by
  simp only [outcome?, recast, same.getElem?_of_ne other]

end Recast

end State

/-- The second move is the first, with other units waiting and with requests that differ at most
in what request `r` has come to. -/
def Move.Recast (r : Nat) (queue : List Work) (move other : Move) : Prop :=
  ∃ requests, SameBut r move.state.requests requests
    ∧ other = ⟨move.state.recast queue requests, move.control, move.frames⟩

section Steps

variable {s : State} {requests : List Request} {r : Nat} (queue : List Work)

/-- What is done to one request and to what it has come to. -/
theorem State.recast_modifyRequest (same : SameBut r s.requests requests) (n : Nat)
    {change : Request → Request}
    (blind : ∀ request, (change request).unresolved = request.unresolved) :
    ∃ requests', SameBut r (s.modifyRequest n change).requests requests'
      ∧ (s.recast queue requests).modifyRequest n change
        = (s.modifyRequest n change).recast queue requests' :=
  ⟨_, same.modify n id blind, rfl⟩

theorem State.recast_release (same : SameBut r s.requests requests) (n : Nat) (holder : Holder) :
    ∃ requests', SameBut r (s.release n holder).requests requests'
      ∧ (s.recast queue requests).release n holder = (s.release n holder).recast queue requests' :=
  State.recast_modifyRequest queue same n (by simp)

/-- A request that is settled and let go of. -/
theorem State.recast_settle_release (same : SameBut r s.requests requests) (n : Nat)
    (outcome : Outcome) (holder : Holder) :
    ∃ requests', SameBut r ((s.settle n outcome).release n holder).requests requests'
      ∧ ((s.recast queue requests).settle n outcome).release n holder
        = ((s.settle n outcome).release n holder).recast queue requests' := by
  obtain ⟨settled, same, eq⟩ := State.recast_modifyRequest queue same n
    (Request.unresolved_settle outcome)
  obtain ⟨released, same, eq'⟩ := State.recast_release queue same n holder
  refine ⟨released, same, ?_⟩
  rw [State.settle, eq]
  exact eq'

theorem State.recast_dropContinuation (same : SameBut r s.requests requests)
    (continuation : Option Continuation) :
    ∃ requests', SameBut r (s.dropContinuation continuation).requests requests'
      ∧ (s.recast queue requests).dropContinuation continuation
        = (s.dropContinuation continuation).recast queue requests' := by
  rcases continuation with - | ⟨id, script⟩ | ⟨id, number, complete⟩
  · exact ⟨requests, same, rfl⟩
  · exact ⟨requests, same, rfl⟩
  · exact State.recast_release queue same number .continuation

theorem State.recast_clearContinuation (same : SameBut r s.requests requests) (slot : SlotId) :
    ∃ requests', SameBut r (s.clearContinuation slot).requests requests'
      ∧ (s.recast queue requests).clearContinuation slot
        = (s.clearContinuation slot).recast queue requests' :=
  State.recast_dropContinuation queue
    (s := s.modifySlot slot fun slot => { slot with continuation := none }) same _

theorem State.recast_setContinuation (same : SameBut r s.requests requests) (slot : SlotId)
    (continuation : Continuation) :
    ∃ requests', SameBut r (s.setContinuation slot continuation).requests requests'
      ∧ (s.recast queue requests).setContinuation slot continuation
        = (s.setContinuation slot continuation).recast queue requests' :=
  State.recast_dropContinuation queue
    (s := s.modifySlot slot fun slot => { slot with continuation := some continuation }) same _

/-! ### Calls and frames -/

/-- Whether a call looks at the units that wait. -/
def Call.looksAtQueue : Call → Bool
  | .act _ _ | .offer _ _ | .walk [] true => true
  | _ => false

/-- Whether a unit of work begins, or a request has been cancelled. -/
theorem Call.recast_perform (same : SameBut r s.requests requests) (slot : SlotId) (work : Work) :
    (Call.step s (.perform slot work)).Recast r queue
      (Call.step (s.recast queue requests) (.perform slot work)) := by
  cases work with
  | scripted id script => exact ⟨requests, same, rfl⟩
  | request id number job =>
      simp only [step, State.perform, State.isCancelled_recast same]
      split
      · obtain ⟨after, same, eq⟩ :=
          State.recast_settle_release queue same number (.error .cancelled) .unit
        exact ⟨after, same, by rw [eq]; rfl⟩
      · split
        · next reached =>
            rw [if_pos (by exact reached)]
            exact ⟨requests, same, rfl⟩
        · next missed =>
            rw [if_neg (by exact missed)]
            obtain ⟨after, same, eq⟩ := State.recast_settle_release queue
              (s := s.enter .prepare id slot) same number
              (.error (.backend slot.device Backend.unreachable)) .unit
            refine ⟨after, same, ?_⟩
            change Move.signal _ _ = Move.signal _ _
            exact congrArg (Move.signal · _) eq

theorem Call.recast_followUp (same : SameBut r s.requests requests) (slot : SlotId)
    (status : Status) :
    (Call.step s (.followUp slot status)).Recast r queue
      (Call.step (s.recast queue requests) (.followUp slot status)) := by
  have slot' : (s.recast queue requests).slot slot = s.slot slot := rfl
  rw [step, step]
  cases left : (s.slot slot).continuation with
  | none =>
      rw [State.followUp, State.followUp, slot', left]
      exact ⟨requests, same, rfl⟩
  | some continuation =>
      cases continuation with
      | scripted id script =>
          rw [State.followUp, State.followUp, slot', left]
          exact ⟨requests, same, rfl⟩
      | request id number complete =>
          rw [State.followUp_request left, State.followUp_request (slot' ▸ left)]
          split
          · exact ⟨requests, same, rfl⟩
          · obtain ⟨after, same, eq⟩ := State.recast_settle_release queue
              (s := s.relieved slot) same number
              (.error (.backend slot.device (.ofStatus status))) .continuation
            exact ⟨after, same, congrArg Move.done eq⟩

/-- The calls that do not look at the units that wait are the same whatever waits. -/
theorem Call.recast_step {call : Call} (same : SameBut r s.requests requests)
    (blind : call.looksAtQueue = false) :
    (call.step s).Recast r queue (call.step (s.recast queue requests)) := by
  cases call with
  | act | offer => cases blind
  | perform slot work => exact recast_perform queue same slot work
  | followUp slot status => exact recast_followUp queue same slot status
  | discard slot =>
      obtain ⟨after, same, eq⟩ := State.recast_clearContinuation queue same slot
      exact ⟨after, same, by rw [step, step, eq]; rfl⟩
  | script scope rest => cases rest <;> exact ⟨requests, same, rfl⟩
  | schedule =>
      have serving : (s.recast queue requests).serving = s.serving := rfl
      simp only [step, serving]
      split <;> exact ⟨requests, same, rfl⟩
  | walk devices handedBack =>
      cases devices with
      | nil =>
          cases handedBack with
          | false => exact ⟨requests, same, rfl⟩
          | true => cases blind
      | cons device rest =>
          have idle : (s.recast queue requests).idle device = s.idle device := rfl
          simp only [step, State.popIdle, idle]
          cases s.idle device <;> exact ⟨requests, same, rfl⟩
  | start slot =>
      have conduct : ((s.recast queue requests).note (.started slot)).conduct slot.device
          = (s.note (.started slot)).conduct slot.device := rfl
      have running : ((s.recast queue requests).note (.started slot)).slot slot
          = (s.note (.started slot)).slot slot := rfl
      simp only [step, State.start, conduct, running]
      split
      · exact ⟨requests, same, rfl⟩
      · split
        · exact ⟨requests, same, rfl⟩
        · simp only [State.launch]
          split <;> exact ⟨requests, same, rfl⟩
  | complete slot status =>
      have attached : ((s.recast queue requests).modifySlot slot fun slot =>
            { slot with output := slot.input, running := false }).slot slot
          = (s.modifySlot slot fun slot =>
            { slot with output := slot.input, running := false }).slot slot := rfl
      simp only [step, State.complete, attached]
      split <;> exact ⟨requests, same, rfl⟩
  | notify slot status => exact ⟨requests, same, rfl⟩
  | bind | markIdle | pushIdle => exact ⟨requests, same, rfl⟩

/-- A frame that looks for no outcome of request `r` goes on the same. -/
theorem Frame.recast_resume {frame : Frame} (same : SameBut r s.requests requests)
    (blind : ∀ id, frame ≠ .firstLook id r) (signal : Signal) :
    (frame.resume s signal).Recast r queue (frame.resume (s.recast queue requests) signal) := by
  have settles (number : Nat) (outcome : Outcome) (holder : Holder) (signal : Signal) :
      (Move.signal ((s.settle number outcome).release number holder) signal).Recast r queue
        (Move.signal (((s.recast queue requests).settle number outcome).release number holder)
          signal) := by
    obtain ⟨after, same, eq⟩ := State.recast_settle_release queue same number outcome holder
    exact ⟨after, same, by rw [eq]; rfl⟩
  have releases (number : Nat) (holder : Holder) (signal : Signal) :
      (Move.signal (s.release number holder) signal).Recast r queue
        (Move.signal ((s.recast queue requests).release number holder) signal) := by
    obtain ⟨after, same, eq⟩ := State.recast_release queue same number holder
    exact ⟨after, same, by rw [eq]; rfl⟩
  cases frame with
  | firstLook id number =>
      cases signal with
      | returned answer =>
          have other : number ≠ r := fun own => blind id (own ▸ rfl)
          simp only [resume, State.outcome?_recast same other]
          split <;> exact ⟨requests, same, rfl⟩
      | _ => exact ⟨requests, same, rfl⟩
  | preparing slot id number complete =>
      cases signal with
      | returned answer =>
          obtain ⟨held, same, eq⟩ := State.recast_modifyRequest queue same number
            (fun request : Request => (rfl : (request.hold .continuation).unresolved = _))
          obtain ⟨after, same, eq'⟩ := State.recast_setContinuation queue same slot
            (.request id number complete)
          exact ⟨after, same, by rw [resume, eq, eq']; rfl⟩
      | failed error => exact settles number _ .unit _
      | declined | panicked message => exact releases number .unit _
  | starting slot number =>
      cases signal with
      | failed error => exact settles number _ .unit _
      | returned answer | declined | panicked message => exact releases number .unit _
  | collecting slot number =>
      cases signal with
      | returned answer | failed error => exact settles number _ .continuation _
      | declined | panicked message => exact releases number .continuation _
  | parting slot held =>
      obtain ⟨after, cleared, eq⟩ := State.recast_clearContinuation queue same slot
      cases held with
      | false => cases signal <;> exact ⟨requests, same, rfl⟩
      | true =>
          cases signal <;>
            exact ⟨after, cleared, by simp only [resume, if_true, State.detach, eq]; rfl⟩
  | completing slot =>
      have serving : (s.recast queue requests).serving = s.serving := rfl
      cases signal with
      | panicked message => exact ⟨requests, same, rfl⟩
      | _ =>
          simp only [resume, serving]
          split <;> exact ⟨requests, same, rfl⟩
  | _ => cases signal <;> exact ⟨requests, same, rfl⟩

end Steps

/-! ### Without the unit of one request -/

/-- The state without the unit of request `r` in the queue, and with other requests. -/
def State.lacking (s : State) (r : Nat) (requests : List Request) : State :=
  s.recast (s.queue.filter fun work => !work.ofRequest r) requests

/-- The second move is the first without the unit of request `r`, and with requests that differ
at most in what `r` has come to. -/
def Move.Lacks (r : Nat) (move other : Move) : Prop :=
  ∃ requests, SameBut r move.state.requests requests
    ∧ other = ⟨move.state.lacking r requests, move.control, move.frames⟩

/-- An action reads neither the number of the units that wait nor the outcome of request `r`. -/
def State.ignores (s : State) (r : Nat) : Action → Bool
  | .state => false
  | .tryOutcome id | .poll id | .wait id =>
      (s.pending.lookup id).all fun entry => entry.request != r
  | _ => true

section Acts

variable {s : State} {requests : List Request} {r : Nat}

/-- A move that leaves the queue as it is. -/
theorem Move.Recast.lacks {move other : Move} {queue : List Work}
    (recast : move.Recast r queue other) (left : move.state.queue.filter (fun work =>
      !work.ofRequest r) = queue) : move.Lacks r other := by
  obtain ⟨requests, same, rfl⟩ := recast
  exact ⟨requests, same, by rw [State.lacking, left]⟩

/-- A unit of another request is queued, or destroyed after a shutdown. -/
theorem State.lacking_accept (same : SameBut r s.requests requests) (work : Work) (frame : Frame)
    (other : work.ofRequest r = false) :
    (s.accept work frame).Lacks r ((s.lacking r requests).accept work frame) := by
  have serving : (s.lacking r requests).serving = s.serving := rfl
  simp only [accept, serving]
  split
  · refine ⟨requests, same, ?_⟩
    simp [Move.await, lacking, recast, List.filter_append, other]
  · cases work with
    | scripted id script => exact ⟨requests, same, rfl⟩
    | request id number job =>
        obtain ⟨after, same, eq⟩ := State.recast_release
          (s.queue.filter fun work => !work.ofRequest r) same number .unit
        exact ⟨after, same, congrArg (Move.answer · _) eq⟩

/-- A request that is made after request `r` is another one. -/
theorem State.lacking_accept_request (same : SameBut r s.requests requests)
    (made : r < s.requests.length) (cancelled : Bool) (handles : List (String × Nat)) (id : String)
    (job : Job) (frame : Frame) :
    (State.accept { s with requests := s.requests ++ [Request.new cancelled], handles }
      (.request id s.requests.length job) frame).Lacks r
      (State.accept
        { s.lacking r requests with requests := requests ++ [Request.new cancelled], handles }
        (.request id s.requests.length job) frame) := by
  refine State.lacking_accept
    (s := { s with requests := s.requests ++ [Request.new cancelled], handles })
    (same.append made (.new cancelled)) _ frame ?_
  simp only [Work.ofRequest, beq_eq_false_iff_ne, ne_eq]
  omega

/-- A continuation is left on a slot, and one that was there is destroyed. -/
theorem State.lacking_setContinuation (same : SameBut r s.requests requests) (slot : SlotId)
    (continuation : Continuation) : (Move.done (s.setContinuation slot continuation)).Lacks r
      (Move.done ((s.lacking r requests).setContinuation slot continuation)) := by
  obtain ⟨after, same, eq⟩ := State.recast_setContinuation
    (s.queue.filter fun work => !work.ofRequest r) same slot continuation
  refine Move.Recast.lacks ⟨after, same, congrArg Move.done eq⟩ ?_
  have queue := (State.undisturbed_setContinuation s slot continuation).sameQueue
  exact congrArg (List.filter fun work => !work.ofRequest r) queue

/-- Units that wait are destroyed; that of request `r` on one side only. -/
theorem State.lacking_foldl_dropWork (queue works : List Work)
    (same : SameBut r s.requests requests) :
    ∃ requests', SameBut r (works.foldl dropWork s).requests requests'
      ∧ (works.filter fun work => !work.ofRequest r).foldl dropWork (s.recast queue requests)
        = (works.foldl dropWork s).recast queue requests' := by
  induction works generalizing s requests with
  | nil => exact ⟨requests, same, rfl⟩
  | cons work rest ih =>
      cases work with
      | scripted id script => exact ih same
      | request id number job =>
          by_cases own : number = r
          · rw [List.filter_cons_of_neg (by simp [Work.ofRequest, own])]
            have hidden : SameBut r (s.release number .unit).requests requests :=
              own ▸ (own ▸ same).modify_left (Request.unresolved_release .unit)
            exact ih hidden
          · rw [List.filter_cons_of_pos (by simp [Work.ofRequest, own])]
            obtain ⟨after, same, eq⟩ := State.recast_release queue same number .unit
            simp only [List.foldl_cons, dropWork, eq]
            exact ih same

theorem State.lacking_shutdown (same : SameBut r s.requests requests) :
    ∃ requests', SameBut r s.shutdown.requests requests'
      ∧ (s.lacking r requests).shutdown = s.shutdown.lacking r requests' := by
  have serving : (s.lacking r requests).serving = s.serving := rfl
  simp only [shutdown, serving]
  split
  · obtain ⟨after, same, eq⟩ := State.lacking_foldl_dropWork
      (s := { s with phase := .shutDown, priorities := [], queue := [] }) [] s.queue same
    obtain ⟨left, shape⟩ := foldl_dropWork_eq s.queue
      { s with phase := .shutDown, priorities := [], queue := [] }
    refine ⟨after, same, eq.trans ?_⟩
    rw [shape]
    rfl
  · exact ⟨requests, same, rfl⟩

/-- Settings are changed alike. -/
theorem State.lacking_setPriorities (s : State) (r : Nat) (requests : List Request)
    (entries : List Preference) (text : String) :
    (s.lacking r requests).setPriorities entries text
      = (s.setPriorities entries text).map (·.lacking r requests) := by
  have serving : (s.lacking r requests).serving = s.serving := rfl
  have devices : (s.lacking r requests).devices = s.devices := rfl
  simp only [setPriorities, serving, devices]
  repeat' split
  all_goals rfl

theorem State.lacking_setConfig (s : State) (r : Nat) (requests : List Request)
    (config : List (String × String)) :
    (s.lacking r requests).setConfig config = (s.setConfig config).map (·.lacking r requests) := by
  simp only [setConfig, State.lacking_setPriorities]
  repeat' split
  all_goals rfl

theorem State.lacking_reconfigured (same : SameBut r s.requests requests)
    {changed : Except DispatchError State}
    (kept : ∀ t, changed = .ok t → t.requests = s.requests) :
    (s.reconfigured changed).Lacks r
      ((s.lacking r requests).reconfigured (changed.map (·.lacking r requests))) := by
  cases changed with
  | error error => exact ⟨requests, same, rfl⟩
  | ok t => exact ⟨requests, (kept t rfl).symm ▸ same, rfl⟩

/-- An outcome of another request is looked for alike. -/
theorem State.lacking_look (same : SameBut r s.requests requests) {entry : Pending}
    (other : entry.request ≠ r) : (s.lacking r requests).look entry = s.look entry := by
  have outcome : (s.lacking r requests).outcome? entry.request = s.outcome? entry.request :=
    State.outcome?_recast same other
  simp only [look, outcome]

theorem State.lacking_poll (same : SameBut r s.requests requests) {id : String}
    (others : ∀ entry, s.pending.lookup id = some entry → entry.request ≠ r) :
    (s.lacking r requests).poll id = ((s.poll id).1.lacking r requests, (s.poll id).2) := by
  have pending : (s.lacking r requests).pending = s.pending := rfl
  simp only [poll, pending]
  cases kept : s.pending.lookup id with
  | none => rfl
  | some entry =>
      simp only [State.lacking_look same (others entry kept)]
      split
      · rfl
      · cases s.look entry <;> rfl

theorem State.requests_poll (s : State) (id : String) : (s.poll id).1.requests = s.requests := by
  obtain ⟨pending, eq⟩ := s.poll_eq id
  rw [eq]

theorem State.lacking_tryOutcome (same : SameBut r s.requests requests) {id : String}
    (others : ∀ entry, s.pending.lookup id = some entry → entry.request ≠ r) :
    (Move.ofAnswer (s.tryOutcome id)).Lacks r
      (Move.ofAnswer ((s.lacking r requests).tryOutcome id)) := by
  have pending : (s.lacking r requests).pending = s.pending := rfl
  simp only [tryOutcome, pending]
  cases kept : s.pending.lookup id with
  | none => exact ⟨requests, same, rfl⟩
  | some entry =>
      simp only [State.lacking_look same (others entry kept)]
      split
      · exact ⟨requests, same, rfl⟩
      split
      · exact ⟨requests, same, rfl⟩
      · cases s.look entry <;> exact ⟨requests, same, rfl⟩

/-- An action that ignores the units that wait, and the outcome of request `r`, comes to the same
without the unit of `r`. -/
theorem State.lacking_act (same : SameBut r s.requests requests) (made : r < s.requests.length)
    (scope : Option Scope) {action : Action} (ignores : s.ignores r action = true) :
    (s.act scope action).Lacks r ((s.lacking r requests).act scope action) := by
  have onDispatcher {move other : Move} (alike : move.Lacks r other) :
      (Move.onDispatcher s move).Lacks r (Move.onDispatcher (s.lacking r requests) other) := by
    have phase : (s.lacking r requests).phase = s.phase := rfl
    simp only [Move.onDispatcher, phase]
    split
    · exact ⟨requests, same, rfl⟩
    · exact alike
  have others {id : String} (ignored : (s.pending.lookup id).all
      (fun entry => entry.request != r) = true) :
      ∀ entry, s.pending.lookup id = some entry → entry.request ≠ r := by
    intro entry kept
    rw [kept] at ignored
    simpa using ignored
  have cancels (number : Nat) (answer : Answer) :
      (Move.answer (s.cancelRequest number) answer).Lacks
      r (Move.answer ((s.lacking r requests).cancelRequest number) answer) := by
    refine ⟨_, same.modify number (fun request => { request with cancelled := true })
      fun _ => rfl, rfl⟩
  have long : (s.lacking r requests).requests.length = s.requests.length := same.length_eq
  cases action with
  | state => cases ignores
  | start | tryStart | slot | fail => cases scope <;> exact ⟨requests, same, rfl⟩
  | panic => exact ⟨requests, same, rfl⟩
  | andThen script =>
      cases scope with
      | none => exact ⟨requests, same, rfl⟩
      | some scope => exact State.lacking_setContinuation same scope.slot _
  | complete slot status =>
      have device : (s.lacking r requests).device? slot.device = s.device? slot.device := rfl
      have there : (s.lacking r requests).hasSlot slot = s.hasSlot slot := rfl
      simp only [act, completeSlot, device, there]
      repeat' split
      all_goals exact ⟨requests, same, rfl⟩
  | finish position status =>
      have running : (s.lacking r requests).running = s.running := rfl
      simp only [act, finish, running]
      split <;> exact ⟨requests, same, rfl⟩
  | conduct name conduct =>
      have device : (s.lacking r requests).device? name = s.device? name := rfl
      simp only [act, setConduct, device]
      split <;> exact ⟨requests, same, rfl⟩
  | submit id script => exact onDispatcher (State.lacking_accept same _ _ rfl)
  | request id value cancelled prepare complete =>
      refine onDispatcher ?_
      simp only [startRequest, addRequest, long]
      exact State.lacking_accept_request same made cancelled _ id _ _
  | infer id value prepare complete =>
      refine onDispatcher ?_
      simp only [startInference, addRequest, long]
      exact State.lacking_accept_request same made false s.handles id _ _
  | setPriorities entries =>
      refine onDispatcher ?_
      rw [State.lacking_setPriorities]
      refine State.lacking_reconfigured same fun t set => ?_
      rw [setPriorities_eq set]
  | setConfig config =>
      refine onDispatcher ?_
      rw [State.lacking_setConfig]
      refine State.lacking_reconfigured same fun t set => ?_
      obtain ⟨entries, text, rfl⟩ := setConfig_eq set
      rfl
  | config key =>
      refine onDispatcher ?_
      have config : (s.lacking r requests).config key = s.config key := rfl
      rw [config]
      cases s.config key <;> exact ⟨requests, same, rfl⟩
  | metric key =>
      refine onDispatcher ?_
      have metric : (s.lacking r requests).metric key = s.metric key := rfl
      rw [metric]
      cases s.metric key <;> exact ⟨requests, same, rfl⟩
  | device | priorities | unknown => exact onDispatcher ⟨requests, same, rfl⟩
  | shutdown =>
      refine onDispatcher ?_
      obtain ⟨after, same, eq⟩ := State.lacking_shutdown same
      exact ⟨after, same, congrArg Move.done eq⟩
  | tryOutcome id => exact State.lacking_tryOutcome same (others ignores)
  | poll id =>
      simp only [act, State.lacking_poll same (others ignores)]
      exact ⟨requests, (s.requests_poll id).symm ▸ same, rfl⟩
  | wait id =>
      have pending : (s.lacking r requests).pending = s.pending := rfl
      simp only [act, wait, pending]
      split
      · exact ⟨requests, same, rfl⟩
      · simp only [State.lacking_poll same (others ignores)]
        exact ⟨requests, (s.requests_poll id).symm ▸ same, rfl⟩
  | cancel id =>
      have handles : (s.lacking r requests).handles = s.handles := rfl
      simp only [act, cancel, handles]
      split
      · exact ⟨requests, same, rfl⟩
      · next number found =>
          have flag : (s.lacking r requests).isCancelled number = s.isCancelled number :=
            State.isCancelled_recast same number
          rw [flag]
          exact cancels number _
  | cancelPending id =>
      have pending : (s.lacking r requests).pending = s.pending := rfl
      simp only [act, cancelPending, pending]
      split
      · exact cancels _ _
      · exact ⟨requests, same, rfl⟩
  | isCancelled id =>
      have flags : (s.lacking r requests).isCancelled = s.isCancelled :=
        funext fun number => State.isCancelled_recast same number
      have handles : (s.lacking r requests).handles = s.handles := rfl
      simp only [act, flags, handles]
      exact ⟨requests, same, rfl⟩
  | forget id => exact ⟨requests, same, rfl⟩

end Acts

end SlotDispatch
