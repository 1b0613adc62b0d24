import SlotDispatch.Proofs.Tame

/-!
A state in another guise: a device conducts itself otherwise, the units of work of some requests
have been let go of already, and other outcomes are kept for callers. A tame thread goes on in
the other guise as it does in the first (`Moment.Leads.guised`), as long as the device grants no
start, and no request of those is let go of before it is settled (`Guise.Suits`).
-/

namespace SlotDispatch

/-! ### Requests whose units of work are gone -/

namespace Request

/-- The request once its unit of work is gone. -/
def shed (request : Request) : Request := { request with holders := request.holders.erase .unit }

variable {request : Request}

theorem shed_settle (outcome : Outcome) (request : Request) :
    request.shed.settle outcome = (request.settle outcome).shed := by
  obtain ⟨cancelled, holders, settled⟩ := request
  cases settled <;> rfl

theorem shed_hold (request : Request) :
    request.shed.hold .continuation = (request.hold .continuation).shed := by
  simp [shed, hold]

/-- A holder that goes once the request is settled is missed by nobody. -/
theorem release_of_settled (settled : request.outcome.isSome = true) (holder : Holder) :
    request.release holder = { request with holders := request.holders.erase holder } := by
  obtain ⟨outcome, same⟩ := Option.isSome_iff_exists.mp settled
  simp only [release]
  split
  · simp [settle, same]
  · rfl

theorem shed_release (settled : request.outcome.isSome = true) (holder : Holder) :
    request.shed.release holder = (request.release holder).shed := by
  rw [release_of_settled settled, release_of_settled (show request.shed.outcome.isSome = true from
    settled)]
  simp [shed, List.erase_comm]

/-- A unit of work that leaves the request to its continuation. -/
theorem release_unit_of_held (held : .continuation ∈ request.holders) :
    request.release .unit = request.shed := by
  have left : .continuation ∈ request.holders.erase .unit :=
    (List.mem_erase_of_ne (by decide)).mpr held
  have some : (request.holders.erase .unit).isEmpty = false := by
    cases rest : request.holders.erase .unit with
    | nil => simp [rest] at left
    | cons holder rest => rfl
  simp [release, shed, some]

theorem isSome_settle (outcome : Outcome) (request : Request) :
    (request.settle outcome).outcome.isSome = true := by
  obtain ⟨cancelled, holders, settled⟩ := request
  cases settled <;> rfl

end Request

/-- The requests once these units of work are gone. -/
def shedAll (gone : List Nat) (requests : List Request) : List Request :=
  gone.foldl (fun requests n => requests.modify n Request.shed) requests

/-- What is done to a request comes to the same after its unit of work is gone. -/
theorem modify_shedAll (held : Request → Prop) (keeps : ∀ request, held request → held request.shed)
    {change : Request → Request}
    (commutes : ∀ request : Request, held request → change request.shed = (change request).shed)
    (gone : List Nat) {requests : List Request} {n : Nat}
    (holds : n ∈ gone → ∀ request, requests[n]? = some request → held request) :
    (shedAll gone requests).modify n change = shedAll gone (requests.modify n change) := by
  induction gone generalizing requests with
  | nil => rfl
  | cons m gone ih =>
      have swaps : (requests.modify m Request.shed).modify n change
          = (requests.modify n change).modify m Request.shed := by
        refine List.ext_getElem? fun i => ?_
        simp only [List.getElem?_modify]
        cases found : requests[i]? with
        | none => simp
        | some request =>
            by_cases first : m = i <;> by_cases second : n = i
            · have among : n ∈ m :: gone := by simp [first, second]
              simp [first, second, commutes request (holds among request (second ▸ found))]
            · simp [first, second]
            · simp [first, second]
            · simp [first, second]
      have holds' : n ∈ gone → ∀ request, (requests.modify m Request.shed)[n]? = some request →
          held request := by
        intro among request found
        rw [List.getElem?_modify] at found
        cases entry : requests[n]? with
        | none => simp [entry] at found
        | some other =>
            have here := holds (List.mem_cons_of_mem _ among) other entry
            rw [entry] at found
            split at found
            · rw [← Option.some.inj found]
              exact keeps other here
            · rw [← Option.some.inj found]
              exact here
      change (shedAll gone (requests.modify m Request.shed)).modify n change
        = shedAll gone ((requests.modify n change).modify m Request.shed)
      rw [ih holds', swaps]

/-! ### States in another guise -/

/-- What is different in another guise: how a device conducts itself, and the requests whose units
of work have been let go of. -/
structure Guise where
  device : String
  conduct : Conduct
  gone : List Nat

/-- The device with another conduct. -/
def Device.conducted (device : Device) (conduct : Conduct) : Device :=
  { device with backend := { device.backend with conduct } }

namespace State

/-- The state in another guise, with other outcomes kept for callers. -/
def guised (s : State) (guise : Guise) (pending : List (String × Pending)) : State :=
  { s.modifyDevice guise.device fun device => device.conducted guise.conduct with
    requests := shedAll guise.gone s.requests, pending }

variable {s : State} (guise : Guise) (pending : List (String × Pending))

theorem device?_guised (s : State) (name : String) :
    (s.guised guise pending).device? name
      = (s.device? name).map fun device =>
          if name = guise.device then device.conducted guise.conduct else device := by
  change (s.modifyDevice guise.device fun device => device.conducted guise.conduct).device? name = _
  exact device?_modifyDevice s (by intro; rfl) guise.device name

theorem idle_guised (s : State) (name : String) :
    (s.guised guise pending).idle name = s.idle name := by
  simp only [idle, device?_guised]
  cases s.device? name with
  | none => rfl
  | some device => simp only [Option.map_some]; split <;> rfl

theorem reachable_guised (s : State) (name : String) :
    (s.guised guise pending).reachable name = s.reachable name := by
  simp only [reachable, device?_guised]
  cases s.device? name with
  | none => rfl
  | some device => simp only [Option.map_some]; split <;> rfl

/-- Other devices conduct themselves as before. -/
theorem conduct_guised_of_ne (s : State) {name : String} (other : name ≠ guise.device) :
    (s.guised guise pending).conduct name = s.conduct name := by
  simp only [conduct, device?_guised, if_neg other]
  cases s.device? name <;> rfl

theorem conduct_guised_self (known : (s.device? guise.device).isSome = true) :
    (s.guised guise pending).conduct guise.device = guise.conduct := by
  obtain ⟨device, found⟩ := Option.isSome_iff_exists.mp known
  simp [conduct, device?_guised, found, Device.conducted]

theorem isCancelled_eq (s : State) (n : Nat) :
    s.isCancelled n = (s.requests[n]?.map Request.cancelled).getD false := by
  simp only [isCancelled]
  cases s.requests[n]? <;> rfl

theorem isCancelled_guised (s : State) (n : Nat) :
    (s.guised guise pending).isCancelled n = s.isCancelled n := by
  have flags (gone : List Nat) (requests : List Request) :
      (shedAll gone requests)[n]?.map Request.cancelled = requests[n]?.map Request.cancelled := by
    induction gone generalizing requests with
    | nil => rfl
    | cons m gone ih =>
        refine (ih (requests.modify m Request.shed)).trans ?_
        rw [List.getElem?_modify]
        split
        · simp [Option.map_map, Function.comp_def, Request.shed]
        · simp
  rw [isCancelled_eq, isCancelled_eq]
  exact congrArg (·.getD false) (flags guise.gone s.requests)

/-! ### Elementary changes -/

/-- What is done to one device but to its backend. -/
theorem modifyDevice_guised (s : State) (name : String) (pool : Device → List Nat)
    (same : ∀ device : Device, ∀ conduct, pool (device.conducted conduct) = pool device) :
    (s.guised guise pending).modifyDevice name (fun device => { device with idle := pool device })
      = (s.modifyDevice name fun device => { device with idle := pool device }).guised
          guise pending := by
  have devices : (s.guised guise pending).devices.map (fun device =>
      if device.name = name then { device with idle := pool device } else device)
      = (s.modifyDevice name fun device => { device with idle := pool device }).devices.map
        fun device =>
          if device.name = guise.device then device.conducted guise.conduct else device := by
    simp only [guised, modifyDevice, List.map_map]
    refine List.map_congr_left fun device _ => ?_
    simp only [Function.comp]
    by_cases own : device.name = guise.device
    · have own' : (device.conducted guise.conduct).name = guise.device := own
      by_cases here : guise.device = name
      · have named : ({ device with idle := pool device } : Device).name = guise.device := own
        rw [if_pos own, own', if_pos here, own, if_pos here, if_pos named, same]
        rfl
      · rw [if_pos own, own', if_neg here, own, if_neg here, if_pos own]
    · by_cases here : device.name = name
      · have named : ({ device with idle := pool device } : Device).name ≠ guise.device := own
        rw [if_neg own, if_pos here, if_neg named]
      · rw [if_neg own, if_neg here, if_neg own]
  exact congrArg (fun devices => { s.guised guise pending with devices }) devices

theorem popIdle_guised (s : State) (name : String) :
    (s.guised guise pending).popIdle name
      = (s.popIdle name).map fun popped => (popped.1, popped.2.guised guise pending) := by
  simp only [popIdle, idle_guised]
  cases s.idle name with
  | nil => rfl
  | cons index rest =>
      simp only [Option.map_some,
        modifyDevice_guised guise pending s name (fun _ => rest) fun _ _ => rfl]

theorem pushIdle_guised (s : State) (slot : SlotId) :
    (s.guised guise pending).pushIdle slot = (s.pushIdle slot).guised guise pending :=
  modifyDevice_guised guise pending s slot.device (fun device => slot.index :: device.idle)
    fun _ _ => rfl

/-- What is done to a request whether or not it is settled. -/
theorem modifyRequest_guised (s : State) (n : Nat) {change : Request → Request}
    (commutes : ∀ request : Request, change request.shed = (change request).shed) :
    (s.guised guise pending).modifyRequest n change
      = (s.modifyRequest n change).guised guise pending := by
  have requests : (shedAll guise.gone s.requests).modify n change
      = shedAll guise.gone (s.requests.modify n change) :=
    modify_shedAll (fun _ => True) (fun _ _ => trivial) (fun request _ => commutes request)
      guise.gone fun _ _ _ => trivial
  exact congrArg (fun requests => { s.guised guise pending with requests }) requests

/-- A holder that goes, unless the unit of work is gone and the request is not settled. -/
theorem release_guised {n : Nat} (settled : n ∈ guise.gone → ∀ request,
      s.requests[n]? = some request → request.outcome.isSome = true) (holder : Holder) :
    (s.guised guise pending).release n holder = (s.release n holder).guised guise pending := by
  have requests := modify_shedAll (fun request => request.outcome.isSome = true)
    (fun request settled => settled) (fun request settled => Request.shed_release settled holder)
    guise.gone settled
  exact congrArg (fun requests => { s.guised guise pending with requests }) requests

theorem settle_release_guised (s : State) (n : Nat) (outcome : Outcome) (holder : Holder) :
    ((s.guised guise pending).settle n outcome).release n holder
      = ((s.settle n outcome).release n holder).guised guise pending := by
  rw [settle, modifyRequest_guised guise pending s n (Request.shed_settle outcome)]
  refine release_guised guise pending (fun _ request found => ?_) holder
  rw [requests_modifyRequest, if_pos rfl] at found
  obtain ⟨other, -, rfl⟩ := Option.map_eq_some_iff.mp found
  exact Request.isSome_settle outcome other

/-- A unit of work that goes without settling its request. -/
theorem guised_release_unit {n : Nat} (sheds : ∀ request, s.requests[n]? = some request →
      request.release .unit = request.shed) :
    (s.release n .unit).guised guise pending
      = s.guised { guise with gone := n :: guise.gone } pending := by
  have requests : s.requests.modify n (Request.release .unit)
      = s.requests.modify n Request.shed := by
    refine List.ext_getElem? fun i => ?_
    simp only [List.getElem?_modify]
    cases found : s.requests[i]? with
    | none => rfl
    | some request =>
        by_cases here : n = i
        · simp [here, sheds request (here ▸ found)]
        · simp [here]
  exact congrArg (fun requests => { s.guised guise pending with
    requests := shedAll guise.gone requests }) requests

end State

/-- All requests whose units of work are gone have been settled. -/
def Guise.Fits (guise : Guise) (s : State) : Prop := ∀ n ∈ guise.gone, (s.outcome? n).isSome = true

namespace Guise

variable {s t : State} {guise : Guise} {pending : List (String × Pending)}

theorem Fits.settled (fits : guise.Fits s) {n : Nat} (among : n ∈ guise.gone) (request : Request)
    (found : s.requests[n]? = some request) : request.outcome.isSome = true := by
  have settled := fits n among
  simpa [State.outcome?, found] using settled

theorem Fits.lasting (fits : guise.Fits s) (lasting : s.Lasting t) : guise.Fits t := by
  intro n among
  obtain ⟨outcome, settled⟩ := Option.isSome_iff_exists.mp (fits n among)
  exact Option.isSome_iff_exists.mpr ⟨outcome, lasting.outcome? settled⟩

theorem Fits.dropContinuation (fits : guise.Fits s) (continuation : Option Continuation) :
    (s.guised guise pending).dropContinuation continuation
      = (s.dropContinuation continuation).guised guise pending := by
  rcases continuation with - | ⟨id, script⟩ | ⟨id, number, complete⟩
  · rfl
  · rfl
  · exact State.release_guised _ _ (fun among request found => fits.settled among request found) _

theorem Fits.clearContinuation (fits : guise.Fits s) (slot : SlotId) :
    (s.guised guise pending).clearContinuation slot
      = (s.clearContinuation slot).guised guise pending := by
  have fits' : guise.Fits (s.modifySlot slot fun slot => { slot with continuation := none }) := fits
  exact fits'.dropContinuation _

theorem Fits.setContinuation (fits : guise.Fits s) (slot : SlotId) (continuation : Continuation) :
    (s.guised guise pending).setContinuation slot continuation
      = (s.setContinuation slot continuation).guised guise pending := by
  have fits' : guise.Fits (s.modifySlot slot fun slot =>
      { slot with continuation := some continuation }) := fits
  exact fits'.dropContinuation _

end Guise

/-! ### Steps -/

/-- The slot of the device that the next step starts, if it starts one. -/
def Moment.startOn? (device : String) (m : Moment) : Option SlotId :=
  match m.thread.control with
  | .call (.start slot) => if slot.device = device ∧ m.state.grants slot then some slot else none
  | _ => none

/-- The slots of the device that were started, the first one first. -/
def launched (device : String) (path : List Moment) : List SlotId :=
  path.filterMap (Moment.startOn? device)

/-- The next step lets go of a request only as it settles it. -/
def Moment.isCareful (m : Moment) : Bool :=
  match m.thread with
  | ⟨.call (.discard _), _⟩ => false
  | ⟨.call _, _⟩ => true
  | ⟨.signal _, .script _ _ _ :: _⟩ => true
  | ⟨.signal (.returned _), .collecting _ _ :: _⟩ => true
  | ⟨.signal (.failed _), .collecting _ _ :: _⟩ => true
  | _ => false

/-- The next step is the same in the other guise: the device starts no slot, and it lets go of no
request that is not settled and whose unit of work is gone. -/
structure Guise.Suits (guise : Guise) (m : Moment) : Prop where
  starts : m.startOn? guise.device = none
  refusal : (m.state.conduct guise.device).refusal = guise.conduct.refusal
  lets : m.isCareful = true ∨ guise.Fits m.state

/-- The move in another guise. -/
def Move.guised (move : Move) (guise : Guise) (pending : List (String × Pending)) : Move :=
  ⟨move.state.guised guise pending, move.control, move.frames⟩

section Steps

variable {s : State} {guise : Guise} {pending : List (String × Pending)} {frames : List Frame}

theorem State.guised_refusal (refusal : (s.conduct guise.device).refusal = guise.conduct.refusal)
    (name : String) :
    ((s.guised guise pending).conduct name).refusal = (s.conduct name).refusal := by
  by_cases own : name = guise.device
  · subst own
    cases known : (s.device? guise.device).isSome with
    | true => rw [conduct_guised_self guise pending known, refusal]
    | false =>
        have none : s.device? guise.device = none := by simpa using known
        simp [conduct, device?_guised, none]
  · rw [conduct_guised_of_ne guise pending s own]

theorem State.guised_grants (refusal : (s.conduct guise.device).refusal = guise.conduct.refusal)
    (slot : SlotId) : (s.guised guise pending).grants slot = s.grants slot := by
  have same : (s.guised guise pending).slot slot = s.slot slot := rfl
  simp only [grants, guised_refusal refusal, same]

/-- A start goes on the same unless the device grants it. -/
theorem Call.guised_start {slot : SlotId}
    (suits : guise.Suits ⟨s, ⟨.call (.start slot), frames⟩⟩) :
    Call.step (s.guised guise pending) (.start slot)
      = (Call.step s (.start slot)).guised guise pending := by
  have conduct : ((s.guised guise pending).note (.started slot)).conduct slot.device
      = (s.guised guise pending).conduct slot.device := rfl
  have conduct' : (s.note (.started slot)).conduct slot.device = s.conduct slot.device := rfl
  have running : ((s.guised guise pending).note (.started slot)).slot slot = s.slot slot := rfl
  have running' : (s.note (.started slot)).slot slot = s.slot slot := rfl
  have refusal : ((s.guised guise pending).conduct slot.device).refusal
      = (s.conduct slot.device).refusal := State.guised_refusal suits.refusal slot.device
  simp only [step, State.start, conduct, conduct', running, running', refusal]
  split
  · rfl
  · next willing =>
      split
      · rfl
      · next idle =>
          have other : slot.device ≠ guise.device := by
            intro own
            have starts := suits.starts
            have grants : s.grants slot = true := by simp [State.grants, willing, idle]
            simp [Moment.startOn?, own, grants] at starts
          rw [State.conduct_guised_of_ne guise pending s other]
          simp only [State.launch]
          split <;> rfl

theorem Call.guised_perform (slot : SlotId) (work : Work) :
    Call.step (s.guised guise pending) (.perform slot work)
      = (Call.step s (.perform slot work)).guised guise pending := by
  cases work with
  | scripted id script => rfl
  | request id number job =>
      have reachable : ((s.guised guise pending).enter .prepare id slot).reachable slot.device
          = s.reachable slot.device := State.reachable_guised guise pending s slot.device
      have reachable' : (s.enter .prepare id slot).reachable slot.device
          = s.reachable slot.device := rfl
      simp only [step, State.perform, State.isCancelled_guised, reachable, reachable']
      split
      · rw [State.settle_release_guised]
        rfl
      · split
        · rfl
        · have fails := State.settle_release_guised guise pending (s.enter .prepare id slot) number
            (.error (.backend slot.device Backend.unreachable)) .unit
          exact congrArg (Move.signal · (.failed Backend.unreachable)) fails

theorem Call.guised_followUp (slot : SlotId) (status : Status) :
    Call.step (s.guised guise pending) (.followUp slot status)
      = (Call.step s (.followUp slot status)).guised guise pending := by
  have slot' : (s.guised guise pending).slot slot = s.slot slot := rfl
  rw [step, step]
  cases left : (s.slot slot).continuation with
  | none =>
      rw [State.followUp, State.followUp, slot', left]
      rfl
  | some continuation =>
      cases continuation with
      | scripted id script =>
          rw [State.followUp, State.followUp, slot', left]
          rfl
      | request id number complete =>
          rw [State.followUp_request left, State.followUp_request (slot' ▸ left)]
          split
          · rfl
          · exact congrArg Move.done
              (State.settle_release_guised guise pending (s.relieved slot) number _ _)

/-- A tame call goes on the same in another guise that suits it. -/
theorem Call.guised_step {call : Call} (tame : (Control.call call).isTame = true)
    (suits : guise.Suits ⟨s, ⟨.call call, frames⟩⟩) :
    call.step (s.guised guise pending) = (call.step s).guised guise pending := by
  cases call with
  | act scope action =>
      cases scope with
      | none => cases tame
      | some scope =>
          obtain ⟨error, rfl⟩ := Action.eq_fail tame
          rfl
  | script scope rest => cases rest <;> rfl
  | schedule =>
      have serving : (s.guised guise pending).serving = s.serving := rfl
      simp only [step, serving]
      split <;> rfl
  | walk devices handedBack =>
      cases devices with
      | nil =>
          have queue : (s.guised guise pending).queue = s.queue := rfl
          simp only [step, queue]
          split <;> rfl
      | cons device rest =>
          simp only [step, State.popIdle_guised]
          cases s.popIdle device <;> rfl
  | offer slot devices =>
      have queue : (s.guised guise pending).queue = s.queue := rfl
      simp only [step, queue]
      split <;> rfl
  | perform slot work => exact guised_perform slot work
  | start slot => exact guised_start suits
  | followUp slot status => exact guised_followUp slot status
  | discard slot =>
      have fits := suits.lets.resolve_left (by simp [Moment.isCareful])
      rw [step, step, fits.clearContinuation]
      rfl
  | complete slot status =>
      have attached : ((s.guised guise pending).modifySlot slot fun slot =>
            { slot with output := slot.input, running := false }).slot slot
          = (s.modifySlot slot fun slot =>
            { slot with output := slot.input, running := false }).slot slot := rfl
      simp only [step, State.complete, attached]
      split <;> rfl
  | pushIdle slot => exact congrArg Move.done (State.pushIdle_guised guise pending s slot)
  | bind | notify | markIdle => rfl

/-- So does a tame frame. -/
theorem Frame.guised_resume {frame : Frame} {signal : Signal} (tame : frame.isTame = true)
    (handed : (Control.signal signal).isTame = true)
    (suits : guise.Suits ⟨s, ⟨.signal signal, frame :: frames⟩⟩) :
    frame.resume (s.guised guise pending) signal
      = (frame.resume s signal).guised guise pending := by
  have settles (number : Nat) (outcome : Outcome) (holder : Holder) (signal : Signal) :
      Move.signal (((s.guised guise pending).settle number outcome).release number holder) signal
        = (Move.signal ((s.settle number outcome).release number holder)
          signal).guised guise pending :=
    congrArg (Move.signal · signal)
      (State.settle_release_guised guise pending s number outcome holder)
  have releases (fits : guise.Fits s) (number : Nat) (holder : Holder) (signal : Signal) :
      Move.signal ((s.guised guise pending).release number holder) signal
        = (Move.signal (s.release number holder) signal).guised guise pending :=
    congrArg (Move.signal · signal) (State.release_guised guise pending
      (fun among request found => fits.settled among request found) holder)
  cases frame with
  | answer | attempt | keep | firstLook | rethrow => cases tame
  | preparing slot id number complete =>
      cases signal with
      | panicked message => cases handed
      | failed error => exact settles number _ .unit _
      | returned answer =>
          have fits : guise.Fits s := suits.lets.resolve_left (by simp [Moment.isCareful])
          have held : guise.Fits (s.modifyRequest number (Request.hold .continuation)) :=
            fits.lasting (State.lasting_modifyRequest s number
              fun _ => ⟨fun _ same => same, fun flag => flag⟩)
          rw [resume, resume, State.modifyRequest_guised guise pending s number Request.shed_hold,
            held.setContinuation]
          rfl
      | declined =>
          exact releases (suits.lets.resolve_left (by simp [Moment.isCareful])) number .unit _
  | starting slot number =>
      cases signal with
      | panicked message => cases handed
      | failed error => exact settles number _ .unit _
      | returned answer | declined =>
          exact releases (suits.lets.resolve_left (by simp [Moment.isCareful])) number .unit _
  | collecting slot number =>
      cases signal with
      | panicked message => cases handed
      | returned answer | failed error => exact settles number _ .continuation _
      | declined =>
          exact releases (suits.lets.resolve_left (by simp [Moment.isCareful])) number
            .continuation _
  | completing slot =>
      have serving : (s.guised guise pending).serving = s.serving := rfl
      cases signal with
      | panicked message => cases handed
      | _ =>
          simp only [resume, serving]
          split <;> rfl
  | parting slot held =>
      have fits : guise.Fits s := suits.lets.resolve_left (by simp [Moment.isCareful])
      have detached : (s.guised guise pending).detach slot = (s.detach slot).guised guise pending :=
        congrArg (fun t : State => t.modifySlot slot fun slot => { slot with attached := false })
          (fits.clearContinuation slot)
      cases signal with
      | panicked message => cases handed
      | _ =>
          cases held with
          | false => rfl
          | true =>
              simp only [resume, if_true, detached]
              rfl
  | _ =>
      cases signal with
      | panicked message => cases handed
      | _ => rfl

end Steps

/-! ### Ways of a thread -/

section Ways

variable {guise : Guise} {pending : List (String × Pending)}
  {frames others upper upper' : List Frame}
  {first last m after other : Moment} {passed : List Moment} {s t : State}
  {control control' : Control}

/-- The second moment is the first in another guise and above other frames. -/
def Moment.Guised (guise : Guise) (pending : List (String × Pending)) (frames others : List Frame)
    (m other : Moment) : Prop :=
  ∃ s control upper, m = ⟨s, ⟨control, upper ++ frames⟩⟩
    ∧ other = ⟨s.guised guise pending, ⟨control, upper ++ others⟩⟩

/-- A step of a tame thread is one in another guise that suits it. -/
theorem Moment.Guised.step (guised : m.Guised guise pending frames others other)
    (above : m.Above frames) (step : m.Step after) (tame : m.Tame frames) (suits : guise.Suits m) :
    other.Above others ∧ other.startOn? guise.device = none
      ∧ ∃ next, other.Step next ∧ after.Guised guise pending frames others next := by
  obtain ⟨s, control, upper, rfl, rfl⟩ := guised
  have starts : Moment.startOn? guise.device ⟨s.guised guise pending, ⟨control, upper ++ others⟩⟩
      = none := by
    have starts := suits.starts
    simp only [startOn?, State.guised_grants suits.refusal] at starts ⊢
    exact starts
  have waits : ∀ frame ∈ upper, frame.isTame = true := by
    obtain ⟨upper', shape, waits⟩ := tame.upper
    obtain rfl : upper = upper' := List.append_cancel_right shape
    exact waits
  obtain ⟨upper', shape, calls⟩ := above
  obtain rfl : upper = upper' := List.append_cancel_right shape
  refine ⟨⟨upper, rfl, calls⟩, starts, ?_⟩
  rcases Moment.Above.cases ⟨upper, rfl, calls⟩ step with
    ⟨s', call, upper', same, rfl⟩ | ⟨s', signal, frame, upper', same, rfl⟩
  · obtain ⟨rfl, rfl, rfl⟩ : s = s' ∧ control = .call call ∧ upper = upper' := by simpa using same
    refine ⟨_, .call _ call _, ?_⟩
    rw [Call.guised_step tame.control suits]
    exact ⟨(call.step s).state, (call.step s).control, (call.step s).frames ++ upper,
      by simp [Move.onto], by simp [Move.onto, Move.guised]⟩
  · have frames' : upper ++ frames = frame :: upper' ++ frames := by
      simpa using congrArg (fun m : Moment => m.thread.frames) same
    obtain rfl : upper = frame :: upper' := List.append_cancel_right frames'
    obtain ⟨rfl, rfl⟩ : s = s' ∧ control = .signal signal := by simpa using same
    refine ⟨_, .resume _ signal frame _, ?_⟩
    rw [Frame.guised_resume (waits frame List.mem_cons_self) tame.control suits]
    exact ⟨(frame.resume s signal).state, (frame.resume s signal).control,
      (frame.resume s signal).frames ++ upper', by simp [Move.onto],
      by simp [Move.onto, Move.guised]⟩

/-- A tame thread goes on in another guise as it does in its own, as long as the guise suits it. -/
theorem Moment.Leads.guised
    (leads : Moment.Leads ⟨s, ⟨control, upper ++ frames⟩⟩ frames passed
      ⟨t, ⟨control', upper' ++ frames⟩⟩)
    (tame : Moment.Tame frames ⟨s, ⟨control, upper ++ frames⟩⟩)
    (suits : ∀ m ∈ passed, guise.Suits m)
    (pending : List (String × Pending)) (others : List Frame) :
    ∃ passed', Moment.Leads ⟨s.guised guise pending, ⟨control, upper ++ others⟩⟩ others passed'
        ⟨t.guised guise pending, ⟨control', upper' ++ others⟩⟩
      ∧ launched guise.device passed' = [] := by
  suffices ∀ {passed : List Moment} {last : Moment},
      Moment.Leads ⟨s, ⟨control, upper ++ frames⟩⟩ frames passed last →
      (∀ m ∈ passed, guise.Suits m) →
        ∃ passed' last', Moment.Leads ⟨s.guised guise pending, ⟨control, upper ++ others⟩⟩ others
            passed' last'
          ∧ last.Guised guise pending frames others last' ∧ launched guise.device passed' = [] by
    obtain ⟨passed', last', leads', ⟨u, control'', upper'', same, rfl⟩, none⟩ := this leads suits
    obtain ⟨rfl, rfl, shape⟩ : t = u ∧ control' = control''
      ∧ upper' ++ frames = upper'' ++ frames := by simpa using same
    obtain rfl : upper' = upper'' := List.append_cancel_right shape
    exact ⟨passed', leads', none⟩
  rintro passed last ⟨run, above⟩ suits
  induction run with
  | start => exact ⟨[], _, .refl _ _, ⟨s, control, upper, rfl, rfl⟩, rfl⟩
  | @next passed now after run step ih =>
      have before {m : Moment} (mem : m ∈ passed) : m ∈ passed ++ [now] :=
        List.mem_append_left _ mem
      obtain ⟨passed', last', leads', guised, none⟩ := ih (fun m mem => above m (before mem))
        fun m mem => suits m (before mem)
      have here := (tame.leads ⟨run, fun m mem => above m (before mem)⟩).2
      obtain ⟨above', starts, next, step', guised'⟩ :=
        guised.step (above now (by simp)) step here (suits now (by simp))
      refine ⟨_, next, leads'.trans ((Moment.Leads.refl _ _).cons above' step'), guised', ?_⟩
      simp only [launched] at none ⊢
      rw [List.filterMap_append, none, List.filterMap_cons_none starts]
      rfl

end Ways

end SlotDispatch
