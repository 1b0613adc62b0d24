import Mathlib.Data.List.Nodup
import SlotDispatch.Proofs.Acts
import SlotDispatch.Proofs.SlotInvariant

/-!
What the changes of a state do to one request: to its entry among the requests, and to the
continuation that it may have left on a slot. `State.SameFiles` is for changes that touch
no request at all.
-/

namespace SlotDispatch

/-- Whether a continuation is that of request `n`. -/
def Continuation.ofRequest (n : Nat) : Continuation → Bool
  | .request _ number _ => number == n
  | _ => false

/-- Whether a unit of work is that of request `n`. -/
def Work.ofRequest (n : Nat) : Work → Bool
  | .request _ number _ => number == n
  | _ => false

/-- Among members that have keys of their own, each is found by its key. -/
theorem find?_key_of_mem {α β : Type} [DecidableEq β] {key : α → β} {members : List α}
    (distinct : (members.map key).Nodup) {member : α} (mem : member ∈ members) :
    (members.find? fun other => key other == key member) = some member := by
  cases found : members.find? fun other => key other == key member with
  | none => simpa using List.find?_eq_none.mp found member mem
  | some other =>
      have same : key other = key member := by simpa using List.find?_some found
      rw [List.inj_on_of_nodup_map distinct (List.mem_of_find?_eq_some found) mem same]

namespace State

/-- The slots that the continuation of request `n` was left on. -/
def keptBy (s : State) (n : Nat) : List SlotId :=
  (s.slots.filter fun slot => slot.continuation.any (Continuation.ofRequest n)).map Slot.id

/-- What was left on every slot. -/
def leftovers (s : State) : List (SlotId × Option Continuation) :=
  s.slots.map fun slot => (slot.id, slot.continuation)

theorem keptBy_eq_leftovers (s : State) (n : Nat) :
    s.keptBy n
      = (s.leftovers.filter fun left => left.2.any (Continuation.ofRequest n)).map Prod.fst := by
  simp only [keptBy, leftovers, List.filter_map, List.map_map, Function.comp_def]

/-- Two states with the same requests and the same continuations. -/
structure SameFiles (s t : State) : Prop where
  sameRequests : t.requests = s.requests
  sameLeftovers : t.leftovers = s.leftovers

namespace SameFiles

variable {s t u : State}

theorem trans (first : SameFiles s t) (second : SameFiles t u) : SameFiles s u :=
  ⟨second.sameRequests.trans first.sameRequests, second.sameLeftovers.trans first.sameLeftovers⟩

theorem keptBy (same : SameFiles s t) (n : Nat) : t.keptBy n = s.keptBy n := by
  rw [keptBy_eq_leftovers, keptBy_eq_leftovers, same.sameLeftovers]

end SameFiles

/-- A change of one slot that leaves its continuation. -/
theorem sameFiles_modifySlot (s : State) (id : SlotId) {change : Slot → Slot}
    (keeps : ∀ slot, ((change slot).id, (change slot).continuation)
      = (slot.id, slot.continuation)) :
    SameFiles s (s.modifySlot id change) :=
  ⟨rfl, s.map_slots_modifySlot id keeps⟩

/-! ### Continuations that come and go -/

/-- The slot that is found under the identity of one is that slot. -/
theorem slot_eq_of_mem {s : State} (distinct : (s.slots.map Slot.id).Nodup) {slot : Slot}
    (mem : slot ∈ s.slots) : s.slot slot.id = slot := by
  simp only [State.slot, find?_key_of_mem distinct mem, Option.getD_some]

/-- The continuation of a request is left on a slot if it is found there. -/
theorem mem_keptBy {s : State} (distinct : (s.slots.map Slot.id).Nodup) {n : Nat} {id : SlotId} :
    id ∈ s.keptBy n ↔ (s.slot id).continuation.any (Continuation.ofRequest n) = true := by
  constructor
  · intro mem
    obtain ⟨slot, there, rfl⟩ := List.mem_map.mp mem
    obtain ⟨there, left⟩ := List.mem_filter.mp there
    rw [slot_eq_of_mem distinct there]
    exact left
  · intro left
    simp only [State.slot] at left
    cases found : s.slots.find? fun candidate => candidate.id == id with
    | none => simp [found, Slot.fresh] at left
    | some slot =>
        have same : slot.id = id := by simpa using List.find?_some found
        rw [found] at left
        rw [← same]
        exact List.mem_map_of_mem (List.mem_filter.mpr ⟨List.mem_of_find?_eq_some found, left⟩)

/-- A continuation that is replaced by one of another request, or by none, is left no more. -/
theorem keptBy_modifySlot (s : State) (id : SlotId) {change : Slot → Slot} {n : Nat}
    (other : ∀ slot, (change slot).continuation.any (Continuation.ofRequest n) = false) :
    (s.modifySlot id change).keptBy n = (s.keptBy n).filter (· ≠ id) := by
  simp only [keptBy, modifySlot]
  induction s.slots with
  | nil => rfl
  | cons slot rest ih =>
      by_cases same : slot.id = id
      · cases left : slot.continuation.any (Continuation.ofRequest n)
        · simpa [same, other, left] using ih
        · simpa [same, other, left] using ih
      · cases left : slot.continuation.any (Continuation.ofRequest n)
        · simpa [same, left] using ih
        · simpa [same, left] using ih

/-- A continuation that is left on a slot is left there only, if it was left nowhere before. -/
theorem keptBy_modifySlot_self {s : State} {id : SlotId} {change : Slot → Slot} {n : Nat}
    (distinct : (s.slots.map Slot.id).Nodup) (present : s.hasSlot id = true)
    (keeps : ∀ slot, (change slot).id = slot.id)
    (own : ∀ slot, (change slot).continuation.any (Continuation.ofRequest n) = true)
    (none : s.keptBy n = []) : (s.modifySlot id change).keptBy n = [id] := by
  have distinct' : ((s.modifySlot id change).slots.map Slot.id).Nodup := by
    rw [slotIds_modifySlot s id keeps]
    exact distinct
  refine List.perm_singleton.mp ((List.perm_ext_iff_of_nodup ?_ (List.nodup_singleton id)).mpr
    fun other => ?_)
  · exact (List.filter_sublist.map Slot.id).nodup distinct'
  · rw [mem_keptBy distinct', List.mem_singleton, slot_modifySlot present keeps]
    by_cases same : other = id
    · simp [same, own]
    · rw [if_neg same, ← mem_keptBy distinct, none]
      simp [same]

/-! ### Requests -/

theorem requests_modifyRequest (s : State) (number : Nat) (change : Request → Request) (n : Nat) :
    (s.modifyRequest number change).requests[n]?
      = if number = n then s.requests[n]?.map change else s.requests[n]? := by
  simp only [modifyRequest, List.getElem?_modify]
  split <;> simp

/-- A continuation that is destroyed lets go of its own request. -/
theorem requests_dropContinuation (s : State) (continuation : Option Continuation) (n : Nat) :
    (s.dropContinuation continuation).requests[n]?
      = if continuation.any (Continuation.ofRequest n) then
          s.requests[n]?.map (Request.release .continuation)
        else s.requests[n]? := by
  rcases continuation with - | ⟨id, script⟩ | ⟨id, number, complete⟩
  · rfl
  · rfl
  · simp only [dropContinuation, release]
    rw [requests_modifyRequest]
    simp [Continuation.ofRequest]

theorem leftovers_dropContinuation (s : State) (continuation : Option Continuation) :
    (s.dropContinuation continuation).leftovers = s.leftovers := by
  obtain ⟨requests, eq⟩ := s.dropContinuation_eq continuation
  rw [eq]
  rfl

/-- A unit of work that is destroyed lets go of its own request. -/
theorem requests_dropWork (s : State) (work : Work) (n : Nat) :
    (s.dropWork work).requests[n]?
      = if work.ofRequest n then s.requests[n]?.map (Request.release .unit)
        else s.requests[n]? := by
  cases work with
  | scripted id script => rfl
  | request id number job =>
      simp only [dropWork, release]
      rw [requests_modifyRequest]
      simp [Work.ofRequest]

end State

end SlotDispatch
