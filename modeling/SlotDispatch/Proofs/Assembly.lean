import Mathlib.Data.String.Basic
import SlotDispatch.Proofs.Built

/-!
How a dispatcher is built. The lists are looked at first, and the first thing that is wrong with
them is reported (`Unbuildable`) without a call of any device. Then the devices are configured by
ascending name, each by one query and one call for every slot (`Backend.Configures`). The first
that fails ends the construction (`Backend.Fails`), with no call of any later device and no slot
told whom to notify. `Assembles` puts this together, and `construction_stops_at_the_first_fault`
says that it is what `construct` does.
-/

namespace SlotDispatch

/-! ### What can be wrong with the lists -/

/-- The first name of a list that is equal to an earlier one. -/
def FirstRepeat (names : List String) (name : String) : Prop :=
  ∃ earlier later, names = earlier ++ name :: later ∧ earlier.Nodup ∧ name ∈ earlier

/-- The first entry of a list that names none of the known devices. -/
def FirstUnknown (known : List String) (entries : List Preference) (entry : Preference) : Prop :=
  ∃ earlier later, entries = earlier ++ entry :: later
    ∧ (∀ other ∈ earlier, other.name ∈ known) ∧ entry.name ∉ known

/-- Lists over which a dispatcher can be built, as far as can be told without a call. -/
structure Buildable (backends : List Backend) (priorities : List Preference) : Prop where
  nonempty : backends ≠ []
  distinct : (backends.map Backend.name).Nodup
  listedOnce : (priorities.map Preference.name).Nodup
  known : ∀ entry ∈ priorities, entry.name ∈ backends.map Backend.name

/-- Lists over which no dispatcher can be built, and the error that says why. Each reason is
given only if none of those before it applies. -/
inductive Unbuildable (backends : List Backend) (priorities : List Preference) :
    DispatchError → Prop where
  | noDevice : backends = [] →
      Unbuildable backends priorities
        (.invalidPriorities (prioritiesText priorities) "no devices listed")
  | repeatedDevice {name : String} : FirstRepeat (backends.map Backend.name) name →
      Unbuildable backends priorities (.duplicateDevice name)
  | repeatedEntry {name : String} : backends ≠ [] → (backends.map Backend.name).Nodup →
      FirstRepeat (priorities.map Preference.name) name →
      Unbuildable backends priorities (.duplicateDevice name)
  | unknownEntry {entry : Preference} : backends ≠ [] → (backends.map Backend.name).Nodup →
      (priorities.map Preference.name).Nodup →
      FirstUnknown (backends.map Backend.name) priorities entry →
      Unbuildable backends priorities (.unknownDevice entry.name)

theorem firstRepeat_of_go {seen names : List String} {name : String}
    (found : firstRepeated.go seen names = some name) :
    ∃ earlier later, names = earlier ++ name :: later ∧ earlier.Nodup
      ∧ (∀ other ∈ earlier, other ∉ seen) ∧ (name ∈ earlier ∨ name ∈ seen) := by
  induction names generalizing seen with
  | nil => cases found
  | cons first rest ih =>
      simp only [firstRepeated.go] at found
      split at found
      · next old =>
          obtain rfl := Option.some.inj found
          exact ⟨[], rest, rfl, List.nodup_nil, List.forall_mem_nil _, .inr old⟩
      · next fresh =>
          obtain ⟨earlier, later, rfl, distinct, unseen, again⟩ := ih found
          have apart : first ∉ earlier := fun mem => unseen first mem List.mem_cons_self
          refine ⟨first :: earlier, later, rfl, List.nodup_cons.mpr ⟨apart, distinct⟩, ?_, ?_⟩
          · intro other mem
            rcases List.mem_cons.mp mem with rfl | mem
            · exact fresh
            · exact fun old => unseen other mem (List.mem_cons_of_mem _ old)
          · rcases again with earlier | seen
            · exact .inl (List.mem_cons_of_mem _ earlier)
            · rcases List.mem_cons.mp seen with rfl | seen
              · exact .inl List.mem_cons_self
              · exact .inr seen

/-- A list names no device twice, or there is a first repetition, which is reported. -/
theorem checkDistinct_first (names : List String) :
    names.Nodup ∧ checkDistinct names = .ok ()
      ∨ ∃ name, FirstRepeat names name ∧ checkDistinct names = .error (.duplicateDevice name) := by
  cases found : firstRepeated names with
  | none =>
      have passed : checkDistinct names = .ok () := by simp only [checkDistinct, found]
      exact .inl ⟨nodup_of_checkDistinct passed, passed⟩
  | some name =>
      obtain ⟨earlier, later, split, distinct, -, again⟩ := firstRepeat_of_go found
      refine .inr ⟨name, ⟨earlier, later, split, distinct, ?_⟩, by simp only [checkDistinct, found]⟩
      exact again.resolve_right List.not_mem_nil

/-- A list names known devices only, or there is a first that is not, which is reported. -/
theorem checkKnown_first (known : List String) (entries : List Preference) :
    (∀ entry ∈ entries, entry.name ∈ known) ∧ checkKnown known entries = .ok ()
      ∨ ∃ entry, FirstUnknown known entries entry
        ∧ checkKnown known entries = .error (.unknownDevice entry.name) := by
  unfold checkKnown
  split
  · next entry found =>
      obtain ⟨missing, earlier, later, split, before⟩ := List.find?_eq_some_iff_append.mp found
      refine .inr ⟨entry, ⟨earlier, later, split, fun other mem => ?_, by simpa using missing⟩, rfl⟩
      simpa using before other mem
  · next none =>
      refine .inl ⟨fun entry mem => ?_, rfl⟩
      simpa using List.find?_eq_none.mp none entry mem

/-- Lists pass if a dispatcher can be built over them; otherwise the first fault is reported. -/
theorem checkLists_cases (backends : List Backend) (priorities : List Preference) :
    Buildable backends priorities ∧ checkLists backends priorities = .ok ()
      ∨ ∃ error, Unbuildable backends priorities error
        ∧ checkLists backends priorities = .error error := by
  cases backends with
  | nil => exact .inr ⟨_, .noDevice rfl, rfl⟩
  | cons first rest =>
      have nonempty : first :: rest ≠ [] := List.cons_ne_nil _ _
      generalize first :: rest = backends at nonempty
      have some : backends.isEmpty = false := by simpa using nonempty
      simp only [checkLists, some, Bool.false_eq_true, if_false]
      rcases checkDistinct_first (backends.map Backend.name) with
        ⟨distinct, passed⟩ | ⟨name, first, failed⟩
      · rcases checkDistinct_first (priorities.map Preference.name) with
          ⟨once, passed'⟩ | ⟨name, first, failed⟩
        · simp only [passed, passed']
          rcases checkKnown_first (backends.map Backend.name) priorities with
            ⟨known, passed⟩ | ⟨entry, first, failed⟩
          · exact .inl ⟨⟨nonempty, distinct, once, known⟩, passed⟩
          · exact .inr ⟨_, .unknownEntry nonempty distinct once first, failed⟩
        · simp only [passed, failed]
          exact .inr ⟨_, .repeatedEntry nonempty distinct first, rfl⟩
      · simp only [failed]
        exact .inr ⟨_, .repeatedDevice first, rfl⟩

/-! ### Devices by name -/

/-- The devices by strictly ascending name, which orders texts by the code points of their
characters. -/
structure Ascending (backends devices : List Backend) : Prop where
  perm : devices.Perm backends
  ascending : devices.Pairwise fun earlier later => earlier.name < later.name

theorem pairwise_insertByName (backend : Backend) {backends : List Backend}
    (ordered : backends.Pairwise fun earlier later => ¬ later.name < earlier.name) :
    (insertByName backend backends).Pairwise fun earlier later => ¬ later.name < earlier.name := by
  induction backends with
  | nil => exact List.pairwise_singleton _ _
  | cons first rest ih =>
      obtain ⟨least, ordered⟩ := List.pairwise_cons.mp ordered
      simp only [insertByName]
      split
      · next before =>
          refine List.pairwise_cons.mpr ⟨?_, List.pairwise_cons.mpr ⟨least, ordered⟩⟩
          intro other mem
          rcases List.mem_cons.mp mem with rfl | mem
          · exact lt_asymm before
          · exact fun less => least other mem (less.trans before)
      · next notBefore =>
          refine List.pairwise_cons.mpr ⟨?_, ih ordered⟩
          intro other mem
          rcases List.mem_cons.mp ((insertByName_perm backend rest).mem_iff.mp mem) with rfl | mem
          · exact notBefore
          · exact least other mem

/-- Devices of different names are taken by strictly ascending name. -/
theorem ascending_byName {backends : List Backend}
    (distinct : (backends.map Backend.name).Nodup) : Ascending backends (byName backends) := by
  have perm := byName_perm backends
  have ordered : (byName backends).Pairwise fun earlier later => ¬ later.name < earlier.name := by
    unfold byName
    induction backends with
    | nil => exact .nil
    | cons backend rest ih =>
        exact pairwise_insertByName backend (ih (List.nodup_cons.mp distinct).2 (byName_perm rest))
  have apart : (byName backends).Pairwise fun earlier later => earlier.name ≠ later.name :=
    List.pairwise_map.mp ((perm.map Backend.name).nodup_iff.mpr distinct)
  refine ⟨perm, (ordered.and apart).imp fun both => ?_⟩
  exact lt_of_le_of_ne (not_lt.mp both.1) both.2

/-! ### One device -/

namespace Backend

/-- The number of slots that a device is asked for: the count of its priority entry, if it has
one with a count, and else its optimum. -/
inductive Wants (backend : Backend) (priorities : List Preference) (optimal : Nat) :
    Nat → Prop where
  | counted {entry : Preference} {count : UInt64} : entry ∈ priorities →
      entry.name = backend.name → entry.count = some count →
      Wants backend priorities optimal count.toNat
  | optimal : (∀ entry ∈ priorities, entry.name = backend.name → entry.count = none) →
      Wants backend priorities optimal optimal

/-- A device tells its optimum, and creates as many slots as it is asked for. -/
structure Configures (backend : Backend) (priorities : List Preference) (count : Nat) : Prop where
  wanted : ∃ optimal, backend.optimal = .ok optimal ∧ backend.Wants priorities optimal count
  creates : ∀ made < count, backend.canCreate made = true

/-- The calls with which a device is configured: one query, and one call for each slot. -/
def calls (backend : Backend) (count : Nat) : List Event :=
  .queried backend.name :: .replicate count (.created backend.name)

/-- A device fails to be configured, after so many calls for a slot, and with this error: it
cannot tell its optimum, or it creates some of the slots that it is asked for and fails at the
next. -/
inductive Fails (backend : Backend) (priorities : List Preference) :
    Nat → DispatchError → Prop where
  | metric {error : BackendError} : backend.optimal = .error error →
      Fails backend priorities 0 (.backendMetric backend.name error)
  | creation {optimal count made : Nat} : backend.optimal = .ok optimal →
      backend.Wants priorities optimal count → made < count →
      (∀ earlier < made, backend.canCreate earlier = true) → backend.canCreate made = false →
      Fails backend priorities (made + 1) (.slotCreation backend.name outOfMemory)

variable (backend : Backend) {priorities : List Preference}

/-- Slots are created until there are as many as wanted, or one cannot be created. -/
theorem createSlots_cases (wanted made : Nat) :
    (∀ k < wanted, backend.canCreate (made + k) = true)
        ∧ backend.createSlots wanted made
          = ⟨.replicate wanted (.created backend.name), .ok ()⟩
      ∨ ∃ more < wanted, (∀ k < more, backend.canCreate (made + k) = true)
        ∧ backend.canCreate (made + more) = false
        ∧ backend.createSlots wanted made
          = ⟨.replicate (more + 1) (.created backend.name),
            .error (.slotCreation backend.name outOfMemory)⟩ := by
  induction wanted generalizing made with
  | zero => exact .inl ⟨nofun, rfl⟩
  | succ wanted ih =>
      simp only [createSlots]
      cases can : backend.canCreate made with
      | false => exact .inr ⟨0, Nat.succ_pos _, nofun, can, rfl⟩
      | true =>
          -- What is asked for from here on is counted from the slot that was just created.
          have onward {more : Nat} (later : ∀ k < more, backend.canCreate (made + 1 + k) = true) :
              ∀ k < more + 1, backend.canCreate (made + k) = true := by
            intro k less
            cases k with
            | zero => exact can
            | succ k =>
                rw [Nat.add_succ, ← Nat.succ_add]
                exact later k (Nat.lt_of_succ_lt_succ less)
          rcases ih (made + 1) with ⟨all, eq⟩ | ⟨more, less, some, cannot, eq⟩
          · refine .inl ⟨onward all, ?_⟩
            rw [if_pos rfl, eq]
            rfl
          · refine .inr ⟨more + 1, Nat.succ_lt_succ less, onward some, ?_, ?_⟩
            · rw [Nat.add_succ, ← Nat.succ_add]
              exact cannot
            · rw [if_pos rfl, eq]
              rfl

/-- The number of slots that is worked out is the one that the device is asked for. -/
theorem wants_wantedSlots (once : (priorities.map Preference.name).Nodup) (optimal : Nat) :
    backend.Wants priorities optimal (backend.wantedSlots priorities optimal) := by
  unfold wantedSlots
  cases found : priorities.find? fun entry => entry.name == backend.name with
  | none =>
      refine .optimal fun entry mem same => ?_
      have differs := List.find?_eq_none.mp found entry mem
      simp [same] at differs
  | some entry =>
      have mem := List.mem_of_find?_eq_some found
      have same : entry.name = backend.name := by simpa using List.find?_some found
      cases counted : entry.count with
      | some count =>
          simp only [Option.bind_some, counted]
          exact .counted mem same counted
      | none =>
          simp only [Option.bind_some, counted]
          refine .optimal fun other there same' => ?_
          have one : other = entry :=
            List.inj_on_of_nodup_map once there mem (same'.trans same.symm)
          rw [one, counted]

/-- A device is configured, or fails to be. -/
theorem configure_cases (once : (priorities.map Preference.name).Nodup) :
    (∃ count, backend.Configures priorities count
        ∧ backend.configure priorities = ⟨backend.calls count, .ok count⟩)
      ∨ ∃ created error, backend.Fails priorities created error
        ∧ backend.configure priorities = ⟨backend.calls created, .error error⟩ := by
  simp only [configure]
  cases told : backend.optimal with
  | error error => exact .inr ⟨0, _, .metric told, rfl⟩
  | ok optimal =>
      have wants := backend.wants_wantedSlots once optimal
      obtain ⟨count, worked⟩ : ∃ count, backend.wantedSlots priorities optimal = count := ⟨_, rfl⟩
      rw [worked] at wants
      rcases backend.createSlots_cases count 0 with ⟨all, eq⟩ | ⟨made, less, some, cannot, eq⟩
      · refine .inl ⟨count, ⟨⟨optimal, told, wants⟩, ?_⟩, ?_⟩
        · simpa using all
        · simp [Trial.andThen, worked, eq, Trial.ofExcept, calls]
      · refine .inr ⟨made + 1, _, .creation told wants less ?_ ?_, ?_⟩
        · simpa using some
        · simpa using cannot
        · simp [Trial.andThen, worked, eq, calls]

end Backend

/-! ### All devices -/

/-- The calls with which devices are configured one after another. -/
def callsOf (configured : List (Backend × Nat)) : List Event :=
  configured.flatMap fun entry => entry.1.calls entry.2

/-- Devices are configured one after another, up to the first that fails. -/
theorem configureAll_cases {priorities : List Preference}
    (once : (priorities.map Preference.name).Nodup) (devices : List Backend) :
    (∃ configured, configured.map Prod.fst = devices
        ∧ (∀ entry ∈ configured, entry.1.Configures priorities entry.2)
        ∧ configureAll priorities devices = ⟨callsOf configured, .ok configured⟩)
      ∨ ∃ configured backend later created error,
        devices = configured.map Prod.fst ++ backend :: later
        ∧ (∀ entry ∈ configured, entry.1.Configures priorities entry.2)
        ∧ backend.Fails priorities created error
        ∧ configureAll priorities devices
          = ⟨callsOf configured ++ backend.calls created, .error error⟩ := by
  induction devices with
  | nil => exact .inl ⟨[], rfl, List.forall_mem_nil _, rfl⟩
  | cons backend rest ih =>
      simp only [configureAll]
      rcases backend.configure_cases once with ⟨count, configures, eq⟩ | ⟨created, error, fails, eq⟩
      · rcases ih with ⟨configured, rfl, all, eq'⟩
          | ⟨configured, failing, later, created, error, rfl, all, fails, eq'⟩
        · refine .inl ⟨(backend, count) :: configured, rfl,
            List.forall_mem_cons.mpr ⟨configures, all⟩, ?_⟩
          simp [Trial.andThen, eq, eq', Trial.ofExcept, callsOf]
        · refine .inr ⟨(backend, count) :: configured, failing, later, created, error, rfl,
            List.forall_mem_cons.mpr ⟨configures, all⟩, fails, ?_⟩
          simp [Trial.andThen, eq, eq', callsOf]
      · refine .inr ⟨[], backend, rest, created, error, rfl, List.forall_mem_nil _, fails, ?_⟩
        simp [Trial.andThen, eq, callsOf]

/-! ### The whole -/

/-- A dispatcher that was just built over devices with these numbers of slots: it serves with the
given list, nothing waits, and every slot of a device is there, has never been used, and is idle
once. -/
structure State.New (s : State) (configured : List (Backend × Nat))
    (priorities : List Preference) : Prop where
  serving : s.serving = true
  listed : s.priorities = priorities
  text : s.configText = prioritiesText priorities
  nothing : s.queue = [] ∧ s.requests = [] ∧ s.due = []
  devices : s.devices.map Device.backend = configured.map Prod.fst
  slots : ∀ id, s.hasSlot id = true ↔
    ∃ entry ∈ configured, id.device = entry.1.name ∧ id.index < entry.2
  once : (s.slots.map Slot.id).Nodup
  unused : ∀ slot ∈ s.slots, slot = .fresh slot.id
  idle : ∀ entry ∈ configured, (s.idle entry.1.name).Perm (List.range entry.2)

/-- The slots of devices, each told once whom to notify. -/
def adoptionsOf (configured : List (Backend × Nat)) : List Event :=
  configured.flatMap fun entry =>
    (List.range entry.2).map fun index => .adopted ⟨entry.1.name, index⟩

/-- What becomes of a construction. -/
inductive Assembles (backends : List Backend) (priorities : List Preference) :
    Trial State → Prop where
  /-- The lists are wrong, and no device is called. -/
  | refused {error : DispatchError} : Unbuildable backends priorities error →
      Assembles backends priorities ⟨[], .error error⟩
  /-- A device fails after those before it were configured; no later one is called, and no slot
  is told anything. -/
  | stopped {configured : List (Backend × Nat)} {backend : Backend} {later : List Backend}
      {created : Nat} {error : DispatchError} : Buildable backends priorities →
      Ascending backends (configured.map Prod.fst ++ backend :: later) →
      (∀ entry ∈ configured, entry.1.Configures priorities entry.2) →
      backend.Fails priorities created error →
      Assembles backends priorities
        ⟨callsOf configured ++ backend.calls created, .error error⟩
  /-- Every device is configured, and then every slot is told whom to notify. -/
  | completed {configured : List (Backend × Nat)} {s : State} : Buildable backends priorities →
      Ascending backends (configured.map Prod.fst) →
      (∀ entry ∈ configured, entry.1.Configures priorities entry.2) →
      s.New configured priorities →
      Assembles backends priorities ⟨callsOf configured ++ adoptionsOf configured, .ok s⟩

section Whole

variable {configured : List (Backend × Nat)} {priorities : List Preference}

theorem State.new_ofConfigured (distinct : (configured.map fun entry => entry.1.name).Nodup) :
    (State.ofConfigured configured priorities).New configured priorities := by
  refine ⟨rfl, rfl, rfl, ⟨rfl, rfl, rfl⟩, ?_, ?_, nodup_slots_ofConfigured distinct, ?_, ?_⟩
  · simp only [ofConfigured, List.map_map]
    rfl
  · intro id
    simp only [hasSlot, List.any_eq_true, beq_iff_eq]
    constructor
    · rintro ⟨slot, mem, rfl⟩
      obtain ⟨backend, count, entry, index, less, rfl⟩ := mem_slots_ofConfigured.mp mem
      exact ⟨_, entry, rfl, less⟩
    · rintro ⟨⟨backend, count⟩, entry, device, less⟩
      refine ⟨.fresh id,
        mem_slots_ofConfigured.mpr ⟨backend, count, entry, id.index, less, ?_⟩, rfl⟩
      obtain ⟨_, index⟩ := id
      obtain rfl := device
      rfl
  · intro slot mem
    obtain ⟨backend, count, entry, index, less, rfl⟩ := mem_slots_ofConfigured.mp mem
    rfl
  · rintro ⟨backend, count⟩ entry
    rw [idle_ofConfigured distinct entry]
    exact List.reverse_perm _

theorem State.adoptions_ofConfigured :
    (State.ofConfigured configured priorities).adoptions = adoptionsOf configured := by
  simp only [adoptions, ofConfigured, Backend.slotsOf, List.map_flatMap, List.map_map]
  rfl

end Whole

/-- A construction stops at the first fault. If the lists are wrong, the first thing that is wrong
with them is reported and no device is called. Otherwise the devices are configured by ascending
name, with one query each and one call for every slot, until one fails. If none does, every slot
is there, idle once, and has been told whom to notify. -/
theorem construction_stops_at_the_first_fault (backends : List Backend)
    (priorities : List Preference) :
    Assembles backends priorities (construct backends priorities) := by
  rcases checkLists_cases backends priorities with ⟨buildable, passed⟩ | ⟨error, wrong, failed⟩
  · have ascending := ascending_byName buildable.distinct
    rcases configureAll_cases buildable.listedOnce (byName backends) with
      ⟨configured, all, configures, eq⟩ | ⟨configured, backend, later, created, error, all,
        configures, fails, eq⟩
    · rw [← all] at ascending
      have names : (configured.map fun entry => entry.1.name).Nodup := by
        have perm := ascending.perm.map Backend.name
        rw [List.map_map] at perm
        exact perm.nodup_iff.mpr buildable.distinct
      have made : (State.ofConfigured configured priorities).New configured priorities :=
        State.new_ofConfigured names
      have whole := Assembles.completed buildable ascending configures made
      simpa [construct, passed, eq, Trial.andThen, Trial.ofExcept, State.adoptions_ofConfigured]
        using whole
    · rw [all] at ascending
      have whole := Assembles.stopped buildable ascending configures fails
      simpa [construct, passed, eq, Trial.andThen, Trial.ofExcept] using whole
  · have whole := Assembles.refused wrong
    simpa [construct, failed, Trial.andThen, Trial.ofExcept] using whole

end SlotDispatch
