import Mathlib.Data.List.Nodup
import SlotDispatch.Construction

/-!
A dispatcher that was just built: its devices have different names, it serves, nothing
waits, and every slot of a device is idle once, neither running nor bound.
-/

namespace SlotDispatch

/-! ### Names that differ -/

theorem firstRepeated_go_eq_none {seen names : List String}
    (none : firstRepeated.go seen names = none) :
    names.Nodup ∧ ∀ name ∈ names, name ∉ seen := by
  induction names generalizing seen with
  | nil => simp
  | cons name rest ih =>
      simp only [firstRepeated.go] at none
      split at none
      · simp at none
      · next fresh =>
          obtain ⟨distinct, unseen⟩ := ih none
          refine ⟨List.nodup_cons.mpr ⟨fun mem => unseen name mem List.mem_cons_self, distinct⟩,
            ?_⟩
          intro other mem
          rcases List.mem_cons.mp mem with rfl | mem
          · exact fresh
          · exact fun old => unseen other mem (List.mem_cons_of_mem _ old)

theorem nodup_of_checkDistinct {names : List String} (passed : checkDistinct names = .ok ()) :
    names.Nodup := by
  simp only [checkDistinct] at passed
  split at passed
  · simp at passed
  · next none => exact (firstRepeated_go_eq_none none).1

/-! ### The devices that were configured -/

theorem Trial.andThen_ok {α β : Type} {trial : Trial α} {next : α → Trial β} {value : β}
    (succeeded : (trial.andThen next).result = .ok value) :
    ∃ middle, trial.result = .ok middle ∧ (next middle).result = .ok value := by
  obtain ⟨events, result⟩ := trial
  cases result with
  | error error => simp [andThen] at succeeded
  | ok middle => exact ⟨middle, rfl, succeeded⟩

theorem configureAll_backends {priorities : List Preference} {backends : List Backend}
    {configured : List (Backend × Nat)}
    (succeeded : (configureAll priorities backends).result = .ok configured) :
    configured.map Prod.fst = backends := by
  induction backends generalizing configured with
  | nil =>
      simp only [configureAll, Trial.ofExcept, Except.ok.injEq] at succeeded
      simp [← succeeded]
  | cons backend rest ih =>
      obtain ⟨count, -, succeeded⟩ := Trial.andThen_ok succeeded
      obtain ⟨others, found, succeeded⟩ := Trial.andThen_ok succeeded
      simp only [Trial.ofExcept, Except.ok.injEq] at succeeded
      simp [← succeeded, ih found]

theorem insertByName_perm (backend : Backend) (backends : List Backend) :
    (insertByName backend backends).Perm (backend :: backends) := by
  induction backends with
  | nil => exact .refl _
  | cons first rest ih =>
      simp only [insertByName]
      split
      · exact .refl _
      · exact (ih.cons first).trans (.swap ..)

theorem byName_perm (backends : List Backend) : (byName backends).Perm backends := by
  induction backends with
  | nil => exact .refl _
  | cons backend rest ih => exact (insertByName_perm _ _).trans (ih.cons backend)

/-- Lists that pass name no device twice, and prefer only devices that are there. -/
theorem checkLists_ok {backends : List Backend} {priorities : List Preference}
    (passed : checkLists backends priorities = .ok ()) :
    (backends.map Backend.name).Nodup ∧ (priorities.map Preference.name).Nodup
      ∧ ∀ entry ∈ priorities, entry.name ∈ backends.map Backend.name := by
  simp only [checkLists] at passed
  split at passed
  · cases passed
  · split at passed
    · cases passed
    · cases passed
    · next distinct once =>
        refine ⟨nodup_of_checkDistinct distinct, nodup_of_checkDistinct once, ?_⟩
        simp only [checkKnown] at passed
        split at passed
        · cases passed
        · next none =>
            intro entry mem
            simpa using List.find?_eq_none.mp none entry mem

/-- Devices with their numbers of slots, as a dispatcher is built over them. -/
structure Configured (backends : List Backend) (priorities : List Preference)
    (configured : List (Backend × Nat)) : Prop where
  distinct : (configured.map fun entry => entry.1.name).Nodup
  given : ∀ entry ∈ configured, entry.1 ∈ backends
  listedOnce : (priorities.map Preference.name).Nodup
  listed : ∀ entry ∈ priorities, entry.name ∈ configured.map fun entry => entry.1.name

/-- A dispatcher is built over the given devices. -/
theorem construct_configured {backends : List Backend} {priorities : List Preference} {s : State}
    (built : (construct backends priorities).result = .ok s) :
    ∃ configured, Configured backends priorities configured
      ∧ s = .ofConfigured configured priorities := by
  obtain ⟨_, checked, built⟩ := Trial.andThen_ok built
  obtain ⟨configured, found, built⟩ := Trial.andThen_ok built
  obtain ⟨distinct, listedOnce, listed⟩ := checkLists_ok checked
  have perm : (configured.map Prod.fst).Perm backends := by
    rw [configureAll_backends found]
    exact byName_perm backends
  have names : (configured.map fun entry => entry.1.name).Perm (backends.map Backend.name) := by
    have perm := perm.map Backend.name
    rw [List.map_map] at perm
    exact perm
  refine ⟨configured, ⟨names.nodup_iff.mpr distinct, ?_, listedOnce, ?_⟩,
    by simpa using built.symm⟩
  · intro entry mem
    exact perm.mem_iff.mp (List.mem_map_of_mem mem)
  · intro entry mem
    exact names.mem_iff.mpr (listed entry mem)

/-- Its devices have different names. -/
theorem construct_ok {backends : List Backend} {priorities : List Preference} {s : State}
    (built : (construct backends priorities).result = .ok s) :
    ∃ configured, (configured.map fun entry => entry.1.name).Nodup
      ∧ s = .ofConfigured configured priorities := by
  obtain ⟨configured, lists, rfl⟩ := construct_configured built
  exact ⟨configured, lists.distinct, rfl⟩

/-! ### Its devices and slots -/

namespace State

variable {configured : List (Backend × Nat)} {priorities : List Preference}

/-- A device that was configured is found by its name. -/
theorem device?_ofConfigured (distinct : (configured.map fun entry => entry.1.name).Nodup)
    {backend : Backend} {count : Nat} (mem : (backend, count) ∈ configured) :
    (ofConfigured configured priorities).device? backend.name
      = some (backend.deviceWith count) := by
  simp only [device?, ofConfigured]
  induction configured with
  | nil => simp at mem
  | cons first rest ih =>
      rw [List.map_cons, List.nodup_cons] at distinct
      rcases List.mem_cons.mp mem with rfl | mem
      · simp [Backend.deviceWith, Device.name]
      · have differs : first.1.name ≠ backend.name := fun same =>
          distinct.1 (same ▸ List.mem_map_of_mem mem)
        simpa [Backend.deviceWith, Device.name, differs] using ih distinct.2 mem

theorem idle_ofConfigured (distinct : (configured.map fun entry => entry.1.name).Nodup)
    {backend : Backend} {count : Nat} (mem : (backend, count) ∈ configured) :
    (ofConfigured configured priorities).idle backend.name = (List.range count).reverse := by
  simp [idle, device?_ofConfigured distinct mem, Backend.deviceWith]

theorem mem_slots_ofConfigured {slot : Slot} :
    slot ∈ (ofConfigured configured priorities).slots ↔
      ∃ backend count, (backend, count) ∈ configured
        ∧ ∃ index < count, slot = .fresh ⟨backend.name, index⟩ := by
  simp only [ofConfigured, Backend.slotsOf, List.mem_flatMap, List.mem_map, List.mem_range,
    Prod.exists]
  constructor
  · rintro ⟨backend, count, mem, index, bound, rfl⟩
    exact ⟨backend, count, mem, index, bound, rfl⟩
  · rintro ⟨backend, count, mem, index, bound, rfl⟩
    exact ⟨backend, count, mem, index, bound, rfl⟩

/-- Only a device that was configured is found. -/
theorem configured_of_device? {name : String} {device : Device}
    (found : (ofConfigured configured priorities).device? name = some device) :
    ∃ backend count, (backend, count) ∈ configured ∧ backend.name = name := by
  obtain ⟨⟨backend, count⟩, mem, rfl⟩ := List.mem_map.mp (List.mem_of_find?_eq_some found)
  exact ⟨backend, count, mem,
    by simpa [Device.name, Backend.deviceWith] using List.find?_some found⟩

/-- No two slots have the same device and position. -/
theorem nodup_slots_ofConfigured (distinct : (configured.map fun entry => entry.1.name).Nodup) :
    ((ofConfigured configured priorities).slots.map Slot.id).Nodup := by
  simp only [ofConfigured, Backend.slotsOf, List.map_flatMap, List.map_map, Function.comp_def,
    Slot.fresh]
  refine List.nodup_flatMap.mpr ⟨fun entry _ => ?_, ?_⟩
  · exact List.nodup_range.map fun index other same => by simpa using same
  · refine (List.pairwise_map.mp distinct).imp fun differs id first second => ?_
    obtain ⟨index, -, rfl⟩ := List.mem_map.mp first
    obtain ⟨other, -, same⟩ := List.mem_map.mp second
    exact differs (by simpa using (congrArg SlotId.device same).symm)

/-- A slot that was just created has never been used. -/
theorem slot_ofConfigured (id : SlotId) :
    (ofConfigured configured priorities).slot id = .fresh id := by
  simp only [slot]
  cases found : (ofConfigured configured priorities).slots.find? fun slot => slot.id == id with
  | none => rfl
  | some slot =>
      obtain ⟨backend, count, -, index, -, rfl⟩ :=
        mem_slots_ofConfigured.mp (List.mem_of_find?_eq_some found)
      have same : (Slot.fresh ⟨backend.name, index⟩).id = id := by
        simpa using List.find?_some found
      rw [← same]
      rfl

/-- One device of one slot, listed, of the given conduct. -/
def single (conduct : Conduct) : State :=
  ofConfigured [(⟨"A", "net", .ok 1, none, false, conduct⟩, 1)] [⟨"A", none⟩]

theorem construct_single (conduct : Conduct) :
    (construct [⟨"A", "net", .ok 1, none, false, conduct⟩] [⟨"A", none⟩]).result
      = .ok (single conduct) := rfl

/-- Two devices of manual conduct, of one slot and of two, both listed. -/
def pair : State :=
  ofConfigured [(⟨"A", "net", .ok 1, none, false, ⟨.manual, .ok, none⟩⟩, 1),
    (⟨"B", "net", .ok 2, none, false, ⟨.manual, .ok, none⟩⟩, 2)]
  [⟨"A", none⟩, ⟨"B", none⟩]

theorem construct_pair :
    (construct [⟨"A", "net", .ok 1, none, false, ⟨.manual, .ok, none⟩⟩,
        ⟨"B", "net", .ok 2, none, false, ⟨.manual, .ok, none⟩⟩]
      [⟨"A", none⟩, ⟨"B", none⟩]).result = .ok pair := rfl

end State

end SlotDispatch
