import SlotDispatch.Proofs.Known
import SlotDispatch.Proofs.Task

/-!
Where the slots of a workload are. Every slot is in exactly one place (`Placed`): idle in its
pool, executing with its completion due, or in the hands of one thread. Hence whatever a
thread does to the slot in its hands, it does to no other thread's, and what a task relies on
of its slot stays true while other threads take their turns.

Several laws of a workload are sums over its threads, to which the state adds its own part.
`Shift.keeps_total` says once that such a sum is kept if every move keeps its share.
-/

namespace SlotDispatch.Workload

/-! ### Threads and turns -/

/-- A thread of the workload: the units that it has yet to submit, and what it is doing. -/
structure Job where
  todo : List Nat
  task : Task

def Job.worker (job : Job) : Worker := ⟨job.todo.map submission, job.task.thread⟩

/-- One turn, in terms of tasks. -/
inductive Shift (s : State) : List Job → State → List Job → Prop where
  | moves {t : State} {task after : Task} (earlier later : List Job) (todo : List Nat) :
      task.Moves s t after →
      Shift s (earlier ++ ⟨todo, task⟩ :: later) t (earlier ++ ⟨todo, after⟩ :: later)
  | begins {task : Task} (earlier later : List Job) (number : Nat) (todo : List Nat)
      (signal : Signal) : task.thread = ⟨.signal signal, []⟩ →
      Shift s (earlier ++ ⟨number :: todo, task⟩ :: later) s
        (earlier ++ ⟨todo, .submitting number⟩ :: later)
  | completes {slot : SlotId} {status : Status} (jobs : List Job)
      (before after : List (SlotId × Status)) : s.due = before ++ (slot, status) :: after →
      Shift s jobs { s with due := before ++ after } (jobs ++ [⟨[], .completing slot status⟩])

/-- Among the others, a thread is itself or one of the others. -/
theorem mem_replaced {earlier later : List Job} {job other : Job} :
    other ∈ earlier ++ job :: later ↔ other = job ∨ other ∈ earlier ++ later := by
  simp only [List.mem_append, List.mem_cons]
  exact or_left_comm

/-- A thread that is at rest has nothing in its hands. -/
theorem Task.of_at_rest {task : Task} {signal : Signal}
    (rests : task.thread = ⟨.signal signal, []⟩) :
    (∃ answer, task = .resting answer) ∨ task = .answered .completion := by
  cases task with
  | resting answer => exact .inl ⟨answer, rfl⟩
  | answered caller =>
      cases caller with
      | producer => cases rests
      | completion => exact .inr rfl
  | returning caller slot stage after => cases stage <;> cases rests
  | returned caller after => cases rests
  | running caller slot number point => cases point <;> cases rests
  | _ => cases rests

/-- A sum is kept if every move keeps its share, a thread that begins keeps its own, and a
completion brings its share along. -/
theorem Shift.keeps_total {s t : State} {jobs jobs' : List Job} {share : Job → Nat}
    (part : State → Nat)
    (shift : Shift s jobs t jobs')
    (moves : ∀ todo {t : State} {task after : Task}, ⟨todo, task⟩ ∈ jobs → task.Moves s t after →
      part t + share ⟨todo, after⟩ = part s + share ⟨todo, task⟩)
    (begins : ∀ {task : Task} number todo signal, task.thread = ⟨.signal signal, []⟩ →
      share ⟨todo, .submitting number⟩ = share ⟨number :: todo, task⟩)
    (completes : ∀ slot status before after, s.due = before ++ (slot, status) :: after →
      part { s with due := before ++ after } + share ⟨[], .completing slot status⟩ = part s) :
    part t + sumOf share jobs' = part s + sumOf share jobs := by
  cases shift with
  | moves earlier later todo move =>
      have kept := moves todo (by simp) move
      simp only [sumOf_append, sumOf_cons]
      omega
  | begins earlier later number todo signal rests =>
      have kept := begins number todo signal rests
      simp only [sumOf_append, sumOf_cons, kept]
  | completes jobs before after due =>
      have kept := completes _ _ before after due
      simp only [sumOf_append, sumOf_cons, sumOf_nil]
      omega

/-! ### What no turn changes -/

/-- Two states of one workload. -/
structure Kept (s t : State) : Prop where
  samePhase : t.phase = s.phase
  samePriorities : t.priorities = s.priorities
  sameSlots : t.slots.map Slot.id = s.slots.map Slot.id
  sameConduct : ∀ name, t.conduct name = s.conduct name
  sameNames : t.devices.map Device.name = s.devices.map Device.name
  sameText : t.configText = s.configText
  attached : s.Attached → t.Attached

namespace Kept

variable {s t u : State}

theorem of_eq (phase : t.phase = s.phase) (priorities : t.priorities = s.priorities)
    (slots : t.slots = s.slots) (devices : t.devices = s.devices)
    (text : t.configText = s.configText) : Kept s t := by
  refine ⟨phase, priorities, by rw [slots], fun name => ?_, by rw [devices], text,
    fun attached => ?_⟩
  · rw [State.conduct, State.conduct, State.device?, State.device?, devices]
  · rw [State.Attached, slots]
    exact attached

theorem trans (first : Kept s t) (second : Kept t u) : Kept s u where
  samePhase := second.samePhase.trans first.samePhase
  samePriorities := second.samePriorities.trans first.samePriorities
  sameSlots := second.sameSlots.trans first.sameSlots
  sameConduct name := (second.sameConduct name).trans (first.sameConduct name)
  sameNames := second.sameNames.trans first.sameNames
  sameText := second.sameText.trans first.sameText
  attached holds := second.attached (first.attached holds)

theorem hasSlot (kept : Kept s t) (slot : SlotId) : t.hasSlot slot = s.hasSlot slot := by
  rw [Bool.eq_iff_iff, State.hasSlot_iff, State.hasSlot_iff, kept.sameSlots]

theorem device?_isSome (kept : Kept s t) (name : String) :
    (t.device? name).isSome = (s.device? name).isSome := by
  have known (s : State) :
      (s.device? name).isSome = true ↔ name ∈ s.devices.map Device.name := by
    simp [State.device?]
  rw [Bool.eq_iff_iff, known, known, kept.sameNames]

theorem serving (kept : Kept s t) : t.serving = s.serving := by
  rw [State.serving, State.serving, kept.samePhase]

theorem modifySlot (s : State) (id : SlotId) {change : Slot → Slot}
    (keeps : ∀ slot, ((change slot).id, (change slot).attached) = (slot.id, slot.attached)) :
    Kept s (s.modifySlot id change) where
  samePhase := rfl
  samePriorities := rfl
  sameSlots := s.slotIds_modifySlot id fun slot => congrArg Prod.fst (keeps slot)
  sameConduct _ := rfl
  sameNames := rfl
  sameText := rfl
  attached holds := holds.modifySlot id fun slot => congrArg Prod.snd (keeps slot)

theorem dropContinuation (s : State) (continuation : Option Continuation) :
    Kept s (s.dropContinuation continuation) := by
  obtain ⟨requests, eq⟩ := s.dropContinuation_eq continuation
  rw [eq]
  exact .of_eq rfl rfl rfl rfl rfl

theorem modifyIdle (s : State) (name : String) (pool : List Nat → List Nat) :
    Kept s (s.modifyDevice name fun device => { device with idle := pool device.idle }) := by
  refine ⟨rfl, rfl, rfl, ?_, ?_, rfl, id⟩
  · intro other
    simp only [State.conduct]
    rw [State.device?_modifyDevice s (by intro; rfl)]
    cases s.device? other with
    | none => rfl
    | some device =>
        simp only [Option.map_some]
        split <;> rfl
  · simp only [State.modifyDevice, List.map_map]
    refine List.map_congr_left fun device there => ?_
    simp only [Function.comp_apply]
    split <;> rfl

end Kept

/-- No move touches phase, priority list or conduct, adds a slot or detaches one. -/
theorem Task.Moves.kept {s t : State} {task after : Task} (moves : task.Moves s t after) :
    Kept s t := by
  cases moves with
  | silent | submitted | used | entered | going | refused | ended | failed =>
      exact .of_eq rfl rfl rfl rfl rfl
  | finds caller device rest handedBack index left idle =>
      exact .modifyIdle s device fun _ => left
  | pushed caller slot after => exact .modifyIdle s slot.device (slot.index :: ·)
  | bound caller slot number => exact .modifySlot s slot (by intro; rfl)
  | marked caller slot after => exact .modifySlot s slot (by intro; rfl)
  | completed slot status => exact .modifySlot s slot (by intro; rfl)
  | notified slot status => exact .modifySlot s slot (by intro; rfl)
  | left caller slot number id =>
      exact (Kept.modifySlot s slot (by intro; rfl)).trans (.dropContinuation _ _)
  | discarded caller slot after =>
      exact (Kept.modifySlot s slot (by intro; rfl)).trans (.dropContinuation _ _)
  | started caller slot number status =>
      have noted : Kept s (s.note (.started slot)) := .of_eq rfl rfl rfl rfl rfl
      have started : Kept (s.note (.started slot)) (s.started slot) :=
        .modifySlot _ slot (by intro; rfl)
      exact (noted.trans started).trans (.of_eq rfl rfl rfl rfl rfl)
  | follows slot status id =>
      have relieved : Kept s (s.relieved slot) := .modifySlot s slot (by intro; rfl)
      exact relieved.trans (.of_eq rfl rfl rfl rfl rfl)

theorem Shift.kept {s t : State} {jobs jobs' : List Job} (shift : Shift s jobs t jobs') :
    Kept s t := by
  cases shift with
  | moves earlier later todo move => exact move.kept
  | begins => exact .of_eq rfl rfl rfl rfl rfl
  | completes => exact .of_eq rfl rfl rfl rfl rfl

/-! ### One place for every slot -/

/-- How often a task has a slot in its hands. -/
def Task.hasInHand (slot : SlotId) (task : Task) : Nat := if task.slot? = some slot then 1 else 0

/-- How often a slot is found outside of the hands of threads: idle in its pool, or executing
with its completion due. -/
def atHome (slot : SlotId) (s : State) : Nat :=
  (s.idle slot.device).count slot.index + s.due.countP fun entry => entry.1 == slot

/-- Every slot is in one place, and is known to its device. -/
structure Placed (s : State) (jobs : List Job) : Prop where
  once : ∀ slot, atHome slot s + sumOf (fun job => job.task.hasInHand slot) jobs
    = (s.hasSlot slot).toNat
  known : ∀ slot, s.hasSlot slot = true → (s.device? slot.device).isSome = true

theorem Task.Silent.slot?_eq {s : State} {task after : Task} (silent : task.Silent s after) :
    after.slot? = task.slot? := by
  cases silent <;> rfl

/-- Where nothing moves, everything is where it was. -/
theorem atHome_congr {s t : State} (pools : t.pools = s.pools) (due : t.due = s.due)
    (slot : SlotId) : atHome slot t = atHome slot s := by
  rw [atHome, atHome, State.idle_of_samePools pools, due]

theorem device?_of_idle {s : State} {device : String} {index : Nat} {left : List Nat}
    (idle : s.idle device = index :: left) : (s.device? device).isSome = true := by
  simp only [State.idle] at idle
  split at idle
  · cases idle
  · next found => rw [found]; rfl

/-- A pool from which a slot is taken loses this slot. -/
theorem atHome_popped {s : State} {device : String} {index : Nat} {left : List Nat}
    (idle : s.idle device = index :: left) (slot : SlotId) :
    atHome slot (s.modifyDevice device fun device => { device with idle := left })
      + (if some (⟨device, index⟩ : SlotId) = some slot then 1 else 0) = atHome slot s := by
  have known := device?_of_idle idle
  obtain ⟨name, position⟩ := slot
  simp only [atHome]
  rw [State.idle_modifyDevice s device (fun _ => left)]
  by_cases same : name = device
  · subst same
    rw [if_pos ⟨rfl, known⟩, idle, List.count_cons]
    simp only [Option.some.injEq, SlotId.mk.injEq, true_and, beq_iff_eq]
    exact Nat.add_right_comm _ _ _
  · rw [if_neg fun both => same both.1]
    simp [Ne.symm same]
    rfl

/-- A pool to which a slot is returned gains this slot. -/
theorem atHome_pushed {s : State} {slot : SlotId} (known : (s.device? slot.device).isSome = true)
    (other : SlotId) :
    atHome other (s.pushIdle slot)
      = atHome other s + (if some slot = some other then 1 else 0) := by
  obtain ⟨name, position⟩ := other
  simp only [atHome, State.pushIdle]
  rw [State.idle_modifyDevice s slot.device (slot.index :: ·)]
  by_cases same : name = slot.device
  · subst same
    rw [if_pos ⟨rfl, known⟩, List.count_cons]
    have whole : some slot = some ⟨slot.device, position⟩ ↔ slot.index = position := by
      constructor
      · intro same
        exact congrArg SlotId.index (Option.some.inj same)
      · intro same
        rw [← same]
    simp only [whole, beq_iff_eq]
    exact Nat.add_right_comm _ _ _
  · have differs : ¬ some slot = some ⟨name, position⟩ := by
      rintro ⟨⟩
      exact same rfl
    rw [if_neg fun both => same both.1, if_neg differs]
    rfl

/-- A slot that starts leaves the hands of its unit, and its completion falls due. -/
theorem atHome_started (s : State) (slot other : SlotId) (status : Status) :
    atHome other { s.started slot with due := s.due ++ [(slot, status)] }
      = atHome other s + (if some slot = some other then 1 else 0) := by
  have pools : (s.idle other.device)
      = ({ s.started slot with due := s.due ++ [(slot, status)] }).idle other.device := rfl
  simp only [atHome, ← pools, List.countP_append, List.countP_singleton, Option.some.injEq,
    beq_iff_eq]
  omega

/-- A move takes no slot from anywhere but where it puts it. -/
theorem Task.Moves.placed {s t : State} {task after : Task} (moves : task.Moves s t after)
    (known : ∀ slot, task.slot? = some slot → (s.device? slot.device).isSome = true)
    (slot : SlotId) :
    atHome slot t + after.hasInHand slot = atHome slot s + task.hasInHand slot := by
  cases moves with
  | silent silent => rw [hasInHand, hasInHand, silent.slot?_eq]
  | finds caller device rest handedBack index left idle => exact atHome_popped idle slot
  | started caller own number status => exact atHome_started s own slot status
  | pushed caller own after => exact atHome_pushed (known own rfl) slot
  | left caller own number id =>
      have same := (State.undisturbed_setContinuation s own (.scripted id [])).samePools
      rw [atHome_congr same (State.due_dropContinuation _ _)]
      rfl
  | discarded caller own after =>
      have same := (State.undisturbed_clearContinuation s own).samePools
      rw [atHome_congr same (State.due_dropContinuation _ _)]
      rfl
  | _ => rfl

/-- A completion that comes in takes its slot along. -/
theorem atHome_completes {s : State} {own : SlotId} {status : Status}
    {before after : List (SlotId × Status)} (due : s.due = before ++ (own, status) :: after)
    (slot : SlotId) :
    atHome slot { s with due := before ++ after } + (if some own = some slot then 1 else 0)
      = atHome slot s := by
  have pools : (s.idle slot.device) = ({ s with due := before ++ after }).idle slot.device := rfl
  simp only [atHome, ← pools, due, List.countP_append, List.countP_cons, Option.some.injEq,
    beq_iff_eq]
  omega

namespace Placed

variable {s t : State} {jobs jobs' : List Job} {job : Job} {slot : SlotId}

/-- What a thread has in its hands is a slot of the dispatcher, and is nowhere else. -/
theorem present (placed : Placed s jobs) (mem : job ∈ jobs) (hand : job.task.slot? = some slot) :
    s.hasSlot slot = true := by
  have once := placed.once slot
  have share : job.task.hasInHand slot ≤ sumOf (fun job => job.task.hasInHand slot) jobs :=
    le_sumOf (fun job => job.task.hasInHand slot) mem
  rw [Task.hasInHand, if_pos hand] at share
  cases there : s.hasSlot slot with
  | true => rfl
  | false =>
      rw [there, Bool.toNat_false] at once
      omega

theorem shift (placed : Placed s jobs) (shift : Shift s jobs t jobs') : Placed t jobs' := by
  have kept := shift.kept
  constructor
  · intro slot
    rw [kept.hasSlot, ← placed.once slot]
    refine shift.keeps_total (atHome slot) ?_ ?_ ?_
    · intro todo t task after mem moves
      exact moves.placed (fun own hand => placed.known own (placed.present mem hand)) slot
    · intro task number todo signal rests
      rcases Task.of_at_rest rests with ⟨answer, rfl⟩ | rfl <;> rfl
    · intro own status before after due
      exact atHome_completes due slot
  · intro slot present
    rw [kept.hasSlot] at present
    rw [kept.device?_isSome]
    exact placed.known slot present

/-- No slot is in the hands of two threads. -/
theorem apart {earlier later : List Job} (placed : Placed s (earlier ++ job :: later))
    (hand : job.task.slot? = some slot) :
    atHome slot s = 0 ∧ ∀ other ∈ earlier ++ later, other.task.slot? ≠ some slot := by
  have once := placed.once slot
  have there := placed.present (by simp) hand
  simp only [sumOf_append, sumOf_cons, Task.hasInHand, hand, there, if_true,
    Bool.toNat_true] at once
  refine ⟨by omega, ?_⟩
  have none : sumOf (fun job => if job.task.slot? = some slot then 1 else 0) (earlier ++ later)
      = 0 := by
    rw [sumOf_append]
    omega
  intro other mem same
  have zero := sumOf_eq_zero.mp none other mem
  simp [same] at zero

/-- A slot that is idle or whose completion is due is in the hands of no thread. -/
theorem free (placed : Placed s jobs) (home : 0 < atHome slot s) (mem : job ∈ jobs) :
    job.task.slot? ≠ some slot := by
  intro hand
  obtain ⟨earlier, later, rfl⟩ := List.append_of_mem mem
  have away := (placed.apart hand).1
  omega

/-- No slot is twice in its pool, and none that is idle has a completion due. -/
theorem atHome_le (placed : Placed s jobs) (slot : SlotId) : atHome slot s ≤ 1 := by
  have once := placed.once slot
  have bound := (s.hasSlot slot).toNat_le
  omega

theorem nodup_idle (placed : Placed s jobs) (name : String) : (s.idle name).Nodup := by
  apply List.nodup_iff_count_le_one.mpr
  intro index
  have bound := placed.atHome_le ⟨name, index⟩
  simp only [atHome] at bound
  omega

end Placed

/-! ### What is found on the slots -/

section Contents

variable {s t : State} {task after : Task} {slot other : SlotId}

theorem slot_dropContinuation (s : State) (continuation : Option Continuation) (slot : SlotId) :
    (s.dropContinuation continuation).slot slot = s.slot slot := by
  obtain ⟨requests, eq⟩ := s.dropContinuation_eq continuation
  rw [eq]
  rfl

/-- A move changes no slot but the one that its thread has in its hands. -/
theorem Task.Moves.slot_eq (moves : task.Moves s t after) (elsewhere : task.slot? ≠ some other) :
    t.slot other = s.slot other := by
  have differs {slot : SlotId} (hand : task.slot? = some slot) : other ≠ slot := by
    rintro rfl
    exact elsewhere hand
  cases moves with
  | bound caller slot number =>
      exact State.slot_modifySlot_of_ne (differs rfl) (by intro; rfl)
  | marked caller slot after =>
      exact State.slot_modifySlot_of_ne (differs rfl) (by intro; rfl)
  | completed slot status => exact State.slot_modifySlot_of_ne (differs rfl) (by intro; rfl)
  | notified slot status => exact State.slot_modifySlot_of_ne (differs rfl) (by intro; rfl)
  | follows slot status id => exact State.slot_modifySlot_of_ne (differs rfl) (by intro; rfl)
  | started caller slot number status =>
      exact State.slot_modifySlot_of_ne (s := s.note (.started slot)) (differs rfl) (by intro; rfl)
  | left caller slot number id =>
      rw [State.setContinuation, slot_dropContinuation]
      exact State.slot_modifySlot_of_ne (differs rfl) (by intro; rfl)
  | discarded caller slot after =>
      rw [State.clearContinuation, slot_dropContinuation]
      exact State.slot_modifySlot_of_ne (differs rfl) (by intro; rfl)
  | _ => rfl

theorem Awaited.of_slot_eq (awaited : Awaited s slot) (same : t.slot slot = s.slot slot) :
    Awaited t slot := by
  obtain ⟨id, left⟩ := awaited
  exact ⟨id, by rw [same, left]⟩

/-- What a task relies on of its slot stays true as long as the slot stays as it is. -/
theorem Task.Expects.of_slot_eq (expects : task.Expects s)
    (same : ∀ slot, task.slot? = some slot → t.slot slot = s.slot slot) : task.Expects t := by
  constructor
  · intro slot hand stays
    rw [same slot hand]
    exact expects.still slot hand stays
  · intro slot hand leaves
    exact (expects.awaited slot hand leaves).of_slot_eq (same slot hand)

/-- A task without a slot relies on nothing. -/
theorem Task.Expects.of_none (none : task.slot? = none) : task.Expects s :=
  ⟨by simp [none], by simp [none]⟩

theorem Task.Expects.of_some (hand : task.slot? = some slot)
    (still : (s.slot slot).running = false) (awaited : task.leaves = true → Awaited s slot) :
    task.Expects s := by
  constructor
  · intro other hand' _
    obtain rfl : slot = other := Option.some.inj (hand.symm.trans hand')
    exact still
  · intro other hand' leaves
    obtain rfl : slot = other := Option.some.inj (hand.symm.trans hand')
    exact awaited leaves

theorem Task.Silent.expects (silent : task.Silent s after) (expects : task.Expects s) :
    after.Expects s := by
  have same := silent.slot?_eq
  have stays : task.completes = false := by cases silent <;> rfl
  have leaves : after.leaves = true → task.leaves = true := by
    cases silent <;> exact id
  constructor
  · intro slot hand _
    exact expects.still slot (same ▸ hand) stays
  · intro slot hand left
    exact expects.awaited slot (same ▸ hand) (leaves left)

/-- A task finds on its slot what it relies on. -/
theorem Task.Moves.expects (moves : task.Moves s t after) (expects : task.Expects s)
    (present : ∀ slot, task.slot? = some slot → s.hasSlot slot = true)
    (resting : ∀ slot : SlotId, slot.index ∈ s.idle slot.device → (s.slot slot).running = false) :
    after.Expects t := by
  -- A change of the slot at hand that leaves its continuation and does not let it execute.
  have changed {slot : SlotId} {change : Slot → Slot} (hand : task.slot? = some slot)
      (same : after.slot? = some slot) (keeps : ∀ slot, (change slot).id = slot.id)
      (still : (change (s.slot slot)).running = false)
      (left : after.leaves = true →
        ∃ id, (change (s.slot slot)).continuation = some (.scripted id [])) :
      after.Expects (s.modifySlot slot change) := by
    have found := State.slot_modifySlot_self (present slot hand) keeps
    refine .of_some same ?_ fun leaves => ?_
    · rw [found]
      exact still
    · rw [Awaited, found]
      exact left leaves
  cases moves with
  | silent silent => exact silent.expects expects
  | submitted | started | ended | pushed => exact .of_none rfl
  | used caller slot devices number queue first =>
      exact .of_some rfl (expects.still slot rfl rfl) nofun
  | entered caller slot number => exact .of_some rfl (expects.still slot rfl rfl) nofun
  | going caller slot number id action answer =>
      exact .of_some rfl (expects.still slot rfl rfl) fun _ => expects.awaited slot rfl rfl
  | refused caller slot number message refuses =>
      exact .of_some rfl (expects.still slot rfl rfl) nofun
  | failed caller slot number id action message =>
      exact .of_some rfl (expects.still slot rfl rfl) nofun
  | finds caller device rest handedBack index left idle =>
      refine .of_some rfl (resting ⟨device, index⟩ ?_) nofun
      rw [idle]
      exact List.mem_cons_self
  | bound caller slot number =>
      exact changed rfl rfl (by intro; rfl) (expects.still slot rfl rfl) nofun
  | marked caller slot after =>
      exact changed rfl rfl (by intro; rfl) (expects.still slot rfl rfl) nofun
  | completed slot status =>
      exact changed rfl rfl (by intro; rfl) rfl fun _ => expects.awaited slot rfl rfl
  | notified slot status =>
      exact changed rfl rfl (by intro; rfl) (expects.still slot rfl rfl) fun _ =>
        expects.awaited slot rfl rfl
  | follows slot status id =>
      have relieved : (Task.continuing slot id).Expects (s.relieved slot) :=
        changed rfl rfl (by intro; rfl) (expects.still slot rfl rfl) nofun
      exact relieved.of_slot_eq fun _ _ => rfl
  | left caller slot number id =>
      have left : (Task.running caller slot number .left).Expects
          (s.modifySlot slot fun slot => { slot with continuation := some (.scripted id []) }) :=
        changed rfl rfl (by intro; rfl) (expects.still slot rfl rfl) fun _ => ⟨id, rfl⟩
      exact left.of_slot_eq fun slot _ => slot_dropContinuation _ _ slot
  | discarded caller slot after =>
      have cleared : (Task.returning caller slot .marking after).Expects
          (s.modifySlot slot fun slot => { slot with continuation := none }) :=
        changed rfl rfl (by intro; rfl) (expects.still slot rfl rfl) nofun
      exact cleared.of_slot_eq fun slot _ => slot_dropContinuation _ _ slot

/-- Idle slots do not execute, a continuation waits on every slot whose completion is due, and
every thread finds on its slot what it relies on. -/
structure Loaded (s : State) (jobs : List Job) : Prop where
  resting : ∀ slot : SlotId, slot.index ∈ s.idle slot.device → (s.slot slot).running = false
  due : ∀ entry ∈ s.due, Awaited s entry.1
  tasks : ∀ job ∈ jobs, job.task.Expects s

theorem atHome_pos_of_idle (idle : slot.index ∈ s.idle slot.device) : 0 < atHome slot s := by
  have inside := List.count_pos_iff.mpr idle
  simp only [atHome]
  omega

theorem atHome_pos_of_due {entry : SlotId × Status} (mem : entry ∈ s.due) :
    0 < atHome entry.1 s := by
  have inside : 0 < s.due.countP fun other => other.1 == entry.1 :=
    List.countP_pos_iff.mpr ⟨entry, mem, by simp⟩
  simp only [atHome]
  omega

/-- A slot that is idle after a move was idle before, unless the move has returned it. -/
theorem Task.Moves.idle_cases (moves : task.Moves s t after)
    (idle : slot.index ∈ t.idle slot.device) :
    slot.index ∈ s.idle slot.device
      ∨ task.slot? = some slot ∧ task.completes = false ∧ t.slot slot = s.slot slot := by
  cases moves with
  | finds caller device rest handedBack index left first =>
      exact .inl (State.mem_idle_of_popped first idle)
  | pushed caller own after =>
      rcases State.mem_idle_of_pushIdle idle with rfl | idle
      · exact .inr ⟨rfl, rfl, rfl⟩
      · exact .inl idle
  | left caller own number id =>
      rw [State.idle_of_samePools (State.undisturbed_setContinuation s own _).samePools] at idle
      exact .inl idle
  | discarded caller own after =>
      rw [State.idle_of_samePools (State.undisturbed_clearContinuation s own).samePools] at idle
      exact .inl idle
  | _ => exact .inl idle

/-- A completion that is due after a move was due before, unless the move has started the
slot. -/
theorem Task.Moves.due_cases (moves : task.Moves s t after)
    (present : ∀ slot, task.slot? = some slot → s.hasSlot slot = true)
    {entry : SlotId × Status} (mem : entry ∈ t.due) :
    entry ∈ s.due ∨ task.slot? = some entry.1 ∧ task.leaves = true
      ∧ (t.slot entry.1).continuation = (s.slot entry.1).continuation := by
  cases moves with
  | started caller own number status =>
      rcases List.mem_append.mp mem with mem | mem
      · exact .inl mem
      · obtain rfl := List.mem_singleton.mp mem
        refine .inr ⟨rfl, rfl, ?_⟩
        have found := State.slot_modifySlot_self (s := s.note (.started own)) (present own rfl)
          (show ∀ slot : Slot, { slot with running := true, output := none }.id = slot.id from
            fun _ => rfl)
        have same := congrArg Slot.continuation found
        exact same
  | left caller own number id =>
      rw [State.setContinuation, State.due_dropContinuation] at mem
      exact .inl mem
  | discarded caller own after =>
      rw [State.clearContinuation, State.due_dropContinuation] at mem
      exact .inl mem
  | _ => exact .inl mem

theorem Loaded.shift {jobs jobs' : List Job} (loaded : Loaded s jobs) (placed : Placed s jobs)
    (shift : Shift s jobs t jobs') : Loaded t jobs' := by
  cases shift with
  | @moves _ task after earlier later todo moves =>
      have mem : ⟨todo, task⟩ ∈ earlier ++ ⟨todo, task⟩ :: later := by simp
      have expects : task.Expects s := loaded.tasks _ mem
      have present (slot : SlotId) (hand : task.slot? = some slot) : s.hasSlot slot = true :=
        placed.present mem hand
      refine ⟨?_, ?_, ?_⟩
      · intro slot idle
        rcases moves.idle_cases idle with idle | ⟨hand, stays, same⟩
        · have elsewhere : task.slot? ≠ some slot := placed.free (atHome_pos_of_idle idle) mem
          rw [moves.slot_eq elsewhere]
          exact loaded.resting slot idle
        · rw [same]
          exact expects.still slot hand stays
      · intro entry due
        rcases moves.due_cases present due with due | ⟨hand, leaves, same⟩
        · have elsewhere : task.slot? ≠ some entry.1 := placed.free (atHome_pos_of_due due) mem
          exact (loaded.due entry due).of_slot_eq (moves.slot_eq elsewhere)
        · obtain ⟨id, left⟩ := expects.awaited entry.1 hand leaves
          exact ⟨id, same.trans left⟩
      · intro job there
        rcases mem_replaced.mp there with rfl | there
        · exact moves.expects expects present loaded.resting
        · have apart : ∀ slot, job.task.slot? = some slot → task.slot? ≠ some slot := by
            intro slot hand mine
            have alone := placed.apart mine
            exact alone.2 job there hand
          have before := loaded.tasks job (mem_replaced.mpr (.inr there))
          exact before.of_slot_eq fun slot hand => moves.slot_eq (apart slot hand)
  | begins earlier later number todo signal rests =>
      refine ⟨loaded.resting, loaded.due, ?_⟩
      intro job there
      rcases mem_replaced.mp there with rfl | there
      · exact .of_none rfl
      · exact loaded.tasks job (mem_replaced.mpr (.inr there))
  | @completes slot status jobs before after due =>
      have mem : (slot, status) ∈ s.due := by simp [due]
      refine ⟨loaded.resting, ?_, ?_⟩
      · intro entry there
        refine loaded.due entry ?_
        rw [due]
        rcases List.mem_append.mp there with there | there
        · exact List.mem_append_left _ there
        · exact List.mem_append_right _ (List.mem_cons_of_mem _ there)
      · intro job there
        rcases List.mem_append.mp there with there | there
        · exact (loaded.tasks job there).of_slot_eq fun _ _ => rfl
        · rw [List.mem_singleton.mp there]
          constructor
          · nofun
          · intro other hand _
            obtain rfl : slot = other := Option.some.inj hand
            exact (loaded.due _ mem).of_slot_eq rfl

end Contents

end SlotDispatch.Workload
