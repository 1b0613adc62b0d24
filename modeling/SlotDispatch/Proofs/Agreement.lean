import SlotDispatch.Proofs.Closing
import SlotDispatch.Proofs.RoundTrip
import SlotDispatch.Proofs.Termination

/-!
The stored text and the priority list say the same. The text is written when a dispatcher is
built and when a list is set, and kept as it was given when a configuration is set; each time
the list installed with it is the one that the text denotes, or both are empty
(`State.TextAgrees`). Nothing else changes either of them while the service goes on, so they
agree at every moment of a run, for devices whose names can be read back.
-/

namespace SlotDispatch

/-- A name that can be written in a priority list and read back, with a count or without. -/
structure PlainName (name : String) : Prop where
  nonempty : name ≠ ""
  trimmed : Text.trim name.toList = name.toList
  undivided : ',' ∉ name.toList
  unopened : '(' ∉ name.toList
  unclosed : ')' ∉ name.toList

theorem PlainName.legible {entry : Preference} (plain : PlainName entry.name) : entry.Legible :=
  ⟨plain.nonempty, plain.trimmed, plain.undivided, plain.unopened, fun _ => plain.unclosed⟩

/-! ### Lists that are installed -/

/-- The stored text denotes the priority list, or both are empty. -/
def State.TextAgrees (s : State) : Prop :=
  s.priorities = [] ∧ s.configText = "" ∨ parsePriorities s.configText = .ok s.priorities

section Installed

variable {s t : State} {entries : List Preference} {text : String}

/-- The text of plain entries agrees with them, be they none. -/
theorem State.textAgrees_of_plain (plain : ∀ entry ∈ s.priorities, PlainName entry.name)
    (written : s.configText = prioritiesText s.priorities) : s.TextAgrees := by
  rw [TextAgrees, written]
  by_cases empty : s.priorities = []
  · exact .inl ⟨empty, by simp [empty, prioritiesText]⟩
  · exact .inr (parsePriorities_text empty fun entry mem => (plain entry mem).legible)

/-- A list that is installed asks for no numbers of slots. -/
theorem State.uncounted_of_setPriorities (set : s.setPriorities entries text = .ok t) :
    ∀ entry ∈ t.priorities, entry.count = none := by
  rw [setPriorities_eq set]
  simp only [setPriorities, checkUncounted] at set
  split at set
  · cases set
  · cases set
  · next passed _ =>
      split at passed
      · cases passed
      · next none =>
          intro entry mem
          simpa using List.find?_eq_none.mp none entry mem

/-- The text kept for a configuration denotes the list installed with it. -/
theorem State.textAgrees_of_setConfig {config : List (String × String)}
    (set : s.setConfig config = .ok t) : t.TextAgrees := by
  simp only [setConfig] at set
  split at set
  · split at set
    · split at set
      · cases set
      · next read =>
          rw [setPriorities_eq set]
          exact .inr read
    · cases set
  · cases set

/-- Whatever is installed, its text agrees with it, and no entry has a count. -/
theorem State.textAgrees_of_reconfigured? {action : Action}
    (plain : ∀ name ∈ s.deviceNames, PlainName name) (set : s.reconfigured? action = some t) :
    t.TextAgrees ∧ ∀ entry ∈ t.priorities, entry.count = none := by
  have known := known_of_reconfigured? set
  obtain ⟨entries, text, listed⟩ := setPriorities_of_reconfigured? set
  refine ⟨?_, uncounted_of_setPriorities listed⟩
  rcases reconfigured?_eq_some.mp set with ⟨entries, -, set⟩ | ⟨config, -, set⟩
  · refine textAgrees_of_plain (fun entry mem => plain _ (known entry mem)) ?_
    rw [setPriorities_eq set]
  · exact textAgrees_of_setConfig set

end Installed

/-! ### Runs -/

section Runs

variable {m after : Moment}

/-- What a step installs agrees with its text and has no counts. -/
theorem Moment.Step.installed (step : m.Step after)
    (plain : ∀ name ∈ m.state.deviceNames, PlainName name) (installs : m.installs.isSome) :
    after.state.TextAgrees ∧ ∀ entry ∈ after.state.priorities, entry.count = none := by
  obtain ⟨t, installs⟩ := Option.isSome_iff_exists.mp installs
  obtain ⟨-, rfl, -⟩ := step.of_installs installs
  simp only [Moment.installs] at installs
  split at installs
  · exact State.textAgrees_of_reconfigured? plain installs
  · cases installs

/-- No other step changes the list or its text, as long as the service goes on. -/
theorem Moment.Step.keeps_settings (step : m.Step after) (none : m.installs = none)
    (serving : after.state.serving = true) :
    after.state.priorities = m.state.priorities ∧ after.state.configText = m.state.configText := by
  refine ⟨?_, step.keeps_text none⟩
  rcases step.priorities_cases none with same | ⟨-, ended⟩
  · exact same
  · rw [serving] at ended
    cases ended

variable {backends : List Backend} {priorities : List Preference} {s : State}
  {past : List Moment} {now : Moment}

/-- The devices of a run are those that it was built over. -/
theorem Run.deviceNames (built : (construct backends priorities).result = .ok s)
    (run : Run (.initial s) past now) :
    ∀ name, name ∈ now.state.deviceNames → name ∈ backends.map Backend.name := by
  induction run with
  | start =>
      obtain ⟨configured, lists, rfl⟩ := construct_configured built
      intro name mem
      obtain ⟨device, there, rfl⟩ := List.mem_map.mp mem
      obtain ⟨entry, found, rfl⟩ := List.mem_map.mp there
      exact List.mem_map_of_mem (lists.given entry found)
  | next run step ih =>
      rw [step.keeps_devices]
      exact ih

/-- Text and list agree as long as the service goes on, and once a list was installed no
entry has a count. -/
theorem Run.textAgrees (plain : ∀ backend ∈ backends, PlainName backend.name)
    (built : (construct backends priorities).result = .ok s) (run : Run (.initial s) past now)
    (serving : now.state.serving = true) :
    now.state.TextAgrees
      ∧ ((∃ m ∈ past, m.installs.isSome) →
        ∀ entry ∈ now.state.priorities, entry.count = none) := by
  have named {past : List Moment} {now : Moment} (run : Run (.initial s) past now) :
      ∀ name ∈ now.state.deviceNames, PlainName name := by
    intro name mem
    obtain ⟨backend, there, rfl⟩ := List.mem_map.mp (run.deviceNames built name mem)
    exact plain backend there
  induction run with
  | start =>
      have known := (Run.start.listed built).known
      refine ⟨State.textAgrees_of_plain (fun entry mem => named .start _ (known entry mem)) ?_,
        by simp⟩
      obtain ⟨configured, -, rfl⟩ := construct_configured built
      rfl
  | @next past last now run step ih =>
      cases installs : last.installs with
      | some t =>
          obtain ⟨agrees, uncounted⟩ := step.installed (named run) (by simp [installs])
          exact ⟨agrees, fun _ => uncounted⟩
      | none =>
          obtain ⟨agrees, uncounted⟩ := ih (step.serving_before serving)
          obtain ⟨list, text⟩ := step.keeps_settings installs serving
          rw [State.TextAgrees, list, text]
          refine ⟨agrees, fun earlier => uncounted ?_⟩
          obtain ⟨m, mem, some⟩ := earlier
          rcases List.mem_append.mp mem with mem | mem
          · exact ⟨m, mem, some⟩
          · obtain rfl := List.mem_singleton.mp mem
            rw [installs] at some
            cases some

end Runs

/-! ### The law -/

/-- The stored text and the priority list never drift apart. For devices of plain names, at
every moment of every run before the dispatcher is shut down, the list names registered
devices only, each once; either the list and the stored text are both empty, or the text
denotes the list; and once a list was installed no entry has a count. -/
theorem text_agrees_with_priorities {backends : List Backend} {priorities : List Preference}
    {s : State} {past : List Moment} {now : Moment}
    (plain : ∀ backend ∈ backends, PlainName backend.name)
    (built : (construct backends priorities).result = .ok s) (run : Run (.initial s) past now)
    (serving : now.state.serving = true) :
    (now.state.priorities.map Preference.name).Nodup
      ∧ (∀ entry ∈ now.state.priorities, entry.name ∈ backends.map Backend.name)
      ∧ (now.state.priorities = [] ∧ now.state.config prioritiesKey = .ok ""
        ∨ ∃ text, now.state.config prioritiesKey = .ok text
          ∧ parsePriorities text = .ok now.state.priorities)
      ∧ ((∃ m ∈ past, m.installs.isSome) →
        ∀ entry ∈ now.state.priorities, entry.count = none) := by
  have listed := run.listed built
  obtain ⟨agrees, uncounted⟩ := run.textAgrees plain built serving
  have stored : now.state.config prioritiesKey = .ok now.state.configText := by
    simp [State.config]
  refine ⟨listed.distinct, fun entry mem => run.deviceNames built _ (listed.known entry mem),
    ?_, uncounted⟩
  rw [stored]
  rcases agrees with ⟨empty, text⟩ | denotes
  · exact .inl ⟨empty, by rw [text]⟩
  · exact .inr ⟨_, rfl, denotes⟩

/-- One device that was asked for two slots when the dispatcher was built. A configuration is
set whose text has blanks in it: it is stored as given, and denotes the list. -/
theorem text_agrees_with_priorities_counted :
    let backend : Backend := ⟨"A", "net", .ok 1, none, false, ⟨.manual, .ok, none⟩⟩
    let s := State.ofConfigured [(backend, 2)] [⟨"A", some 2⟩]
    let last := (Moment.operations 12 (.initial s) [.setConfig [(prioritiesKey, " A\n")]]).2
    s.config prioritiesKey = .ok "A(2)" ∧ parsePriorities "A(2)" = .ok s.priorities
      ∧ last.state.config prioritiesKey = .ok " A\n"
      ∧ parsePriorities " A\n" = .ok last.state.priorities
      ∧ ∀ entry ∈ last.state.priorities, entry.count = none := by
  intro backend s last
  have plain : ∀ given ∈ [backend], PlainName given.name := by
    intro given mem
    obtain rfl := List.mem_singleton.mp mem
    exact ⟨by decide, by decide, by decide, by decide, by decide⟩
  have built : (construct [backend] [⟨"A", some 2⟩]).result = .ok s := rfl
  have run := Run.operations 12 (.initial s) [.setConfig [(prioritiesKey, " A\n")]]
  have text : s.config prioritiesKey = .ok "A(2)" := by decide +kernel
  have given : last.state.config prioritiesKey = .ok " A\n" := by decide +kernel
  have listed : last.state.priorities ≠ [] := by decide +kernel
  have serving : last.state.serving = true := by decide +kernel
  have installs : ((Moment.operations 12 (.initial s)
      [.setConfig [(prioritiesKey, " A\n")]]).1.any fun m => m.installs.isSome) = true := by
    decide +kernel
  obtain ⟨-, -, ⟨empty, -⟩ | ⟨stored, first, denotes⟩, -⟩ :=
    text_agrees_with_priorities plain built .start rfl
  · cases empty
  change Run _ _ last at run
  generalize last = now at run given listed serving ⊢
  generalize (Moment.operations 12 (.initial s) [.setConfig [(prioritiesKey, " A\n")]]).1 = past
    at run installs
  obtain rfl : "A(2)" = stored := by simpa [text, Moment.initial] using first
  obtain ⟨-, -, ⟨empty, -⟩ | ⟨kept, second, agrees⟩, uncounted⟩ :=
    text_agrees_with_priorities plain built run serving
  · exact absurd empty listed
  obtain rfl : " A\n" = kept := by simpa [given] using second
  exact ⟨text, denotes, given, agrees, uncounted (List.any_eq_true.mp installs)⟩

end SlotDispatch
