import Mathlib.Data.List.Duplicate
import SlotDispatch.Proofs.Agreement
import SlotDispatch.Proofs.Extent
import SlotDispatch.Proofs.Grammar

/-!
Which priority lists are installed. A list is installable if the dispatcher serves, no entry
asks for a number of slots, no device is named twice, and every device named is known. What is
installable is installed, in one step with its text, and scheduling follows; anything else is
refused with nothing changed, and the error says what is wrong (`State.setPriorities_cases`).

Counts and repetitions are looked for before it is asked whether the dispatcher serves. After the
end a list with such a fault is therefore refused for its fault
(`faults_are_reported_after_the_end`).
-/

namespace SlotDispatch

/-! ### Faults of a list -/

/-- What is wrong with a priority list over known devices, and the error that tells it. -/
inductive Fault (known : List String) (entries : List Preference) : DispatchError → Prop
  /-- An entry asks for a number of slots. -/
  | counted {entry : Preference} : entry ∈ entries → entry.count ≠ none →
      Fault known entries (.slotCountChange entry.name)
  /-- A device is named twice. -/
  | repeated {name : String} : List.Duplicate name (entries.map Preference.name) →
      Fault known entries (.duplicateDevice name)
  /-- A device that is named is not known. -/
  | unknown {entry : Preference} : entry ∈ entries → entry.name ∉ known →
      Fault known entries (.unknownDevice entry.name)

section Checks

variable {known : List String} {entries : List Preference} {error : DispatchError}

theorem Fault.isConfigRejection (fault : Fault known entries error) :
    error.isConfigRejection = true := by
  cases fault <;> rfl

theorem checkUncounted_cases (known : List String) (entries : List Preference) :
    checkUncounted entries = .ok () ∧ (∀ entry ∈ entries, entry.count = none)
      ∨ ∃ error, checkUncounted entries = .error error ∧ Fault known entries error
        ∧ ∃ entry ∈ entries, entry.count ≠ none := by
  unfold checkUncounted
  split
  · next entry found =>
      have mem := List.mem_of_find?_eq_some found
      have counted : entry.count ≠ none := by
        simpa [Option.isSome_iff_ne_none] using List.find?_some found
      exact .inr ⟨_, rfl, .counted mem counted, entry, mem, counted⟩
  · next none =>
      refine .inl ⟨rfl, fun entry mem => ?_⟩
      simpa using List.find?_eq_none.mp none entry mem

theorem firstRepeated_go_eq_some {seen names : List String} {name : String}
    (found : firstRepeated.go seen names = some name) :
    name ∈ names ∧ (name ∈ seen ∨ List.Duplicate name names) := by
  induction names generalizing seen with
  | nil => cases found
  | cons first rest ih =>
      simp only [firstRepeated.go] at found
      split at found
      · next old =>
          obtain rfl := Option.some.inj found
          exact ⟨List.mem_cons_self, .inl old⟩
      · obtain ⟨mem, old | twice⟩ := ih found
        · refine ⟨List.mem_cons_of_mem _ mem, ?_⟩
          rcases List.mem_cons.mp old with rfl | old
          · exact .inr mem.duplicate_cons_self
          · exact .inl old
        · exact ⟨List.mem_cons_of_mem _ mem, .inr (twice.duplicate_cons first)⟩

theorem checkDistinct_cases (known : List String) (entries : List Preference) :
    checkDistinct (entries.map Preference.name) = .ok () ∧ (entries.map Preference.name).Nodup
      ∨ ∃ error, checkDistinct (entries.map Preference.name) = .error error
        ∧ Fault known entries error ∧ ¬ (entries.map Preference.name).Nodup := by
  cases checked : checkDistinct (entries.map Preference.name) with
  | ok => exact .inl ⟨rfl, nodup_of_checkDistinct checked⟩
  | error error =>
      simp only [checkDistinct] at checked
      split at checked
      · next name found =>
          obtain rfl := Except.error.inj checked
          obtain ⟨-, none | twice⟩ := firstRepeated_go_eq_some found
          · cases none
          · exact .inr ⟨_, rfl, .repeated twice, fun distinct => twice.not_nodup distinct⟩
      · cases checked

theorem checkKnown_cases (known : List String) (entries : List Preference) :
    checkKnown known entries = .ok () ∧ (∀ entry ∈ entries, entry.name ∈ known)
      ∨ ∃ error, checkKnown known entries = .error error ∧ Fault known entries error
        ∧ ∃ entry ∈ entries, entry.name ∉ known := by
  unfold checkKnown
  split
  · next entry found =>
      have mem := List.mem_of_find?_eq_some found
      have missing : entry.name ∉ known := by simpa using List.find?_some found
      exact .inr ⟨_, rfl, .unknown mem missing, entry, mem, missing⟩
  · next none =>
      refine .inl ⟨rfl, fun entry mem => ?_⟩
      simpa using List.find?_eq_none.mp none entry mem

end Checks

/-! ### What is installed -/

/-- A priority list that can be installed. -/
structure State.Installable (s : State) (entries : List Preference) : Prop where
  serving : s.serving = true
  uncounted : ∀ entry ∈ entries, entry.count = none
  distinct : (entries.map Preference.name).Nodup
  known : ∀ entry ∈ entries, entry.name ∈ s.deviceNames

/-- The state with a list installed, and the text stored for it. -/
def State.installed (s : State) (entries : List Preference) (text : String) : State :=
  { s with priorities := entries, configText := text }

/-- The list that an action asks to be installed, and the text that it gives for it: that of a
priority list is written anew, that of a configuration kept. -/
inductive Action.Asks : Action → List Preference → String → Prop
  | list (entries : List Preference) :
      Asks (.setPriorities entries) entries (prioritiesText entries)
  | config {value : String} {entries : List Preference} :
      parsePriorities value = .ok entries → Asks (.setConfig [(prioritiesKey, value)]) entries value

/-- Whether an action sets the priority list. -/
def Action.isReconfiguration : Action → Bool
  | .setPriorities _ | .setConfig _ => true
  | _ => false

section Installed

variable {s : State} {entries : List Preference} {action : Action}

/-- A list that is installable is installed; any other is refused, after the end or for a fault
that it has. Only a list without counts or repetitions is refused for the end. -/
theorem State.setPriorities_cases (s : State) (entries : List Preference) (text : String) :
    s.Installable entries ∧ s.setPriorities entries text = .ok (s.installed entries text)
      ∨ ¬ s.Installable entries ∧ ∃ error, s.setPriorities entries text = .error error
        ∧ (error = .terminated ∧ s.serving = false ∧ (∀ entry ∈ entries, entry.count = none)
            ∧ (entries.map Preference.name).Nodup
          ∨ Fault s.deviceNames entries error
            ∧ (s.serving = false → (∃ entry ∈ entries, entry.count ≠ none)
              ∨ ¬ (entries.map Preference.name).Nodup)) := by
  unfold setPriorities
  rcases checkUncounted_cases s.deviceNames entries with
    ⟨passed, uncounted⟩ | ⟨error, failed, fault, entry, mem, counted⟩
  · rw [passed]
    rcases checkDistinct_cases s.deviceNames entries with
      ⟨passed, distinct⟩ | ⟨error, failed, fault, twice⟩
    · rw [passed]
      cases serving : s.serving with
      | false =>
          refine .inr ⟨fun legal => ?_, _, rfl, .inl ⟨rfl, rfl, uncounted, distinct⟩⟩
          cases serving.symm.trans legal.serving
      | true =>
          rcases checkKnown_cases s.deviceNames entries with
            ⟨passed, known⟩ | ⟨error, failed, fault, entry, mem, missing⟩
          · refine .inl ⟨⟨serving, uncounted, distinct, known⟩, ?_⟩
            simp only [if_true, show s.devices.map Device.name = s.deviceNames from rfl, passed]
            rfl
          · refine .inr ⟨fun legal => missing (legal.known entry mem), error, ?_,
              .inr ⟨fault, nofun⟩⟩
            simp only [if_true, show s.devices.map Device.name = s.deviceNames from rfl, failed]
    · rw [failed]
      exact .inr ⟨fun legal => twice legal.distinct, error, rfl, .inr ⟨fault, fun _ => .inr twice⟩⟩
  · rw [failed]
    exact .inr ⟨fun legal => counted (legal.uncounted entry mem), error, rfl,
      .inr ⟨fault, fun _ => .inl ⟨entry, mem, counted⟩⟩⟩

/-- A reconfiguration does nothing but set the list that it asks for. -/
theorem Action.Asks.act {text : String} (asks : action.Asks entries text)
    (there : s.phase ≠ .dropped) (scope : Option Scope) :
    s.act scope action = s.reconfigured (s.setPriorities entries text) := by
  cases asks with
  | list => simp [State.act, Move.onDispatcher, there]
  | config read => simp [State.act, Move.onDispatcher, there, State.setConfig, read]

/-- A configuration that asks for no list is refused. -/
theorem Action.refused_of_not_asks (reconfigures : action.isReconfiguration = true)
    (none : ¬ ∃ entries text, action.Asks entries text) (there : s.phase ≠ .dropped)
    (scope : Option Scope) : ∃ error : DispatchError,
      s.act scope action = .answer s (.rejected error) ∧ error.isConfigRejection = true := by
  cases action with
  | setPriorities entries => exact absurd ⟨entries, _, .list entries⟩ none
  | setConfig config =>
      have only : State.onlyPriorities.isConfigRejection = true := rfl
      simp only [State.act, Move.onDispatcher, there, if_false, State.setConfig]
      split
      · next key value =>
          split
          · next same =>
              subst same
              cases read : parsePriorities value with
              | error error =>
                  obtain ⟨quoted, cause, rfl⟩ := exists_of_parsePriorities_eq_error read
                  exact ⟨_, rfl, rfl⟩
              | ok entries => exact absurd ⟨entries, value, .config read⟩ none
          · exact ⟨_, rfl, only⟩
      · exact ⟨_, rfl, only⟩
  | _ => cases reconfigures

end Installed

/-! ### Runs -/

section Runs

variable {backends : List Backend} {priorities : List Preference} {s : State}
  {past : List Moment} {now : Moment}

/-- A dispatcher that was just built has the devices that it was built over. -/
theorem State.deviceNames_of_construct
    (built : (construct backends priorities).result = .ok s) (name : String) :
    name ∈ s.deviceNames ↔ name ∈ backends.map Backend.name := by
  obtain ⟨_, -, built⟩ := Trial.andThen_ok built
  obtain ⟨configured, found, built⟩ := Trial.andThen_ok built
  obtain rfl : State.ofConfigured configured priorities = s := by simpa using built
  have perm : (configured.map Prod.fst).Perm backends := by
    rw [configureAll_backends found]
    exact byName_perm backends
  have names : (State.ofConfigured configured priorities).deviceNames
      = (configured.map Prod.fst).map Backend.name := by
    simp only [State.deviceNames, State.ofConfigured, List.map_map]
    rfl
  rw [names]
  exact (perm.map Backend.name).mem_iff

/-- No run adds a device or takes one away. -/
theorem Run.deviceNames_iff (built : (construct backends priorities).result = .ok s)
    (run : Run (.initial s) past now) (name : String) :
    name ∈ now.state.deviceNames ↔ name ∈ backends.map Backend.name := by
  induction run with
  | start => exact State.deviceNames_of_construct built name
  | next run step ih =>
      rw [step.keeps_devices]
      exact ih

/-- A list that is installed is followed by scheduling, and accepted when that has returned. -/
theorem Run.reconfiguration {t : State} {scope : Option Scope} {action : Action}
    {frames : List Frame} {entries : List Preference} {text : String}
    (built : (construct backends priorities).result = .ok s)
    (run : Run (.initial s) past ⟨t, ⟨.call (.act scope action), frames⟩⟩)
    (asks : action.Asks entries text) (legal : t.Installable entries) :
    Moment.Step ⟨t, ⟨.call (.act scope action), frames⟩⟩
        ⟨t.installed entries text, ⟨.call .schedule, .answer .accepted :: frames⟩⟩
      ∧ ∃ passed signal last,
        Moment.Extent ⟨t, ⟨.call (.act scope action), frames⟩⟩ frames passed signal last
          ∧ (signal = .returned .accepted ∨ ∃ message, signal = .panicked message) := by
  have there := State.phase_of_serving legal.serving
  have installs : t.setPriorities entries text = .ok (t.installed entries text) := by
    rcases t.setPriorities_cases entries text with ⟨-, installs⟩ | ⟨illegal, -⟩
    · exact installs
    · exact absurd legal illegal
  have step := Moment.Step.call t (.act scope action) frames
  rw [Call.step, asks.act there, installs] at step
  refine ⟨step, ?_⟩
  obtain ⟨passed, signal, last, extent⟩ :=
    (run.next step).extent built (Moment.above_of_call (.answer .accepted :: frames))
  have whole {signal : Signal} {v : State}
      (resumes : (Frame.answer .accepted).resume last.state _ = .signal v signal) :=
    (extent.resume resumes).cons (Moment.above_of_call frames) step
  rcases extent.settled [] rfl rfl with ⟨result, rfl⟩ | ⟨message, rfl⟩
  · exact ⟨_, _, _, whole rfl, .inl rfl⟩
  · exact ⟨_, _, _, whole rfl, .inr ⟨message, rfl⟩⟩

end Runs

/-! ### The laws -/

/-- A reconfiguration is accepted exactly if it is legal, and is all or nothing. Wherever in a
run a priority list or a configuration is set while there is a dispatcher: if it asks for a list
that is installable, list and text are replaced together and nothing else is, scheduling follows,
and the change is accepted unless a panic escapes from that; a configuration differs in nothing
but the text, which is stored as given. Otherwise it is refused at once, in the same state, either
because the dispatcher was shut down or with an error that rejects a change of configuration. The
devices known are those that the dispatcher was built over. -/
theorem reconfiguration_is_all_or_nothing {backends : List Backend}
    {priorities : List Preference} {s : State} {past : List Moment} {now : Moment}
    {scope : Option Scope} {action : Action} {frames : List Frame}
    (built : (construct backends priorities).result = .ok s) (run : Run (.initial s) past now)
    (thread : now.thread = ⟨.call (.act scope action), frames⟩)
    (reconfigures : action.isReconfiguration = true) (there : now.state.phase ≠ .dropped) :
    (∀ name, name ∈ now.state.deviceNames ↔ name ∈ backends.map Backend.name)
      ∧ (∀ entries text, action.Asks entries text → now.state.Installable entries →
        now.Step ⟨now.state.installed entries text,
            ⟨.call .schedule, .answer .accepted :: frames⟩⟩
          ∧ ∃ passed signal last, now.Extent frames passed signal last
            ∧ (signal = .returned .accepted ∨ ∃ message, signal = .panicked message))
      ∧ ((∀ entries text, action.Asks entries text → ¬ now.state.Installable entries) →
        ∃ error : DispatchError,
          now.Extent frames [now] (.returned (.rejected error))
              ⟨now.state, ⟨.signal (.returned (.rejected error)), frames⟩⟩
            ∧ (error = .terminated ∧ now.state.serving = false
              ∨ error.isConfigRejection = true)) := by
  obtain ⟨t, control⟩ := now
  obtain rfl : control = ⟨.call (.act scope action), frames⟩ := thread
  refine ⟨run.deviceNames_iff built,
    fun entries text asks legal => run.reconfiguration built asks legal, fun illegal => ?_⟩
  have refused {error : DispatchError} (acts : t.act scope action = .answer t (.rejected error)) :
      Moment.Extent ⟨t, ⟨.call (.act scope action), frames⟩⟩ frames
        [⟨t, ⟨.call (.act scope action), frames⟩⟩] (.returned (.rejected error))
        ⟨t, ⟨.signal (.returned (.rejected error)), frames⟩⟩ := by
    have step := Moment.Step.call t (.act scope action) frames
    rw [Call.step, acts] at step
    refine ⟨.single step, fun m mem => ?_, rfl⟩
    rw [List.mem_singleton.mp mem]
    exact Moment.above_of_call frames
  by_cases asks : ∃ entries text, action.Asks entries text
  · obtain ⟨entries, text, asks⟩ := asks
    have acts := asks.act there scope
    rcases t.setPriorities_cases entries text with ⟨legal, -⟩ | ⟨-, error, failed, why⟩
    · exact absurd legal (illegal entries text asks)
    · rw [failed] at acts
      refine ⟨error, refused acts, why.imp (fun ended => ⟨ended.1, ended.2.1⟩) fun fault => ?_⟩
      exact fault.1.isConfigRejection
  · obtain ⟨error, acts, rejects⟩ := Action.refused_of_not_asks reconfigures asks there scope
    exact ⟨error, refused acts, .inr rejects⟩

/-- One device: a configuration whose text has blanks in it is legal, and a list that names
another device besides is not. -/
theorem reconfiguration_is_all_or_nothing_single :
    let s := State.single ⟨.manual, .ok, none⟩
    let legal : Moment := ⟨s, .ofCall (.act none (.setConfig [(prioritiesKey, " A\n")]))⟩
    let illegal : Moment := ⟨s, .ofCall (.act none (.setPriorities [⟨"A", none⟩, ⟨"B", none⟩]))⟩
    s.Installable [⟨"A", none⟩]
      ∧ legal.Step ⟨s.installed [⟨"A", none⟩] " A\n", ⟨.call .schedule, [.answer .accepted]⟩⟩
      ∧ ¬ s.Installable [⟨"A", none⟩, ⟨"B", none⟩]
      ∧ ∃ error : DispatchError, illegal.Extent [] [illegal] (.returned (.rejected error))
          ⟨s, ⟨.signal (.returned (.rejected error)), []⟩⟩
        ∧ error.isConfigRejection = true := by
  intro s legal illegal
  have there : s.phase ≠ .dropped := by decide
  have installable : s.Installable [⟨"A", none⟩] :=
    ⟨by decide, by decide, by decide, by decide⟩
  have missing : ¬ s.Installable [⟨"A", none⟩, ⟨"B", none⟩] := by
    intro installable
    have known := installable.known ⟨"B", none⟩ (by simp)
    revert known
    decide
  have asks : Action.Asks (.setConfig [(prioritiesKey, " A\n")]) [⟨"A", none⟩] " A\n" :=
    .config (by decide +kernel)
  have begins (action : Action) : Run (.initial s) [.initial s] ⟨s, .ofCall (.act none action)⟩ :=
    .single (.begin s (.returned .done) action)
  obtain ⟨-, accepted, -⟩ := reconfiguration_is_all_or_nothing (State.construct_single _)
    (begins (.setConfig [(prioritiesKey, " A\n")])) rfl rfl there
  obtain ⟨-, -, refused⟩ := reconfiguration_is_all_or_nothing (State.construct_single _)
    (begins (.setPriorities [⟨"A", none⟩, ⟨"B", none⟩])) rfl rfl there
  obtain ⟨error, extent, why⟩ := refused (by
    rintro entries text ⟨⟩
    exact missing)
  refine ⟨installable, (accepted _ _ asks installable).1, missing, error, extent, ?_⟩
  rcases why with ⟨-, ended⟩ | rejects
  · cases ended
  · exact rejects

/-- After the end nothing is listed, and a reconfiguration that asks for a list is refused in the
same state: for a fault that the list has if it asks for a number of slots or names a device
twice, and otherwise because the dispatcher was shut down. -/
theorem reconfiguration_is_refused_after_the_end {backends : List Backend}
    {priorities : List Preference} {s : State} {past : List Moment} {now : Moment}
    {scope : Option Scope} {action : Action} {frames : List Frame} {entries : List Preference}
    {text : String} (built : (construct backends priorities).result = .ok s)
    (run : Run (.initial s) past now)
    (thread : now.thread = ⟨.call (.act scope action), frames⟩)
    (asks : action.Asks entries text) (there : now.state.phase ≠ .dropped)
    (terminated : now.state.serving = false) :
    now.state.priorities = [] ∧ ∃ error,
      now.Step ⟨now.state, ⟨.signal (.returned (.rejected error)), frames⟩⟩
        ∧ ((∀ entry ∈ entries, entry.count = none) ∧ (entries.map Preference.name).Nodup →
          error = .terminated)
        ∧ (¬ ((∀ entry ∈ entries, entry.count = none) ∧ (entries.map Preference.name).Nodup) →
          Fault now.state.deviceNames entries error) := by
  refine ⟨(run.closed_of_terminated built terminated).1.unlisted, ?_⟩
  obtain ⟨t, control⟩ := now
  obtain rfl : control = ⟨.call (.act scope action), frames⟩ := thread
  have ended : t.serving = false := terminated
  rcases t.setPriorities_cases entries text with ⟨legal, -⟩ | ⟨-, error, failed, why⟩
  · cases ended.symm.trans legal.serving
  · have step := Moment.Step.call t (.act scope action) frames
    rw [Call.step, asks.act there, failed] at step
    refine ⟨error, step, ?_, ?_⟩
    · rintro ⟨uncounted, distinct⟩
      rcases why with ⟨same, -⟩ | ⟨-, faulty⟩
      · exact same
      · rcases faulty ended with ⟨entry, mem, counted⟩ | twice
        · exact absurd (uncounted entry mem) counted
        · exact absurd distinct twice
    · intro faulty
      rcases why with ⟨-, -, uncounted, distinct⟩ | ⟨fault, -⟩
      · exact absurd ⟨uncounted, distinct⟩ faulty
      · exact fault

/-- One device, after a shutdown: a list that names another device is refused for the end, and
one that asks for a number of slots for that. -/
theorem reconfiguration_is_refused_after_the_end_single :
    let s := ((State.single ⟨.manual, .ok, none⟩).runCall (.act none .shutdown)).1
    let m (action : Action) : Moment := ⟨s, .ofCall (.act none action)⟩
    s.serving = false
      ∧ (m (.setPriorities [⟨"B", none⟩])).Step
        ⟨s, ⟨.signal (.returned (.rejected .terminated)), []⟩⟩
      ∧ ∃ error, (m (.setPriorities [⟨"A", some 1⟩])).Step
          ⟨s, ⟨.signal (.returned (.rejected error)), []⟩⟩
        ∧ Fault s.deviceNames [⟨"A", some 1⟩] error := by
  intro s m
  have run : Run (.initial (State.single ⟨.manual, .ok, none⟩)) _
      ⟨s, ⟨.signal (.returned .done), []⟩⟩ :=
    Run.operation 2 (State.single ⟨.manual, .ok, none⟩) (.returned .done) .shutdown
  have ended : s.serving = false := rfl
  have there : s.phase ≠ .dropped := by decide +kernel
  obtain ⟨-, error, step, sound, -⟩ := reconfiguration_is_refused_after_the_end
    (State.construct_single _) (run.next (.begin s _ (.setPriorities [⟨"B", none⟩]))) rfl
    (.list _) there ended
  obtain rfl := sound ⟨by decide, by decide⟩
  obtain ⟨-, error, counted, -, faulty⟩ := reconfiguration_is_refused_after_the_end
    (State.construct_single _) (run.next (.begin s _ (.setPriorities [⟨"A", some 1⟩]))) rfl
    (.list _) there ended
  refine ⟨ended, step, error, counted, faulty fun sound => ?_⟩
  exact absurd (sound.1 _ List.mem_cons_self) (by decide)

/-- A list that asks for a number of slots, or names a device twice, is refused for that even
after the dispatcher was shut down. -/
theorem faults_are_reported_after_the_end :
    let s := ((State.single ⟨.manual, .ok, none⟩).runCall (.act none .shutdown)).1
    let answer (action : Action) := (s.runCall (.act none action)).2
    s.serving = false
      ∧ answer (.setPriorities [⟨"A", none⟩]) = some (.returned (.rejected .terminated))
      ∧ answer (.setPriorities [⟨"A", some 1⟩])
        = some (.returned (.rejected (.slotCountChange "A")))
      ∧ answer (.setPriorities [⟨"A", none⟩, ⟨"A", none⟩])
        = some (.returned (.rejected (.duplicateDevice "A")))
      ∧ answer (.setConfig [(prioritiesKey, "A(1)")])
        = some (.returned (.rejected (.slotCountChange "A"))) := by
  decide +kernel

end SlotDispatch
