import SlotDispatch.Proofs.Grammar

/-!
The text of a priority list as a normal form. Whatever is read is legible, since it was spelled
out between commas (`legible_of_parsePriorities`), so what is written of it denotes it again:
reading and writing a text once more changes nothing (`rewritten_of_rewritten`). The lists that
are read back from their own texts are exactly those that can be read at all.
-/

namespace SlotDispatch

open Text

/-- An entry that is spelled without a comma is legible. -/
theorem Spelled.legible {text : List Char} {entry : Preference} (spelled : Spelled text entry)
    (undivided : ',' ∉ text) : entry.Legible := by
  cases spelled with
  | @named before name after start solid unopened unclosed finish =>
      have apart : ',' ∉ name := fun mem =>
        undivided (List.mem_append_left _ (List.mem_append_right _ mem))
      refine ⟨?_, ?_, ?_, ?_, fun _ => ?_⟩
      · exact fun empty => solid.ne_nil (by simpa using empty)
      · simpa using solid.trim_eq
      · simpa using apart
      · simpa using unopened
      · simpa using unclosed
  | @counted before name gap left numeral right after count start solid unopened =>
      have apart : ',' ∉ name := fun mem => undivided (by simp [mem])
      refine ⟨?_, ?_, ?_, ?_, fun none => by cases none⟩
      · exact fun empty => solid.ne_nil (by simpa using empty)
      · simpa using solid.trim_eq
      · simpa using apart
      · simpa using unopened

/-- A list that is read is not empty, and its entries are legible. -/
theorem legible_of_parsePriorities {text : String} {entries : List Preference}
    (read : parsePriorities text = .ok entries) :
    entries ≠ [] ∧ ∀ entry ∈ entries, entry.Legible := by
  by_cases blank : Blanks text.toList
  · rw [parsePriorities_of_blanks blank] at read
    cases read
  · have spelled := (parsePriorities_eq_ok_iff blank entries).mp read
    constructor
    · rintro rfl
      generalize divided : segments text.toList = parts at spelled
      cases spelled
      exact segments_ne_nil _ divided
    · have undivided : ∀ part ∈ segments text.toList, ',' ∉ part :=
        fun part mem => comma_not_mem_of_mem_segments mem
      clear read
      generalize segments text.toList = parts at spelled undivided
      induction spelled with
      | nil => simp
      | cons here _ ih =>
          intro entry mem
          rcases List.mem_cons.mp mem with rfl | mem
          · exact here.legible (undivided _ List.mem_cons_self)
          · exact ih (fun part there => undivided part (List.mem_cons_of_mem _ there)) entry mem

/-- The text of a priority list, read and written anew. -/
def rewritten (text : String) : Except DispatchError String :=
  (parsePriorities text).map prioritiesText

/-- A list that is read is read back from what is written of it. -/
theorem parsePriorities_text_of_read {text : String} {entries : List Preference}
    (read : parsePriorities text = .ok entries) :
    parsePriorities (prioritiesText entries) = .ok entries := by
  obtain ⟨some, legible⟩ := legible_of_parsePriorities read
  exact parsePriorities_text some legible

/-- What was written anew stays as it is when it is written anew. -/
theorem rewritten_of_rewritten {text normal : String} (written : rewritten text = .ok normal) :
    rewritten normal = .ok normal := by
  unfold rewritten at written ⊢
  cases read : parsePriorities text with
  | error error =>
      rw [read] at written
      cases written
  | ok entries =>
      rw [read] at written
      obtain rfl := Except.ok.inj written
      rw [parsePriorities_text_of_read read]
      rfl

/-- Writing and reading of priority lists are inverse. A list is read back from its text exactly
if it is not empty and every entry is legible: its name is not empty, has no blanks at its ends,
holds no comma and no opening parenthesis, and without a count no closing one. Every list that
is read from any text is such a list, so it is read back from its own text, which is a normal
form. -/
theorem writing_and_reading_are_inverse (entries : List Preference) (text : String) :
    (parsePriorities (prioritiesText entries) = .ok entries
        ↔ entries ≠ [] ∧ ∀ entry ∈ entries, entry.Legible)
      ∧ (parsePriorities text = .ok entries →
        (entries ≠ [] ∧ ∀ entry ∈ entries, entry.Legible)
          ∧ parsePriorities (prioritiesText entries) = .ok entries)
      ∧ ∀ normal, rewritten text = .ok normal → rewritten normal = .ok normal := by
  refine ⟨⟨legible_of_parsePriorities, fun whole => parsePriorities_text whole.1 whole.2⟩,
    fun read => ⟨legible_of_parsePriorities read, parsePriorities_text_of_read read⟩,
    fun normal => rewritten_of_rewritten⟩

/-- Blanks, a plus sign and leading zeros are gone after the first writing. -/
example : rewritten " GPU ( +004 ),\tCPU " = .ok "GPU(4),CPU" := by
  decide +kernel

end SlotDispatch
