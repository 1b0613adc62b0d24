import Mathlib.Data.List.TakeWhile
import SlotDispatch.Priority.Parser

/-!
Reading a priority list back. An entry is legible if its name survives the reader: it is not
empty, has no blanks at its ends, and holds none of the characters that the reader divides
texts at. The text of an entry that is legible denotes it (`Preference.parse_text`), and so
does the text of a list of them that is not empty (`parsePriorities_text`).
-/

namespace SlotDispatch

/-! ### Blanks at the ends -/

namespace Text

theorem trimStart_eq_self_iff {text : List Char} :
    trimStart text = text ↔ ∀ c, text.head? = some c → isBlank c = false := by
  cases text with
  | nil => simp [trimStart]
  | cons c rest => simp [trimStart, List.dropWhile_eq_self_iff]

theorem trimEnd_eq_self_iff {text : List Char} :
    trimEnd text = text ↔ ∀ c, text.getLast? = some c → isBlank c = false := by
  have reversed := @trimStart_eq_self_iff text.reverse
  rw [List.head?_reverse] at reversed
  rw [← reversed, trimEnd, trimStart, ← List.reverse_inj, List.reverse_reverse]

/-- A text is trimmed if it neither begins nor ends with a blank. -/
theorem trim_eq_self_iff {text : List Char} :
    trim text = text ↔
      (∀ c, text.head? = some c → isBlank c = false)
        ∧ ∀ c, text.getLast? = some c → isBlank c = false := by
  rw [← trimStart_eq_self_iff, ← trimEnd_eq_self_iff]
  constructor
  · intro same
    have shorter : (trimStart text).length ≤ text.length := List.length_dropWhile_le _ _
    have shortest : (trim text).length ≤ (trimStart text).length := by
      simpa [trim, trimEnd] using List.length_dropWhile_le isBlank (trimStart text).reverse
    rw [same] at shortest
    have start : trimStart text = text :=
      (List.dropWhile_suffix isBlank).eq_of_length (Nat.le_antisymm shorter shortest)
    rw [trim, start] at same
    exact ⟨start, same⟩
  · rintro ⟨start, finish⟩
    rw [trim, start, finish]

/-- The digits of a count are neither blank nor a sign that a reader looks for. -/
theorem isDigit_of_mem_countText {count : UInt64} {c : Char}
    (mem : c ∈ (countText count).toList) : c.isDigit = true := by
  rw [countText, Nat.repr, String.toList_ofList] at mem
  exact Nat.isDigit_of_mem_toDigits (by decide) (by decide) mem

theorem not_isBlank_of_isDigit {c : Char} (digit : c.isDigit = true) : isBlank c = false := by
  simp only [Char.isDigit, Bool.and_eq_true, decide_eq_true_eq, UInt32.le_iff_toNat_le] at digit
  have low : 48 ≤ c.toNat := digit.1
  have high : c.toNat ≤ 57 := digit.2
  simp only [isBlank, inRanges, blankRanges, List.any_cons, List.any_nil, Bool.or_false,
    Bool.or_eq_false_iff, Bool.and_eq_false_iff, decide_eq_false_iff_not]
  omega

theorem trim_countText (count : UInt64) :
    trim (countText count).toList = (countText count).toList :=
  trim_eq_self_iff.mpr
    ⟨fun _ first => not_isBlank_of_isDigit (isDigit_of_mem_countText (List.mem_of_head? first)),
      fun _ last => not_isBlank_of_isDigit (isDigit_of_mem_countText (List.mem_of_getLast? last))⟩

end Text

/-! ### Segments -/

theorem segments_of_comma_not_mem {text : List Char} (undivided : ',' ∉ text) :
    segments text = [text] := by
  induction text with
  | nil => rfl
  | cons c rest ih =>
      rw [List.mem_cons, not_or] at undivided
      rw [segments, if_neg (Ne.symm undivided.1), ih undivided.2]

theorem segments_append_comma {text : List Char} (undivided : ',' ∉ text) (rest : List Char) :
    segments (text ++ ',' :: rest) = text :: segments rest := by
  induction text with
  | nil => simp [segments]
  | cons c text ih =>
      rw [List.mem_cons, not_or] at undivided
      rw [List.cons_append, segments, if_neg (Ne.symm undivided.1), ih undivided.2]

/-- Texts without commas are the segments of what they make with commas between them. -/
theorem segments_intercalate {texts : List (List Char)} (some : texts ≠ [])
    (undivided : ∀ text ∈ texts, ',' ∉ text) : segments ([','].intercalate texts) = texts := by
  induction texts with
  | nil => exact absurd rfl some
  | cons text rest ih =>
      have here := undivided text List.mem_cons_self
      cases rest with
      | nil => simpa [List.intercalate] using segments_of_comma_not_mem here
      | cons other rest =>
          have later := ih (List.cons_ne_nil _ _) fun text mem =>
            undivided text (List.mem_cons_of_mem _ mem)
          rw [show [','].intercalate (text :: other :: rest)
              = text ++ ',' :: [','].intercalate (other :: rest) by simp [List.intercalate],
            segments_append_comma here, later]

/-! ### Entries -/

namespace Preference

/-- An entry whose text can be read back: the reader neither takes anything off its name nor
divides it. Where there is no count, a closing parenthesis would be taken for that of one. -/
structure Legible (entry : Preference) : Prop where
  nonempty : entry.name ≠ ""
  trimmed : Text.trim entry.name.toList = entry.name.toList
  undivided : ',' ∉ entry.name.toList
  unopened : '(' ∉ entry.name.toList
  unclosed : entry.count = none → ')' ∉ entry.name.toList

section Legible

variable {entry : Preference}

theorem Legible.toList_ne_nil (legible : entry.Legible) : entry.name.toList ≠ [] := by
  intro empty
  exact legible.nonempty (String.toList_eq_nil_iff.mp empty)

/-- The text of an entry begins as its name does, with no blank. -/
theorem Legible.exists_head (legible : entry.Legible) :
    ∃ c rest, entry.text.toList = c :: rest ∧ Text.isBlank c = false := by
  obtain ⟨c, rest, name⟩ := List.exists_cons_of_ne_nil legible.toList_ne_nil
  have apart := (Text.trim_eq_self_iff.mp legible.trimmed).1 c (by simp [name])
  simp only [text]
  split
  · exact ⟨c, rest, name, apart⟩
  · next count _ =>
      exact ⟨c, rest ++ '(' :: ((Text.countText count).toList ++ [')']), by simp [name], apart⟩

theorem Legible.comma_not_mem_text (legible : entry.Legible) : ',' ∉ entry.text.toList := by
  have undivided := legible.undivided
  simp only [text]
  split
  · exact undivided
  · intro mem
    simp only [String.toList_append, List.mem_append] at mem
    rcases mem with ((mem | mem) | mem) | mem
    · exact undivided mem
    · simp at mem
    · exact absurd (Text.isDigit_of_mem_countText mem) (by decide)
    · simp at mem

/-- A name by itself is read as an entry without a count. -/
theorem Legible.readTrimmed_name (legible : entry.Legible) (none : entry.count = none) :
    readTrimmed entry.name.toList = .ok entry := by
  have open' : entry.name.toList.dropWhile (· ≠ '(') = [] :=
    List.dropWhile_eq_nil_iff.mpr fun c mem => by
      simpa using fun same : c = '(' => legible.unopened (same ▸ mem)
  obtain ⟨name, count⟩ := entry
  obtain rfl : count = .none := none
  simp only [readTrimmed, open', if_neg (legible.unclosed rfl), named, List.isEmpty_iff,
    if_neg legible.toList_ne_nil, String.ofList_toList]

/-- A name and a count in parentheses are read as the entry made of them. -/
theorem Legible.readTrimmed_counted (legible : entry.Legible) {count : UInt64}
    (some : entry.count = some count) :
    readTrimmed (entry.name.toList ++ '(' :: ((Text.countText count).toList ++ [')']))
      = .ok entry := by
  have before : ∀ c ∈ entry.name.toList, (decide (c ≠ '(')) = true := fun c mem => by
    simpa using fun same : c = '(' => legible.unopened (same ▸ mem)
  have onward : (entry.name.toList ++ '(' :: ((Text.countText count).toList ++ [')'])).dropWhile
      (· ≠ '(') = '(' :: ((Text.countText count).toList ++ [')']) := by
    rw [List.dropWhile_append_of_pos before]
    simp
  have front : (entry.name.toList ++ '(' :: ((Text.countText count).toList ++ [')'])).takeWhile
      (· ≠ '(') = entry.name.toList := by
    rw [List.takeWhile_append_of_pos before]
    simp
  have suffix : readSuffix ((Text.countText count).toList ++ [')']) = .ok count := by
    simp [readSuffix, dropClosing?, Text.trim_countText, Text.readCount?_countText]
  have name : Text.trimEnd entry.name.toList = entry.name.toList :=
    Text.trimEnd_eq_self_iff.mpr (Text.trim_eq_self_iff.mp legible.trimmed).2
  simp only [readTrimmed, onward, suffix, front, name, named, List.isEmpty_iff,
    if_neg legible.toList_ne_nil, String.ofList_toList, ← some]

/-- The text of a legible entry denotes it. -/
theorem parse_text (legible : entry.Legible) : parse entry.text = .ok entry := by
  cases count : entry.count with
  | none =>
      have text : entry.text = entry.name := by simp [text, count]
      rw [parse, text, legible.trimmed, legible.readTrimmed_name count]
      rfl
  | some number =>
      have text : entry.text.toList
          = entry.name.toList ++ '(' :: ((Text.countText number).toList ++ [')']) := by
        simp [text, count]
      have trimmed : Text.trim entry.text.toList = entry.text.toList := by
        refine Text.trim_eq_self_iff.mpr ⟨?_, ?_⟩
        · obtain ⟨c, rest, shape, apart⟩ := legible.exists_head
          intro d first
          obtain rfl : c = d := by simpa [shape] using first
          exact apart
        · intro d last
          obtain rfl : ')' = d := by simpa [text, List.getLast?_cons] using last
          decide
      rw [parse, trimmed, text, legible.readTrimmed_counted count]
      rfl

end Legible

end Preference

/-! ### Lists -/

theorem mapM_parse_text {entries : List Preference}
    (legible : ∀ entry ∈ entries, entry.Legible) :
    (entries.map fun entry => entry.text.toList).mapM
        (fun segment => Preference.parse (String.ofList segment)) = .ok entries := by
  induction entries with
  | nil => rfl
  | cons entry rest ih =>
      have here := Preference.parse_text (legible entry List.mem_cons_self)
      have later := ih fun other mem => legible other (List.mem_cons_of_mem _ mem)
      rw [List.map_cons, List.mapM_cons, String.ofList_toList, here, later]
      rfl

/-- The text of a list of legible entries denotes it, unless the list is empty. -/
theorem parsePriorities_text {entries : List Preference} (some : entries ≠ [])
    (legible : ∀ entry ∈ entries, entry.Legible) :
    parsePriorities (prioritiesText entries) = .ok entries := by
  have text : (prioritiesText entries).toList
      = [','].intercalate (entries.map fun entry => entry.text.toList) := by
    simp [prioritiesText, Function.comp_def]
  have apart : (prioritiesText entries).toList.all Text.isBlank = false := by
    obtain ⟨entry, rest, rfl⟩ := List.exists_cons_of_ne_nil some
    obtain ⟨c, others, shape, visible⟩ := (legible entry List.mem_cons_self).exists_head
    rw [text, List.map_cons, shape]
    cases rest <;> simp [List.intercalate, visible]
  rw [parsePriorities, apart, if_neg Bool.false_ne_true, text,
    segments_intercalate (by simpa using some) (by
      intro segment mem
      obtain ⟨entry, there, rfl⟩ := List.mem_map.mp mem
      exact (legible entry there).comma_not_mem_text)]
  exact mapM_parse_text legible

/-- An entry with a count and one without. -/
example : parsePriorities (prioritiesText [⟨"CPU", some 2⟩, ⟨"GPU.0", none⟩])
    = .ok [⟨"CPU", some 2⟩, ⟨"GPU.0", none⟩] := by
  decide +kernel

end SlotDispatch
