import Mathlib.Data.List.Basic
import SlotDispatch.Proofs.RoundTrip

/-!
The texts that denote priority lists. `Spelled` says of a text which entry it spells, without a
word about how it is read: a name between blanks, or a name and a numeral in parentheses, with
blanks around each of them. An entry is read exactly if it is spelled like that, and what is
rejected is quoted (`Preference.parse_eq_ok_iff`, `Preference.parse_eq_error`). A list is read
segment by segment, up to the first that spells no entry.

The name of an entry with a count may hold a closing parenthesis, which that of an entry without
one may not (`closing_parenthesis_in_name`).
-/

namespace SlotDispatch

namespace Text

/-! ### Blanks around a text -/

/-- A text of nothing but blanks. -/
def Blanks (text : List Char) : Prop := ∀ c ∈ text, isBlank c = true

/-- A text that begins and ends with a character that is not blank. -/
structure Solid (text : List Char) : Prop where
  first : ∃ c, text.head? = some c ∧ isBlank c = false
  last : ∃ c, text.getLast? = some c ∧ isBlank c = false

section Blanks

variable {text before after : List Char}

theorem Solid.ne_nil (solid : Solid text) : text ≠ [] := by
  rintro rfl
  obtain ⟨c, none, -⟩ := solid.first
  cases none

theorem Solid.trim_eq (solid : Solid text) : trim text = text := by
  obtain ⟨c, first, start⟩ := solid.first
  obtain ⟨d, last, finish⟩ := solid.last
  refine trim_eq_self_iff.mpr ⟨fun e same => ?_, fun e same => ?_⟩
  · obtain rfl : c = e := Option.some.inj (first.symm.trans same)
    exact start
  · obtain rfl : d = e := Option.some.inj (last.symm.trans same)
    exact finish

/-- Blanks at the ends of a text are taken off, and nothing else is. -/
theorem trim_between (start : Blanks before) (solid : Solid text) (finish : Blanks after) :
    trim (before ++ text ++ after) = text := by
  obtain ⟨c, first, apart⟩ := solid.first
  obtain ⟨rest, rfl⟩ : ∃ rest, text = c :: rest := by
    cases text with
    | nil => cases first
    | cons d rest => exact ⟨rest, by simpa using first⟩
  have left : trimStart (before ++ (c :: rest ++ after)) = c :: rest ++ after := by
    rw [trimStart_blank_append start]
    simp [trimStart, apart]
  have right := trimEnd_append_blank finish (c :: rest)
  rw [List.append_assoc, trim, left, right]
  exact trimEnd_eq_self_iff.mpr (trim_eq_self_iff.mp solid.trim_eq).2

/-- What is taken off the end of a text is blank. -/
theorem exists_trimEnd_append_blank (text : List Char) :
    ∃ blank, Blanks blank ∧ text = trimEnd text ++ blank := by
  obtain ⟨blank, all, eq⟩ := exists_blank_append_trimStart text.reverse
  refine ⟨blank.reverse, fun c mem => all c (by simpa using mem), ?_⟩
  have reversed := congrArg List.reverse eq
  simpa [trimEnd, trimStart] using reversed

/-- What is left of a text does not end with a blank. -/
theorem not_isBlank_getLast?_trimEnd {c : Char} (last : (trimEnd text).getLast? = some c) :
    isBlank c = false := by
  rw [trimEnd, List.getLast?_reverse] at last
  have stopped := List.head?_dropWhile_not isBlank text.reverse
  rw [last] at stopped
  simpa using stopped

theorem not_isBlank_head?_trimStart {c : Char} (first : (trimStart text).head? = some c) :
    isBlank c = false := by
  have stopped := List.head?_dropWhile_not isBlank text
  rw [show (text.dropWhile isBlank).head? = some c from first] at stopped
  simpa using stopped

/-- A text is a solid one between blanks, or nothing is left of it. -/
theorem trim_eq_nil_or_solid (text : List Char) :
    trim text = [] ∧ Blanks text ∨ Solid (trim text) ∧ ∃ before after,
      Blanks before ∧ Blanks after ∧ text = before ++ trim text ++ after := by
  obtain ⟨before, start, eq⟩ := exists_blank_append_trimStart text
  obtain ⟨after, finish, eq'⟩ := exists_trimEnd_append_blank (trimStart text)
  have whole : text = before ++ trim text ++ after := by
    rw [List.append_assoc, trim, ← eq', ← eq]
  cases left : trim text with
  | nil =>
      refine .inl ⟨rfl, fun c mem => ?_⟩
      rw [whole, left, List.append_nil] at mem
      rcases List.mem_append.mp mem with mem | mem
      · exact start c mem
      · exact finish c mem
  | cons c rest =>
      refine .inr ⟨⟨⟨c, rfl, ?_⟩, ?_⟩, before, after, start, finish, left ▸ whole⟩
      · refine @not_isBlank_head?_trimStart text c ?_
        rw [eq', show trimEnd (trimStart text) = c :: rest from left]
        rfl
      · obtain ⟨d, last⟩ := Option.isSome_iff_exists.mp
          (List.getLast?_isSome.mpr (List.cons_ne_nil c rest))
        refine ⟨d, last, @not_isBlank_getLast?_trimEnd (trimStart text) d ?_⟩
        rw [show trimEnd (trimStart text) = c :: rest from left]
        exact last

end Blanks

/-! ### Numerals -/

/-- A text of decimal digits, at least one, that denote a count. -/
structure Digits (text : List Char) (count : UInt64) : Prop where
  nonempty : text ≠ []
  digits : ∀ c ∈ text, c.isDigit = true
  value : Nat.ofDigitChars 10 text 0 = count.toNat

/-- A numeral: digits, after a plus sign or not. -/
inductive Numeral : List Char → UInt64 → Prop
  | unsigned {text : List Char} {count : UInt64} : Digits text count → Numeral text count
  | signed {text : List Char} {count : UInt64} : Digits text count → Numeral ('+' :: text) count

section Numerals

variable {text : List Char} {count : UInt64}

theorem readDigits?_eq_some_iff : readDigits? text = some count ↔ Digits text count := by
  unfold readDigits?
  constructor
  · intro read
    split at read
    · cases read
    · next digits =>
        simp only [Bool.or_eq_true, List.isEmpty_iff, Bool.not_eq_true', not_or,
          Bool.not_eq_false, List.all_eq_true] at digits
        dsimp only at read
        split at read
        · obtain rfl := Option.some.inj read
          exact ⟨digits.1, digits.2, by simp⟩
        · cases read
  · rintro ⟨nonempty, digits, value⟩
    rw [if_neg (by simpa [nonempty] using digits)]
    have fits : Nat.ofDigitChars 10 text 0 < UInt64.size := value ▸ count.toNat_lt_size
    simp only [dif_pos fits, Option.some.injEq]
    exact UInt64.toNat_inj.mp (by simp [value])

/-- A count is read exactly from its numerals. -/
theorem readCount?_eq_some_iff : readCount? text = some count ↔ Numeral text count := by
  unfold readCount? dropPlus
  split
  · next rest =>
      rw [readDigits?_eq_some_iff]
      constructor
      · exact .signed
      · intro numeral
        cases numeral with
        | unsigned digits => exact absurd (digits.digits '+' List.mem_cons_self) (by decide)
        | signed digits => exact digits
  · next unsigned =>
      rw [readDigits?_eq_some_iff]
      constructor
      · exact .unsigned
      · intro numeral
        cases numeral with
        | unsigned digits => exact digits
        | signed digits => exact absurd rfl (unsigned _)

theorem Digits.solid (digits : Digits text count) : Solid text := by
  constructor
  · obtain ⟨c, first⟩ := Option.isSome_iff_exists.mp (List.isSome_head?.mpr digits.nonempty)
    exact ⟨c, first, not_isBlank_of_isDigit (digits.digits c (List.mem_of_head? first))⟩
  · obtain ⟨c, last⟩ := Option.isSome_iff_exists.mp (List.getLast?_isSome.mpr digits.nonempty)
    exact ⟨c, last, not_isBlank_of_isDigit (digits.digits c (List.mem_of_getLast? last))⟩

theorem Numeral.solid (numeral : Numeral text count) : Solid text := by
  cases numeral with
  | unsigned digits => exact digits.solid
  | @signed rest _ digits =>
      obtain ⟨c, last, apart⟩ := digits.solid.last
      refine ⟨⟨'+', rfl, by decide⟩, c, ?_, apart⟩
      rw [List.getLast?_cons, last]
      rfl

end Numerals

end Text

open Text

/-! ### Entries -/

/-- The entry that a text spells. A name is solid and holds no opening parenthesis; without a
count it holds no closing parenthesis either. -/
inductive Spelled : List Char → Preference → Prop
  | named {before name after : List Char} :
      Blanks before → Solid name → '(' ∉ name → ')' ∉ name → Blanks after →
      Spelled (before ++ name ++ after) ⟨String.ofList name, none⟩
  | counted {before name gap left numeral right after : List Char} {count : UInt64} :
      Blanks before → Solid name → '(' ∉ name → Blanks gap → Blanks left →
      Numeral numeral count → Blanks right → Blanks after →
      Spelled
        (before ++ (name ++ gap ++ '(' :: (left ++ numeral ++ right ++ [')'])) ++ after)
        ⟨String.ofList name, some count⟩

namespace Preference

section Entries

variable {text : List Char} {entry : Preference} {count : UInt64}

theorem dropClosing?_eq_some_iff {inner : List Char} :
    dropClosing? text = some inner ↔ text = inner ++ [')'] := by
  unfold dropClosing?
  constructor
  · intro closed
    split at closed
    · next last =>
        obtain rfl := Option.some.inj closed
        exact (List.dropLast_append_getLast? _ (Option.mem_def.mpr last)).symm
    · cases closed
  · rintro rfl
    simp

/-- A count in parentheses is read from a numeral between blanks. -/
theorem readSuffix_eq_ok_iff : readSuffix text = .ok count ↔ ∃ left numeral right,
    Blanks left ∧ Numeral numeral count ∧ Blanks right
      ∧ text = left ++ numeral ++ right ++ [')'] := by
  unfold readSuffix
  constructor
  · intro read
    split at read
    · cases read
    · next inner closed =>
        split at read
        · cases read
        · next number counted =>
            obtain rfl : number = count := by simpa using read
            have numeral := readCount?_eq_some_iff.mp counted
            rcases trim_eq_nil_or_solid inner with ⟨empty, -⟩ | ⟨-, left, right, start, finish, eq⟩
            · exact absurd empty numeral.solid.ne_nil
            · exact ⟨left, trim inner, right, start, numeral, finish, by
                rw [← eq, dropClosing?_eq_some_iff.mp closed]⟩
  · rintro ⟨left, numeral, right, start, counted, finish, rfl⟩
    rw [dropClosing?_eq_some_iff.mpr rfl]
    simp only [trim_between start counted.solid finish, readCount?_eq_some_iff.mpr counted]

theorem named_eq_ok_iff {name : List Char} {count : Option UInt64} :
    named name count = .ok entry ↔ name ≠ [] ∧ entry = ⟨String.ofList name, count⟩ := by
  unfold named
  cases name with
  | nil => simp
  | cons c rest => simp [eq_comm]

/-- A text divided at its first opening parenthesis. -/
theorem dropWhile_unopened {name : List Char} (unopened : '(' ∉ name) (suffix : List Char) :
    (name ++ '(' :: suffix).dropWhile (· ≠ '(') = '(' :: suffix
      ∧ (name ++ '(' :: suffix).takeWhile (· ≠ '(') = name := by
  have before : ∀ c ∈ name, (decide (c ≠ '(')) = true := fun c mem => by
    simpa using fun same : c = '(' => unopened (same ▸ mem)
  rw [List.dropWhile_append_of_pos before, List.takeWhile_append_of_pos before]
  simp

/-- What a text without blanks at its ends denotes. -/
theorem readTrimmed_eq_ok_iff (solid : Solid text) : readTrimmed text = .ok entry ↔
    ('(' ∉ text ∧ ')' ∉ text ∧ entry = ⟨String.ofList text, none⟩)
      ∨ ∃ name gap left numeral right count, Solid name ∧ '(' ∉ name ∧ Blanks gap ∧ Blanks left
        ∧ Numeral numeral count ∧ Blanks right
        ∧ text = name ++ gap ++ '(' :: (left ++ numeral ++ right ++ [')'])
        ∧ entry = ⟨String.ofList name, some count⟩ := by
  constructor
  · intro read
    unfold readTrimmed at read
    split at read
    · next unopened =>
        split at read
        · cases read
        · next unclosed =>
            refine .inl ⟨fun mem => ?_, unclosed, (named_eq_ok_iff.mp read).2⟩
            simpa using List.dropWhile_eq_nil_iff.mp unopened '(' mem
    · next c suffix opened =>
        split at read
        · cases read
        · next count counted =>
            obtain ⟨left, numeral, right, start, number, finish, rfl⟩ :=
              readSuffix_eq_ok_iff.mp counted
            obtain ⟨nonempty, rfl⟩ := named_eq_ok_iff.mp read
            obtain ⟨gap, blank, eq⟩ := exists_trimEnd_append_blank (text.takeWhile (· ≠ '('))
            have whole := List.takeWhile_append_dropWhile (p := (· ≠ '(')) (l := text)
            obtain rfl : c = '(' := by
              have stopped := List.head?_dropWhile_not (fun c => decide (c ≠ '(')) text
              rw [opened] at stopped
              simpa using stopped
            have unopened : '(' ∉ trimEnd (text.takeWhile (· ≠ '(')) := by
              intro mem
              have mem : '(' ∈ text.takeWhile (· ≠ '(') := eq ▸ List.mem_append_left _ mem
              simpa using List.mem_takeWhile_imp mem
            rw [opened, eq] at whole
            refine .inr ⟨_, gap, left, numeral, right, count, ⟨?_, ?_⟩, unopened, blank, start,
              number, finish, whole.symm, rfl⟩
            · obtain ⟨d, rest, front⟩ := List.exists_cons_of_ne_nil nonempty
              obtain ⟨e, first, apart⟩ := solid.first
              rw [← whole, front] at first
              exact ⟨e, by rw [front]; simpa using first, apart⟩
            · obtain ⟨d, last⟩ := Option.isSome_iff_exists.mp (List.getLast?_isSome.mpr nonempty)
              exact ⟨d, last, not_isBlank_getLast?_trimEnd last⟩
  · rintro (⟨unopened, unclosed, rfl⟩ | ⟨name, gap, left, numeral, right, count, entire, unopened,
      blank, start, number, finish, rfl, rfl⟩)
    · have opened : text.dropWhile (· ≠ '(') = [] := List.dropWhile_eq_nil_iff.mpr fun c mem => by
        simpa using fun same : c = '(' => unopened (same ▸ mem)
      simp only [readTrimmed, opened, if_neg unclosed]
      exact named_eq_ok_iff.mpr ⟨solid.ne_nil, rfl⟩
    · have front : '(' ∉ name ++ gap := by
        intro mem
        rcases List.mem_append.mp mem with mem | mem
        · exact unopened mem
        · exact absurd (blank '(' mem) (by decide)
      obtain ⟨opened, before⟩ := dropWhile_unopened front (left ++ numeral ++ right ++ [')'])
      have suffix := readSuffix_eq_ok_iff.mpr ⟨left, numeral, right, start, number, finish, rfl⟩
      simp only [readTrimmed, opened, before, suffix, trimEnd_append_blank blank]
      rw [trimEnd_eq_self_iff.mpr (trim_eq_self_iff.mp entire.trim_eq).2]
      exact named_eq_ok_iff.mpr ⟨entire.ne_nil, rfl⟩

/-- A name in front of a count in parentheses is solid, as is all of it. -/
theorem solid_counted {name : List Char} (solid : Solid name) (between : List Char) :
    Solid (name ++ between ++ [')']) := by
  obtain ⟨c, first, apart⟩ := solid.first
  refine ⟨⟨c, ?_, apart⟩, ')', by simp, by decide⟩
  rw [List.append_assoc, List.head?_append, first]
  rfl

/-- An entry is read exactly from the texts that spell it. -/
theorem parse_eq_ok_iff (text : String) (entry : Preference) :
    parse text = .ok entry ↔ Spelled text.toList entry := by
  have reads : parse text = .ok entry ↔ readTrimmed (trim text.toList) = .ok entry := by
    unfold parse
    cases readTrimmed (trim text.toList) <;> simp [Except.mapError]
  rw [reads]
  constructor
  · intro read
    rcases trim_eq_nil_or_solid text.toList with
      ⟨empty, -⟩ | ⟨solid, before, after, start, finish, eq⟩
    · rw [empty] at read
      cases read
    · rw [eq]
      rcases (readTrimmed_eq_ok_iff solid).mp read with
        ⟨unopened, unclosed, rfl⟩
        | ⟨name, gap, left, numeral, right, count, entire, unopened, blank, first, number, last,
          shape, rfl⟩
      · exact .named start solid unopened unclosed finish
      · rw [shape]
        exact .counted start entire unopened blank first number last finish
  · intro spelled
    generalize text.toList = chars at spelled
    cases spelled with
    | named start solid unopened unclosed finish =>
        rw [trim_between start solid finish]
        exact (readTrimmed_eq_ok_iff solid).mpr (.inl ⟨unopened, unclosed, rfl⟩)
    | @counted before name gap left numeral right after count start entire unopened blank first
        number last finish =>
        have solid : Solid (name ++ gap ++ '(' :: (left ++ numeral ++ right ++ [')'])) := by
          simpa using solid_counted entire (gap ++ '(' :: (left ++ numeral ++ right))
        rw [trim_between start solid finish]
        exact (readTrimmed_eq_ok_iff solid).mpr
          (.inr ⟨name, gap, left, numeral, right, count, entire, unopened, blank, first, number,
            last, rfl, rfl⟩)

/-- A text that is rejected is quoted as it was given. -/
theorem exists_of_parse_eq_error {text : String} {error : DispatchError}
    (rejected : parse text = .error error) :
    ∃ cause : Malformed, error = .invalidPriorities text cause.reason := by
  unfold parse at rejected
  cases read : readTrimmed (trim text.toList) with
  | error cause =>
      rw [read] at rejected
      exact ⟨cause, (Except.error.inj rejected).symm⟩
  | ok entry =>
      rw [read] at rejected
      cases rejected

/-- What spells no entry is rejected, and quoted. -/
theorem parse_of_not_spelled {text : String} (none : ∀ entry, ¬ Spelled text.toList entry) :
    ∃ cause : Malformed, parse text = .error (.invalidPriorities text cause.reason) := by
  cases read : parse text with
  | error error =>
      obtain ⟨cause, rfl⟩ := exists_of_parse_eq_error read
      exact ⟨cause, rfl⟩
  | ok entry => exact absurd ((parse_eq_ok_iff text entry).mp read) (none entry)

end Entries

end Preference

/-! ### Lists -/

section Lists

variable {α β ε : Type} {read : α → Except ε β}

theorem mapM_eq_ok_iff {parts : List α} {results : List β} :
    parts.mapM read = .ok results ↔ List.Forall₂ (fun part result => read part = .ok result)
      parts results := by
  induction parts generalizing results with
  | nil =>
      constructor
      · intro whole
        obtain rfl := Except.ok.inj whole
        exact .nil
      · rintro ⟨⟩
        rfl
  | cons part rest ih =>
      rw [List.mapM_cons]
      cases here : read part with
      | error error =>
          constructor
          · intro none
            cases none
          · intro all
            cases all with
            | cons first _ => simp [here] at first
      | ok result =>
          cases later : rest.mapM read with
          | error error =>
              constructor
              · intro none
                cases none
              · intro all
                cases all with
                | cons _ others =>
                    rw [ih.mpr others] at later
                    cases later
          | ok others =>
              constructor
              · intro whole
                obtain rfl := Except.ok.inj whole
                exact .cons here (ih.mp later)
              · intro all
                cases all with
                | cons first remaining =>
                    obtain rfl : result = _ := Except.ok.inj (here.symm.trans first)
                    obtain rfl := Except.ok.inj (later.symm.trans (ih.mpr remaining))
                    rfl

/-- The first member at which reading fails is the one whose error is given. -/
theorem mapM_eq_error_iff {parts : List α} {error : ε} :
    parts.mapM read = .error error ↔ ∃ earlier part later, parts = earlier ++ part :: later
      ∧ (∀ other ∈ earlier, ∃ result, read other = .ok result) ∧ read part = .error error := by
  induction parts with
  | nil =>
      constructor
      · intro none
        cases none
      · rintro ⟨earlier, part, later, none, -⟩
        simp at none
  | cons first rest ih =>
      have step : (first :: rest).mapM read = .error error
          ↔ read first = .error error
            ∨ (∃ result, read first = .ok result) ∧ rest.mapM read = .error error := by
        rw [List.mapM_cons]
        cases read first with
        | error other => simp [bind, Except.bind]
        | ok result =>
            cases rest.mapM read <;> simp [bind, Except.bind, pure, Except.pure]
      rw [step, ih]
      constructor
      · rintro (here | ⟨reads, earlier, part, later, rfl, before, fails⟩)
        · exact ⟨[], first, rest, rfl, by simp, here⟩
        · refine ⟨first :: earlier, part, later, rfl, fun other mem => ?_, fails⟩
          rcases List.mem_cons.mp mem with rfl | mem
          · exact reads
          · exact before other mem
      · rintro ⟨earlier, part, later, shape, before, fails⟩
        cases earlier with
        | nil =>
            obtain ⟨rfl, rfl⟩ := List.cons.inj shape
            exact .inl fails
        | cons other earlier =>
            obtain ⟨rfl, rfl⟩ := List.cons.inj shape
            exact .inr ⟨before first List.mem_cons_self, earlier, part, later, rfl,
              fun other mem => before other (List.mem_cons_of_mem _ mem), fails⟩

end Lists

section Priorities

variable {text : String}

theorem parsePriorities_of_blanks (blank : Blanks text.toList) :
    parsePriorities text = .error (Malformed.noDevices.reject text) := by
  rw [parsePriorities, if_pos (List.all_eq_true.mpr blank)]

/-- A text that is not all blank is read segment by segment. -/
theorem parsePriorities_of_not_blanks (visible : ¬ Blanks text.toList) :
    parsePriorities text
      = (segments text.toList).mapM fun segment => Preference.parse (String.ofList segment) := by
  rw [parsePriorities, if_neg fun all => visible (List.all_eq_true.mp all)]

/-- A list is read exactly from the texts whose segments spell its entries in order. -/
theorem parsePriorities_eq_ok_iff (visible : ¬ Blanks text.toList) (entries : List Preference) :
    parsePriorities text = .ok entries
      ↔ List.Forall₂ Spelled (segments text.toList) entries := by
  rw [parsePriorities_of_not_blanks visible, mapM_eq_ok_iff]
  have same : (fun part entry => Preference.parse (String.ofList part) = .ok entry) = Spelled := by
    funext part entry
    rw [Preference.parse_eq_ok_iff, String.toList_ofList]
  rw [same]

/-- A text that is rejected is quoted, or the first part of it that spells no entry. -/
theorem exists_of_parsePriorities_eq_error {error : DispatchError}
    (rejected : parsePriorities text = .error error) :
    ∃ (value : String) (cause : Malformed), error = cause.reject value := by
  by_cases blank : Blanks text.toList
  · rw [parsePriorities_of_blanks blank] at rejected
    exact ⟨text, .noDevices, (Except.error.inj rejected).symm⟩
  · rw [parsePriorities_of_not_blanks blank, mapM_eq_error_iff] at rejected
    obtain ⟨earlier, part, later, -, -, fails⟩ := rejected
    obtain ⟨cause, quoted⟩ := Preference.exists_of_parse_eq_error fails
    exact ⟨_, cause, quoted⟩

end Priorities

/-! ### The law -/

/-- The reader of priority lists accepts exactly what spells one. An entry is read from the
texts that spell it, and every other text is rejected and quoted. A list of blanks is rejected
and quoted; any other is divided at its commas, and either every segment spells an entry and
these are the list, or the first that spells none is rejected and quoted. An entry whose name
holds no closing parenthesis is of the documented form; that of an entry without a count holds
none. -/
theorem priorities_are_read_by_the_grammar (text : String) :
    (∀ entry, Preference.parse text = .ok entry ↔ Spelled text.toList entry)
      ∧ ((∀ entry, ¬ Spelled text.toList entry) →
        ∃ reason, Preference.parse text = .error (.invalidPriorities text reason))
      ∧ (∀ entry, Spelled text.toList entry → ')' ∈ entry.name.toList → entry.count ≠ none)
      ∧ (Blanks text.toList →
        ∃ reason, parsePriorities text = .error (.invalidPriorities text reason))
      ∧ (¬ Blanks text.toList → ∃ parts : List (List Char),
        parts ≠ [] ∧ (∀ part ∈ parts, ',' ∉ part) ∧ [','].intercalate parts = text.toList
          ∧ (∀ entries, parsePriorities text = .ok entries ↔ List.Forall₂ Spelled parts entries)
          ∧ ∀ error, parsePriorities text = .error error ↔ ∃ earlier part later,
            parts = earlier ++ part :: later ∧ (∀ other ∈ earlier, ∃ entry, Spelled other entry)
              ∧ (∀ entry, ¬ Spelled part entry)
              ∧ (∃ reason, error = .invalidPriorities (String.ofList part) reason)
              ∧ Preference.parse (String.ofList part) = .error error) := by
  refine ⟨Preference.parse_eq_ok_iff text, fun none => ?_, ?_, fun blank => ?_, fun visible => ?_⟩
  · obtain ⟨cause, rejected⟩ := Preference.parse_of_not_spelled none
    exact ⟨cause.reason, rejected⟩
  · intro entry spelled closing uncounted
    generalize text.toList = chars at spelled
    cases spelled with
    | named _ _ _ unclosed _ => exact unclosed (by simpa using closing)
    | counted => cases uncounted
  · exact ⟨_, parsePriorities_of_blanks blank⟩
  · refine ⟨segments text.toList, segments_ne_nil _,
      fun part mem => comma_not_mem_of_mem_segments mem, intercalate_segments _,
      parsePriorities_eq_ok_iff visible, fun error => ?_⟩
    rw [parsePriorities_of_not_blanks visible, mapM_eq_error_iff]
    have spells (part : List Char) (entry : Preference) :
        Preference.parse (String.ofList part) = .ok entry ↔ Spelled part entry := by
      rw [Preference.parse_eq_ok_iff, String.toList_ofList]
    simp only [spells]
    constructor
    · rintro ⟨earlier, part, later, shape, before, fails⟩
      obtain ⟨cause, quoted⟩ := Preference.exists_of_parse_eq_error fails
      refine ⟨earlier, part, later, shape, before, fun entry spelled => ?_, ⟨_, quoted⟩, fails⟩
      rw [(spells part entry).mpr spelled] at fails
      cases fails
    · rintro ⟨earlier, part, later, shape, before, -, -, fails⟩
      exact ⟨earlier, part, later, shape, before, fails⟩

/-- A closing parenthesis in the name of an entry with a count is let through, although the
documented form of a name holds no parenthesis. -/
theorem closing_parenthesis_in_name :
    ¬ ∀ (text : String) (entry : Preference), Preference.parse text = .ok entry
      ↔ Spelled text.toList entry ∧ ')' ∉ entry.name.toList := by
  intro documented
  have read : Preference.parse ")(1)" = .ok ⟨")", some 1⟩ := by decide +kernel
  exact ((documented _ _).mp read).2 (by decide)

end SlotDispatch
