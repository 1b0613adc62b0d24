/-!
White space as the Unicode property White_Space defines it, and its removal from the
ends of a text. Texts are lists of characters here.
-/

namespace SlotDispatch.Text

/-- Whether a character lies in one of the inclusive code point ranges. -/
def inRanges (ranges : List (Nat × Nat)) (c : Char) : Bool :=
  ranges.any fun range => range.1 ≤ c.toNat && c.toNat ≤ range.2

/-- The inclusive code point ranges of the characters with the property White_Space. -/
def blankRanges : List (Nat × Nat) := [
  (0x9, 0xD), (0x20, 0x20), (0x85, 0x85), (0xA0, 0xA0), (0x1680, 0x1680), (0x2000, 0x200A),
  (0x2028, 0x2029), (0x202F, 0x202F), (0x205F, 0x205F), (0x3000, 0x3000)]

/-- A white space character. -/
def isBlank (c : Char) : Bool := inRanges blankRanges c

/-- The text without the blanks it begins with. -/
def trimStart (text : List Char) : List Char := text.dropWhile isBlank

/-- The text without the blanks it ends with. -/
def trimEnd (text : List Char) : List Char := (text.reverse.dropWhile isBlank).reverse

/-- The text without the blanks at either end. -/
def trim (text : List Char) : List Char := trimEnd (trimStart text)

/-! ### Laws -/

/-- What is taken off the start of a text is blank. -/
theorem exists_blank_append_trimStart (text : List Char) :
    ∃ blank, (∀ c ∈ blank, isBlank c = true) ∧ text = blank ++ trimStart text :=
  ⟨text.takeWhile isBlank, fun _ mem => List.all_eq_true.1 List.all_takeWhile _ mem,
    List.takeWhile_append_dropWhile.symm⟩

/-- Blanks put before a text are taken off again. -/
theorem trimStart_blank_append {blank : List Char} (all : ∀ c ∈ blank, isBlank c = true)
    (text : List Char) : trimStart (blank ++ text) = trimStart text := by
  induction blank with
  | nil => rfl
  | cons c rest ih =>
    have head := all c (by simp)
    simpa [trimStart, head] using ih fun d mem => all d (by simp [mem])

/-- Blanks put after a text are taken off again. -/
theorem trimEnd_append_blank {blank : List Char} (all : ∀ c ∈ blank, isBlank c = true)
    (text : List Char) : trimEnd (text ++ blank) = trimEnd text := by
  have reversed := trimStart_blank_append (by simpa using all : ∀ c ∈ blank.reverse, _)
    text.reverse
  simp only [trimStart] at reversed
  simp [trimEnd, reversed]

end SlotDispatch.Text
