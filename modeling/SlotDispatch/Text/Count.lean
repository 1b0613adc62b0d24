/-!
Counts as they are written in a priority list: decimal digits, with an optional plus
sign and any number of leading zeros, denoting a number that fits 64 bits.
-/

namespace SlotDispatch.Text

/-- The text after a leading plus sign, or the whole text where there is none. -/
def dropPlus : List Char → List Char
  | '+' :: rest => rest
  | text => text

/-- The number a text of decimal digits denotes, where it is one and fits 64 bits. -/
def readDigits? (digits : List Char) : Option UInt64 :=
  if digits.isEmpty || !digits.all Char.isDigit then none
  else
    let value := Nat.ofDigitChars 10 digits 0
    if fits : value < UInt64.size then some (UInt64.ofNatLT value fits) else none

/-- The count a text denotes. -/
def readCount? (text : List Char) : Option UInt64 := readDigits? (dropPlus text)

/-- The shortest text of a count: its decimal digits. -/
def countText (count : UInt64) : String := Nat.repr count.toNat

/-! ### Reading what was written -/

/-- A digit is no plus sign. -/
theorem dropPlus_of_isDigit {c : Char} {rest : List Char} (digit : c.isDigit = true) :
    dropPlus (c :: rest) = c :: rest := by
  unfold dropPlus
  split
  · rename_i shape
    cases shape
    exact absurd digit (by decide)
  · rfl

/-- The digits of a count denote it. -/
theorem readDigits?_toDigits (count : UInt64) :
    readDigits? (Nat.toDigits 10 count.toNat) = some count := by
  have digits : (Nat.toDigits 10 count.toNat).all Char.isDigit = true :=
    List.all_eq_true.2 fun _ mem => Nat.isDigit_of_mem_toDigits (by decide) (by decide) mem
  simp [readDigits?, digits, Nat.toDigits_ne_nil, Nat.ofDigitChars_ten_toDigits,
    count.toNat_lt_size]

/-- The text of a count denotes it. -/
theorem readCount?_countText (count : UInt64) :
    readCount? (countText count).toList = some count := by
  have text : (countText count).toList = Nat.toDigits 10 count.toNat := by
    simp [countText, Nat.repr]
  have unsigned : dropPlus (Nat.toDigits 10 count.toNat) = Nat.toDigits 10 count.toNat := by
    cases shape : Nat.toDigits 10 count.toNat with
    | nil => rfl
    | cons c rest =>
      have mem : c ∈ Nat.toDigits 10 count.toNat := by simp [shape]
      exact dropPlus_of_isDigit (Nat.isDigit_of_mem_toDigits (by decide) (by decide) mem)
  rw [text, readCount?, unsigned, readDigits?_toDigits]

end SlotDispatch.Text
