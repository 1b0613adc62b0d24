import SlotDispatch.Priority
import SlotDispatch.Text.Blank

/-!
Reading a priority list. An entry is a name, optionally followed by a slot count in
parentheses, with white space allowed at both ends, before the opening parenthesis and
around the count; a list is made of entries between commas.
-/

namespace SlotDispatch

/-- Why a text is no priority list. -/
inductive Malformed where
  | noDevices
  | unbalanced
  | badCount
  | noName
  deriving DecidableEq, Repr

/-- The explanation given with the rejected text. -/
def Malformed.reason : Malformed → String
  | .noDevices => "no devices listed"
  | .unbalanced => "unbalanced parenthesis"
  | .badCount => "number of requests must be a non-negative integer"
  | .noName => "device name is empty"

/-- The error that quotes a rejected text. -/
def Malformed.reject (value : String) (cause : Malformed) : DispatchError :=
  .invalidPriorities value cause.reason

namespace Preference

/-- An entry of the given name, which must not be empty. -/
def named (name : List Char) (count : Option UInt64) : Except Malformed Preference :=
  if name.isEmpty then .error .noName else .ok ⟨String.ofList name, count⟩

/-- The text before a closing parenthesis that ends it. -/
def dropClosing? (text : List Char) : Option (List Char) :=
  if text.getLast? = some ')' then some text.dropLast else none

/-- The count whose text follows an opening parenthesis. -/
def readSuffix (text : List Char) : Except Malformed UInt64 :=
  match dropClosing? text with
  | none => .error .unbalanced
  | some inner =>
      match Text.readCount? (Text.trim inner) with
      | none => .error .badCount
      | some count => .ok count

/-- The entry that a text without blanks at its ends denotes. -/
def readTrimmed (text : List Char) : Except Malformed Preference :=
  match text.dropWhile (· ≠ '(') with
  | [] => if ')' ∈ text then .error .unbalanced else named text none
  | _ :: suffix =>
      match readSuffix suffix with
      | .error cause => .error cause
      | .ok count => named (Text.trimEnd (text.takeWhile (· ≠ '('))) (some count)

/-- The entry that a text denotes; a rejected text is quoted as given. -/
def parse (entry : String) : Except DispatchError Preference :=
  (readTrimmed (Text.trim entry.toList)).mapError (Malformed.reject entry)

end Preference

/-- The segments of a text between commas. -/
def segments : List Char → List (List Char)
  | [] => [[]]
  | c :: rest =>
      if c = ',' then [] :: segments rest
      else match segments rest with
        | [] => [[c]]
        | first :: others => (c :: first) :: others

/-- There is always at least one segment. -/
theorem segments_ne_nil (text : List Char) : segments text ≠ [] := by
  cases text with
  | nil => simp [segments]
  | cons c rest =>
    simp only [segments]
    split
    · simp
    · split <;> simp

/-- The segments with commas between them are the text. -/
theorem intercalate_segments (text : List Char) : [','].intercalate (segments text) = text := by
  induction text with
  | nil => rfl
  | cons c rest ih =>
    simp only [segments]
    cases shape : segments rest with
    | nil => exact absurd shape (segments_ne_nil rest)
    | cons first others =>
      rw [shape] at ih
      split
      · rename_i comma
        simp [comma, List.intercalate, ← ih]
      · cases others <;> simp_all [List.intercalate]

/-- No segment has a comma in it. -/
theorem comma_not_mem_of_mem_segments {text segment : List Char}
    (mem : segment ∈ segments text) : ',' ∉ segment := by
  induction text generalizing segment with
  | nil => simp_all [segments]
  | cons c rest ih =>
    simp only [segments] at mem
    split at mem
    · rcases List.mem_cons.1 mem with rfl | mem
      · simp
      · exact ih mem
    · rename_i other
      cases shape : segments rest with
      | nil => exact absurd shape (segments_ne_nil rest)
      | cons first others =>
        rw [shape] at ih mem
        rcases List.mem_cons.1 mem with rfl | mem
        · simpa [Ne.symm other] using ih (by simp)
        · exact ih (by simp [mem])

/-- The entries of a priority list, or the error of the first segment that is no entry. -/
def parsePriorities (value : String) : Except DispatchError (List Preference) :=
  if value.toList.all Text.isBlank then .error (Malformed.noDevices.reject value)
  else (segments value.toList).mapM fun segment => Preference.parse (String.ofList segment)

end SlotDispatch
