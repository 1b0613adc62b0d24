import SlotDispatch.Error
import SlotDispatch.Text.Count

/-!
Priority lists: devices from the most to the least preferred, each with an optional
number of execution slots. This module holds their type, their text and the checks that
a list has to pass; `SlotDispatch.Priority.Parser` reads the text back.
-/

namespace SlotDispatch

/-- The configuration key under which the priority list is stored. -/
def prioritiesKey : String := "MULTI_DEVICE_PRIORITIES"

/-- One entry of a priority list. -/
structure Preference where
  /-- The name of the device. -/
  name : String
  /-- The number of slots asked for, or none where the device's own optimum is wanted. -/
  count : Option UInt64
  deriving DecidableEq, Repr

namespace Preference

/-- The entry as it is written: the name, then the count in parentheses if there is one. -/
def text (entry : Preference) : String :=
  match entry.count with
  | none => entry.name
  | some count => entry.name ++ "(" ++ Text.countText count ++ ")"

end Preference

/-- The priority list as it is written: its entries between commas. -/
def prioritiesText (entries : List Preference) : String :=
  ",".intercalate (entries.map Preference.text)

/-! ### Checks -/

/-- The first name that is equal to an earlier one. -/
def firstRepeated : List String → Option String :=
  go []
where
  go (seen : List String) : List String → Option String
    | [] => none
    | name :: rest => if name ∈ seen then some name else go (name :: seen) rest

/-- A list passes if it names no device twice. -/
def checkDistinct (names : List String) : Except DispatchError Unit :=
  match firstRepeated names with
  | some name => .error (.duplicateDevice name)
  | none => .ok ()

/-- A list passes if every entry names one of the given devices. -/
def checkKnown (known : List String) (entries : List Preference) : Except DispatchError Unit :=
  match entries.find? fun entry => entry.name ∉ known with
  | some entry => .error (.unknownDevice entry.name)
  | none => .ok ()

/-- A list passes if no entry asks for a number of slots. -/
def checkUncounted (entries : List Preference) : Except DispatchError Unit :=
  match entries.find? fun entry => entry.count.isSome with
  | some entry => .error (.slotCountChange entry.name)
  | none => .ok ()

end SlotDispatch
