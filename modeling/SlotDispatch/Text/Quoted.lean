import SlotDispatch.Text.Blank
import SlotDispatch.Text.Extending
import SlotDispatch.Text.Ignorable
import SlotDispatch.Text.Unprintable

/-!
Texts quoted for a diagnostic: between double quotes, with every character that could
not be told apart by eye written as an escape.
-/

namespace SlotDispatch.Text

/-- A character that shows a glyph of its own. -/
def isPrintable (c : Char) : Bool :=
  !inRanges unprintableRanges c && !inRanges ignorableRanges c

/-- The half-width katakana voicing marks. They belong to the character before them, but
stand beside it in a column of their own. -/
def isSpacingMark (c : Char) : Bool := c = '\uFF9E' || c = '\uFF9F'

/-- A character that is drawn over the one before it. -/
def isExtending (c : Char) : Bool := inRanges extendingRanges c && !isSpacingMark c

/-- A character by its code point, in lower-case hexadecimal digits between braces. -/
def codePointEscape (c : Char) : List Char :=
  ['\\', 'u', '\x7b'] ++ Nat.toDigits 16 c.toNat ++ ['\x7d']

/-- How a character is written inside quotes. -/
def quotedChar (c : Char) : List Char :=
  if c = '\x00' then ['\\', '0']
  else if c = '\t' then ['\\', 't']
  else if c = '\n' then ['\\', 'n']
  else if c = '\r' then ['\\', 'r']
  else if c = '"' then ['\\', '"']
  else if c = '\\' then ['\\', '\\']
  else if isExtending c || !isPrintable c then codePointEscape c
  else [c]

/-- The text between double quotes, its characters escaped where needed. -/
def quoted (text : String) : String :=
  String.ofList ('"' :: text.toList.flatMap quotedChar ++ ['"'])

end SlotDispatch.Text
