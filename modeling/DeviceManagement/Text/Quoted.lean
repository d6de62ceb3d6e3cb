import DeviceManagement.Text.Unprintable

/-!
# Quoted texts

`quote` shows a text between quotes for a human reader. Quotes, backslashes and the common
control characters are written as a backslash with a letter, and any other character that
cannot be shown as its number in braces.
-/

namespace DeviceManagement.Text

/-- The form of a character between quotes. -/
def showChar (c : Char) : List Char :=
  if c = '"' ∨ c = '\\' then ['\\', c]
  else if c = '\x00' then ['\\', '0']
  else if c = '\t' then ['\\', 't']
  else if c = '\n' then ['\\', 'n']
  else if c = '\r' then ['\\', 'r']
  else if isUnprintable c then
    '\\' :: 'u' :: '\x7b' :: (Nat.toDigits 16 c.toNat ++ ['\x7d'])
  else [c]

/-- A text between quotes. -/
def quote (text : String) : String :=
  String.ofList ('"' :: (text.toList.flatMap showChar ++ ['"']))

/-- Some texts between quotes and in brackets. -/
def quoteAll (texts : List String) : String :=
  "[" ++ ", ".intercalate (texts.map quote) ++ "]"

end DeviceManagement.Text
