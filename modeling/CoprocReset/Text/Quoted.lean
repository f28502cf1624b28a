import CoprocReset.Text.Printable

/-!
# Quoted text

`quote` writes a text between double quotes so that it can be shown on one line: the tab, the
line ends, the null character, the backslash and the double quote by a letter after a backslash,
every other character without a picture of its own (`needsEscape`) by its number, all else as it
is. An apostrophe needs no escape inside double quotes.
-/

namespace CoprocReset.Text

/-- The digits of a number to the base sixteen, in lower case. -/
def hexDigits (n : Nat) : List Char := Nat.toDigits 16 n

/-- What stands for one character between the quotes. -/
def escape (c : Char) : List Char :=
  if c = '\x00' then ['\\', '0']
  else if c = '\t' then ['\\', 't']
  else if c = '\r' then ['\\', 'r']
  else if c = '\n' then ['\\', 'n']
  else if c = '\\' then ['\\', '\\']
  else if c = '"' then ['\\', '"']
  else if needsEscape c then ['\\', 'u', '\x7b'] ++ hexDigits c.toNat ++ ['\x7d']
  else [c]

/-- The text between double quotes, fit for one line. -/
def quote (s : String) : String :=
  String.ofList ('"' :: s.toList.flatMap escape ++ ['"'])

end CoprocReset.Text
