import SpokenEditor.Text.Basic
import SpokenEditor.Text.Runs
import SpokenEditor.Text.EscapeTable

/-!
# Quoted texts

A text is shown between double quotes. A quote, a backslash, the NUL, the tab and the two line
breaks have escapes of two characters; a character that cannot be shown on its own is written by
its number in lowercase hexadecimal digits.
-/

namespace SpokenEditor.Text

/-- A character between quotes. -/
def escape (c : Char) : Text :=
  if c = '\x00' then ['\\', '0']
  else if c = '\t' then ['\\', 't']
  else if c = '\r' then ['\\', 'r']
  else if c = '\n' then ['\\', 'n']
  else if c = '\\' then ['\\', '\\']
  else if c = '\x22' then ['\\', '\x22']
  else if inRuns invisibleRuns c.toNat then
    ['\\', 'u', '\x7b'] ++ Nat.toDigits 16 c.toNat ++ ['\x7d']
  else [c]

/-- The text between double quotes. -/
def quoted (t : Text) : Text :=
  '\x22' :: t.flatMap escape ++ ['\x22']

/-- The quoted texts between square brackets, separated by a comma and a space. -/
def quotedList (ts : List Text) : Text :=
  '[' :: [',', ' '].intercalate (ts.map quoted) ++ [']']

end SpokenEditor.Text
