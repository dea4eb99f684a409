import SpokenEditor.Text.Basic

/-!
# Edits

What dictation does to the text, at the place of the cursor.
-/

namespace SpokenEditor

/-- A change of the text at the cursor. -/
inductive Edit where
  /-- Insert the text. -/
  | insertText (text : Text)
  /-- Delete so many characters to the left. -/
  | deleteLeft (count : Nat)
  /-- Delete the word to the left. -/
  | deleteWord
  /-- Clear the line. -/
  | deleteLine
  deriving DecidableEq, Repr

end SpokenEditor
