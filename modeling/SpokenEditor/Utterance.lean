import SpokenEditor.Text.Blank
import SpokenEditor.Text.Lowercase

/-!
# Utterances

One phrase as the recognizer gave it: trimmed, and once more in lowercase for matching.
-/

namespace SpokenEditor

/-- A phrase from the recognizer. -/
structure Utterance where
  /-- The phrase without blanks at its ends. -/
  raw : Text
  /-- The lowercase form of `raw`. -/
  normalized : Text
  deriving DecidableEq, Repr

namespace Utterance

/-- The utterance of a transcript. -/
def ofText (t : Text) : Utterance where
  raw := Text.trim t
  normalized := Text.lowercase (Text.trim t)

/-- Whether nothing but blanks was heard. -/
def isEmpty (u : Utterance) : Bool :=
  u.raw.isEmpty

@[simp] theorem raw_ofText (t : Text) : (ofText t).raw = Text.trim t := rfl

@[simp] theorem normalized_ofText (t : Text) :
    (ofText t).normalized = Text.lowercase (Text.trim t) := rfl

end Utterance

end SpokenEditor
