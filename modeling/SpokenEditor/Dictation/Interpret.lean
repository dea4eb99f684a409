import SpokenEditor.Dictation.Cue
import SpokenEditor.Dictation.Delete

/-!
# Dictation

A dictated phrase is a deleting phrase, which may be void, or text to insert. The text is made of
the phrase's lowercase words with the cues replaced, one space between each two and one at the end,
unless the last word became a line break or a tab.

* `dictate_eq_none_iff`: nothing is inserted exactly when there are no words.
-/

namespace SpokenEditor

/-- The words of a phrase, in lowercase and with the cues replaced. -/
def dictatedWords (phrase : Text) : List Text :=
  Cue.substitute spokenCues (Text.words (Text.lowercase phrase))

/-- What stands between a text and the phrase that follows it. -/
def spaceAfter (t : Text) : Text :=
  match t.getLast? with
  | none => []
  | some c => if c = '\n' ∨ c = '\t' then [] else [' ']

/-- The text that a phrase inserts. -/
def dictatedText (phrase : Text) : Text :=
  let t := Text.joinWords (dictatedWords phrase)
  t ++ spaceAfter t

/-- The insertion of a phrase, if it has any words. -/
def dictate (phrase : Text) : Option Edit :=
  let t := dictatedText phrase
  if t.isEmpty then none else some (.insertText t)

/-- The edit of a dictated phrase. -/
def interpret (phrase : Text) : Option Edit :=
  match deleteEdit? phrase with
  | some edit => some edit
  | none => if isDeletePhrase phrase then none else dictate phrase

theorem dictate_eq_none_iff {phrase : Text} : dictate phrase = none ↔ dictatedText phrase = [] := by
  simp [dictate]

end SpokenEditor
