import SpokenEditor.Dictation.Edit
import SpokenEditor.Dictation.Number

/-!
# Phrases that delete

`delete` with a positive count, `delete word` and `delete line` are edits. A phrase of `delete` and
one more word that is no edit is dropped rather than typed.

* `deleteCount?_pos`: a count is positive and fits a word of 32 bits.
-/

namespace SpokenEditor

/-- The phrase as deleting phrases are recognized: trimmed and in lowercase. -/
def deletePhrase (phrase : Text) : Text :=
  Text.lowercase (Text.trim phrase)

/-- The value of a token: a numeral that fits a word of 32 bits, or a spoken cardinal. -/
def tokenValue? (token : Text) : Option Nat :=
  if token.all Char.isDigit then
    if decimalValue token < UInt32.size then some (decimalValue token) else none
  else numberOfWord? token

/-- The value of a token if it is a count, that is not zero. -/
def countOfToken? (token : Text) : Option Nat :=
  (tokenValue? token).filter fun n => 0 < n

/-- The count of a phrase that consists of `delete` and a count. -/
def deleteCount? (phrase : Text) : Option Nat :=
  match Text.words phrase with
  | [verb, token] => if verb = "delete".toList then countOfToken? token else none
  | _ => none

/-- The edit of a deleting phrase. -/
def deleteEdit? (phrase : Text) : Option Edit :=
  let p := deletePhrase phrase
  match deleteCount? p with
  | some n => some (.deleteLeft n)
  | none =>
    if p = "delete word".toList then some .deleteWord
    else if p = "delete line".toList then some .deleteLine
    else none

/-- Whether the phrase consists of `delete` and one more word. -/
def isDeletePhrase (phrase : Text) : Bool :=
  match Text.words (deletePhrase phrase) with
  | [verb, _] => verb == "delete".toList
  | _ => false

theorem tokenValue?_lt {token : Text} {n : Nat} (h : tokenValue? token = some n) :
    n < UInt32.size := by
  rw [tokenValue?] at h
  split at h
  · split at h <;> simp_all
  · exact Nat.lt_of_le_of_lt (numberOfWord?_le h) (by decide)

/-- A count is positive and fits a word of 32 bits. -/
theorem deleteCount?_pos {phrase : Text} {n : Nat} (h : deleteCount? phrase = some n) :
    0 < n ∧ n < UInt32.size := by
  rw [deleteCount?.eq_def] at h
  split at h
  · split at h
    · rw [countOfToken?, Option.filter_eq_some_iff] at h
      exact ⟨of_decide_eq_true h.2, tokenValue?_lt h.1⟩
    · simp at h
  · simp at h

end SpokenEditor
