import SpokenEditor.Buffer.Position
import SpokenEditor.Dictation.Edit
import SpokenEditor.Text.Blank
import SpokenEditor.Text.WordChar

/-!
# Text buffers

A buffer is a text cut at the cursor. An edit is applied at a position: the cursor moves to the
place that the position means, and the edit changes the text around it.

* `text_moveTo`, `offset_moveTo`: moving keeps the text and puts the cursor where it was asked to.
* `focused_apply`: edits leave the focus alone.
-/

namespace SpokenEditor

/-- A text with a cursor: what stands before it and what stands after it. -/
structure Buffer where
  before : Text
  after : Text
  focused : Bool
  deriving DecidableEq, Repr

namespace Buffer

/-- The empty buffer. -/
def empty : Buffer :=
  ⟨[], [], false⟩

/-- A buffer with the cursor at the end of the text. -/
def ofText (t : Text) : Buffer :=
  ⟨t, [], false⟩

/-- The whole text. -/
def text (b : Buffer) : Text :=
  b.before ++ b.after

/-- How many characters stand before the cursor. -/
def offset (b : Buffer) : Nat :=
  b.before.length

/-- The position of the cursor. -/
def cursor (b : Buffer) : Position :=
  Text.endPosition b.before

/-- The buffer with keyboard focus. -/
def focus (b : Buffer) : Buffer :=
  { b with focused := true }

/-- The buffer with the cursor at the place that the position means. -/
def moveTo (p : Position) (b : Buffer) : Buffer :=
  let n := Text.offsetOf b.text p
  { b with before := b.text.take n, after := b.text.drop n }

@[simp] theorem text_moveTo (p : Position) (b : Buffer) : (b.moveTo p).text = b.text :=
  List.take_append_drop _ _

@[simp] theorem offset_moveTo (p : Position) (b : Buffer) :
    (b.moveTo p).offset = Text.offsetOf b.text p := by
  rw [offset, moveTo, List.length_take]
  exact Nat.min_eq_left (Text.offsetOf_le_length b.text p)

/-! ### Edits at the cursor -/

/-- Insert the text before the cursor. -/
def insert (t : Text) (b : Buffer) : Buffer :=
  { b with before := b.before ++ t }

/-- Delete up to `n` characters before the cursor. -/
def deleteLeft (n : Nat) (b : Buffer) : Buffer :=
  { b with before := b.before.take (b.before.length - n) }

/-- A space or a tab, which is deleted together with the word before it. -/
def isGap (c : Char) : Bool :=
  c == ' ' || c == '\t'

/-- Whether the two characters may stand in one word: neither is a blank, and both or none are word
characters. -/
def sameClass (c d : Char) : Bool :=
  !Text.isBlank c && !Text.isBlank d && Text.isWordChar c == Text.isWordChar d

/-- What is left of a text, last character first, when its last word is deleted: the spaces and
tabs at its end, and then one line break or the longest run of characters of one class. -/
def dropWord (reversed : Text) : Text :=
  match reversed.dropWhile isGap with
  | [] => []
  | c :: t => if Text.isBreak c then t else (c :: t).dropWhile (sameClass c)

/-- Delete the word before the cursor. -/
def deleteWord (b : Buffer) : Buffer :=
  { b with before := (dropWord b.before.reverse).reverse }

/-- Delete the line of the cursor, up to the breaks around it. -/
def deleteLine (b : Buffer) : Buffer :=
  { b with
    before := Text.dropEndWhile (fun c => !Text.isBreak c) b.before
    after := b.after.dropWhile fun c => !Text.isBreak c }

/-- The edit at the cursor. -/
def applyHere : Edit → Buffer → Buffer
  | .insertText t => insert t
  | .deleteLeft n => deleteLeft n
  | .deleteWord => deleteWord
  | .deleteLine => deleteLine

/-- The edit at the place that the position means. -/
def apply (p : Position) (e : Edit) (b : Buffer) : Buffer :=
  (b.moveTo p).applyHere e

/-- Edits leave the focus alone. -/
@[simp] theorem focused_apply (p : Position) (e : Edit) (b : Buffer) :
    (b.apply p e).focused = b.focused := by
  cases e <;> rfl

end Buffer

end SpokenEditor
