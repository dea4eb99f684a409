import SpokenEditor.Buffer.Basic

/-!
# Buffers by offsets

A buffer once more, as a text and an offset.  Here a position is found and an edit is made by slices,
single characters and differences of offsets, and what does not exist is refused: a slice whose bounds
are out of order or beyond the end, a character beyond the end, a difference below zero.  A result of
`none` is such a refusal.  Nothing is cut to fit but a position, and the number of characters to be
deleted.

* `slice?_append_left`, `slice?_append_right`, `replace?_append`: bounds that are inside the text.
-/

namespace SpokenEditor

namespace Text

/-- The characters from the offset `i` up to `j`. -/
def slice? (i j : Nat) (t : Text) : Option Text :=
  if i ≤ j ∧ j ≤ t.length then some ((t.take j).drop i) else none

/-- The text with `new` in the place of the characters from the offset `i` up to `j`. -/
def replace? (i j : Nat) (new t : Text) : Option Text :=
  if i ≤ j ∧ j ≤ t.length then some (t.take i ++ new ++ t.drop j) else none

/-- How far the offset `j` lies behind `i`. -/
def distance? (i j : Nat) : Option Nat :=
  if i ≤ j then some (j - i) else none

theorem slice?_append_left (s t : Text) : slice? 0 s.length (s ++ t) = some s := by
  simp [slice?]

theorem slice?_append_right (s t : Text) :
    slice? s.length (s ++ t).length (s ++ t) = some t := by
  have hbounds : s.length ≤ (s ++ t).length ∧ (s ++ t).length ≤ (s ++ t).length := by simp
  rw [slice?, if_pos hbounds, List.take_length, List.drop_left]

theorem replace?_append (l d r new : Text) :
    replace? l.length (l ++ d).length new (l ++ d ++ r) = some (l ++ new ++ r) := by
  simp [replace?]

/-! ### Lines and words -/

/-- The offset of the last line break. -/
def lastBreak? : Text → Option Nat
  | [] => none
  | c :: t =>
    match lastBreak? t with
    | some i => some (i + 1)
    | none => if isBreak c then some 0 else none

/-- Where the line of the offset `i` starts. -/
def lineStartAt? (i : Nat) (t : Text) : Option Nat := do
  let head ← slice? 0 i t
  return (lastBreak? head).elim 0 (· + 1)

/-- Where the line of the offset `i` ends. -/
def lineEndAt? (i : Nat) (t : Text) : Option Nat := do
  let rest ← slice? i t.length t
  return (rest.findIdx? isBreak).elim t.length (i + ·)

/-- Where the line starts that is reached from the offset `i` over `k` line breaks, or over all there
are. -/
def skipLines? : Nat → Nat → Text → Option Nat
  | 0, i, _ => some i
  | k + 1, i, t => do
    let rest ← slice? i t.length t
    match rest.findIdx? isBreak with
    | some n => skipLines? k (i + n + 1) t
    | none => some i

/-- The offset of the place that the position means. -/
def offsetOf? (p : Position) (t : Text) : Option Nat := do
  let start ← skipLines? (max p.line 1 - 1) 0 t
  let stop ← lineEndAt? start t
  return min (start + (p.column - 1)) stop

/-- Where the run of `p` characters starts that ends at the offset. -/
def runStart? (p : Char → Bool) (t : Text) : Nat → Option Nat
  | 0 => some 0
  | i + 1 => do
    let c ← t[i]?
    if p c then runStart? p t i else some (i + 1)

/-- Where the word starts that ends at the offset, with the gap behind it. -/
def wordStart? (i : Nat) (t : Text) : Option Nat := do
  match ← runStart? Buffer.isGap t i with
  | 0 => return 0
  | i + 1 => do
    let c ← t[i]?
    if isBreak c then return i else runStart? (Buffer.sameClass c) t (i + 1)

end Text

/-- A text with the offset of the cursor. -/
structure IndexedBuffer where
  chars : Text
  offset : Nat
  focused : Bool
  deriving DecidableEq, Repr

namespace IndexedBuffer

variable (b : IndexedBuffer)

/-- The position of the cursor. -/
def cursor? : Option Position := do
  let start ← Text.lineStartAt? b.offset b.chars
  let before ← Text.slice? 0 b.offset b.chars
  let column ← Text.distance? start b.offset
  return ⟨before.countP Text.isBreak + 1, column + 1⟩

/-- Insert the text before the cursor. -/
def insert? (new : Text) : Option IndexedBuffer := do
  let chars ← Text.replace? b.offset b.offset new b.chars
  return { b with chars := chars, offset := b.offset + new.length }

/-- Delete the characters from the offset `start` up to `stop`, and leave the cursor there. -/
def delete? (start stop : Nat) : Option IndexedBuffer := do
  let chars ← Text.replace? start stop [] b.chars
  return { b with chars := chars, offset := start }

/-- The edit at the cursor. -/
def applyHere? : Edit → Option IndexedBuffer
  | .insertText new => b.insert? new
  | .deleteLeft n => b.delete? (b.offset - n) b.offset
  | .deleteWord => do
    let start ← Text.wordStart? b.offset b.chars
    b.delete? start b.offset
  | .deleteLine => do
    let start ← Text.lineStartAt? b.offset b.chars
    let stop ← Text.lineEndAt? b.offset b.chars
    b.delete? start stop

/-- The edit at the place that the position means. -/
def applyAt? (p : Position) (e : Edit) : Option IndexedBuffer := do
  let n ← Text.offsetOf? p b.chars
  { b with offset := n }.applyHere? e

end IndexedBuffer

/-! ### Runs -/

/-- What is done to a buffer from outside. -/
inductive BufferEvent where
  /-- An edit at a position, which may long be out of date. -/
  | edit (p : Position) (e : Edit)
  /-- The keyboard focus is taken. -/
  | focus
  deriving DecidableEq, Repr

/-- One event. -/
def IndexedBuffer.step? (b : IndexedBuffer) : BufferEvent → Option IndexedBuffer
  | .edit p e => b.applyAt? p e
  | .focus => some { b with focused := true }

/-- Some events, one after the other. -/
def IndexedBuffer.run? (events : List BufferEvent) (b : IndexedBuffer) : Option IndexedBuffer :=
  events.foldlM step? b

namespace Buffer

/-- The buffer as a text and an offset. -/
def indexed (b : Buffer) : IndexedBuffer :=
  ⟨b.text, b.offset, b.focused⟩

/-- One event. -/
def step (b : Buffer) : BufferEvent → Buffer
  | .edit p e => b.apply p e
  | .focus => b.focus

/-- Some events, one after the other. -/
def run (events : List BufferEvent) (b : Buffer) : Buffer :=
  events.foldl step b

end Buffer

end SpokenEditor
