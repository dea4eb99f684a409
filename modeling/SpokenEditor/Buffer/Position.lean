import SpokenEditor.Text.Basic

/-!
# Positions in a text

Editors name a place by line and column, both counted from one. A text has one line more than it
has line breaks. A position outside the text means the nearest place inside it: the last line if
there are too few lines, the end of the line if it is too short.

* `offsetOf_le_length`: every position means a place in the text.
* `lines_ne_nil`: a text has at least one line.
-/

namespace SpokenEditor

/-- A place in a text, line and column counted from one. -/
structure Position where
  line : Nat
  column : Nat
  deriving DecidableEq, Repr

namespace Text

/-- Whether the character ends a line. -/
def isBreak (c : Char) : Bool :=
  c == '\n'

/-- The lines of a text, without the breaks between them. -/
def lines : Text → List Text
  | [] => [[]]
  | c :: t =>
    if isBreak c then [] :: lines t
    else
      match lines t with
      | [] => [[c]]
      | l :: ls => (c :: l) :: ls

/-- A text has at least one line. -/
theorem lines_ne_nil : ∀ t : Text, lines t ≠ []
  | [] => by simp [lines]
  | c :: t => by
    rw [lines]
    split
    · simp
    · split <;> simp

/-- The first line of a text. -/
def firstLine (t : Text) : Text :=
  t.takeWhile fun c => !isBreak c

/-- The last line of a text. -/
def lastLine (t : Text) : Text :=
  takeEndWhile (fun c => !isBreak c) t

/-- How many characters stand before line `k`, counted from zero, or before the last line if the
text has fewer lines. -/
def lineStart : Nat → Text → Nat
  | 0, _ => 0
  | k + 1, t =>
    match t.dropWhile fun c => !isBreak c with
    | [] => 0
    | _ :: rest => (firstLine t).length + 1 + lineStart k rest

/-- How many characters stand before the place that the position means. -/
def offsetOf (t : Text) (p : Position) : Nat :=
  let start := lineStart (p.line - 1) t
  start + min (p.column - 1) (firstLine (t.drop start)).length

/-- The position of the end of a text. -/
def endPosition (t : Text) : Position where
  line := t.countP isBreak + 1
  column := (lastLine t).length + 1

theorem length_firstLine_le (t : Text) : (firstLine t).length ≤ t.length :=
  (List.takeWhile_sublist _).length_le

theorem lineStart_le_length : ∀ (k : Nat) (t : Text), lineStart k t ≤ t.length
  | 0, _ => Nat.zero_le _
  | k + 1, t => by
    simp only [lineStart]
    split
    · exact Nat.zero_le _
    · next rest h =>
      have hrest := lineStart_le_length k rest
      have hlen := congrArg List.length
        (List.takeWhile_append_dropWhile (p := fun c => !isBreak c) (l := t))
      rw [h, List.length_append, List.length_cons] at hlen
      rw [firstLine]
      omega

/-- Every position means a place in the text. -/
theorem offsetOf_le_length (t : Text) (p : Position) : offsetOf t p ≤ t.length := by
  have hs := lineStart_le_length (p.line - 1) t
  have hl := length_firstLine_le (t.drop (lineStart (p.line - 1) t))
  rw [List.length_drop] at hl
  simp only [offsetOf]
  omega

end Text

end SpokenEditor
