import SpokenEditor.Text.Basic

/-!
# Edit distance

The least number of insertions, deletions and substitutions of single characters that turn one text
into another. It is computed row by row: the row of a text `s` against `t` lists the distances from
`s` to `t` and to every text that is left when characters are dropped from the start of `t`.

* `distanceRow_cons`: how a row follows from the row of the text one character shorter.
* `length_distanceRow`: a row has one more entry than `t` has characters.
-/

namespace SpokenEditor

/-- The row of `c :: s` against `t`, from the row of `s` against `t`. -/
def nextRow (c : Char) : (t : Text) → (row : List Nat) → List Nat
  | [], row => [row.headD 0 + 1]
  | b :: t, row =>
    let next := nextRow c t row.tail
    (if c = b then row.tail.headD 0
      else min (row.headD 0) (min (next.headD 0) (row.tail.headD 0)) + 1) :: next

/-- The distances from `s` to `t` and to what is left of `t` without its first characters. -/
def distanceRow : (s t : Text) → List Nat
  | [], t => (List.range (t.length + 1)).reverse
  | c :: s, t => nextRow c t (distanceRow s t)

theorem distanceRow_cons (c : Char) (s t : Text) :
    distanceRow (c :: s) t = nextRow c t (distanceRow s t) :=
  rfl

theorem length_nextRow (c : Char) : ∀ (t : Text) (row : List Nat),
    (nextRow c t row).length = t.length + 1
  | [], _ => rfl
  | _ :: t, row => by rw [nextRow, List.length_cons, length_nextRow c t, List.length_cons]

/-- A row has one more entry than the second text has characters. -/
theorem length_distanceRow : ∀ s t : Text, (distanceRow s t).length = t.length + 1
  | [], t => by simp [distanceRow]
  | c :: s, t => by rw [distanceRow_cons, length_nextRow]

/-- The least number of single-character edits from one text to the other. -/
def editDistance (s t : Text) : Nat :=
  (distanceRow s t).headD 0

end SpokenEditor
