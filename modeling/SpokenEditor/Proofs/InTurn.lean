import SpokenEditor.Proofs.Clamping
import Mathlib.Algebra.Ring.Nat

/-! # Edits in turn

Between two edits the cursor is shown as line and column of a text whose lines the first edit has
just changed, and found again in that text.  Nothing is lost on the way, so edits that follow each
other compose as they do at the cursor itself.

* `insert_insert`, `deleteLeft_deleteLeft`, `deleteLeft_insert`: two edits at the cursor;
* `applyInTurn_insertText`, `applyInTurn_deleteLeft`: any number, each at the position shown;
* `apply_inTurn`: so it is from any position on. -/

namespace SpokenEditor.Buffer

/-- Some edits, each at the position that the buffer then shows. -/
def applyInTurn (edits : List Edit) (b : Buffer) : Buffer :=
  edits.foldl (fun b e => b.apply b.cursor e) b

variable (b : Buffer)

/-! ### Two edits -/

theorem insert_insert (s t : Text) : (b.insert s).insert t = b.insert (s ++ t) := by
  simp only [insert, List.append_assoc]

/-- A second deletion goes on where the first one stopped, or finds nothing left. -/
theorem deleteLeft_deleteLeft (m n : ℕ) :
    (b.deleteLeft m).deleteLeft n = b.deleteLeft (m + n) := by
  have hleft : (b.before.take (b.before.length - m)).length = b.before.length - m := by
    rw [List.length_take]
    omega
  have hkept : min (b.before.length - m - n) (b.before.length - m) =
      b.before.length - (m + n) := by omega
  unfold deleteLeft
  dsimp only
  rw [hleft, List.take_take, hkept]

/-- What was inserted is all that is deleted. -/
theorem deleteLeft_insert (t : Text) : (b.insert t).deleteLeft t.length = b := by
  have hlength : (b.before ++ t).length - t.length = b.before.length := by
    rw [List.length_append]
    omega
  unfold insert deleteLeft
  dsimp only
  rw [hlength, List.take_left]

/-! ### Any number of edits -/

theorem applyInTurn_cons (e : Edit) (edits : List Edit) :
    b.applyInTurn (e :: edits) = (b.applyHere e).applyInTurn edits := by
  rw [applyInTurn, List.foldl_cons, apply_cursor]
  rfl

/-- Insertions are one insertion, by induction on the texts. -/
theorem applyInTurn_insertText (ts : List Text) :
    b.applyInTurn (ts.map .insertText) = b.insert ts.flatten := by
  induction ts generalizing b with
  | nil => simp [applyInTurn, insert]
  | cons t ts ih =>
      rw [List.map_cons, applyInTurn_cons, ih, List.flatten_cons, ← insert_insert]
      rfl

/-- Deletions are one deletion, by induction on the counts. -/
theorem applyInTurn_deleteLeft (ns : List ℕ) :
    b.applyInTurn (ns.map .deleteLeft) = b.deleteLeft ns.sum := by
  induction ns generalizing b with
  | nil => simp [applyInTurn, deleteLeft]
  | cons n ns ih =>
      rw [List.map_cons, applyInTurn_cons, ih, List.sum_cons, ← deleteLeft_deleteLeft]
      rfl

/-- **Edits compose at the position that is shown.**  An edit is made anywhere in a buffer, and one
or more after it, each where the buffer then shows its cursor.  Text that is inserted and deleted
again leaves the old text, with the cursor at the place that the first position means; texts that
are inserted in turn, with any breaks in them, are inserted as if they were one; and what is deleted
to the left in turn is deleted as if at once. -/
theorem apply_inTurn (p : Position) :
    (∀ t, let again := (b.apply p (.insertText t)).applyInTurn [.deleteLeft t.length]
      again.text = b.text ∧ again.cursor = Text.clamp b.text p ∧ again.focused = b.focused) ∧
    (∀ (t : Text) (ts : List Text), (b.apply p (.insertText t)).applyInTurn (ts.map .insertText) =
      b.apply p (.insertText (t ++ ts.flatten))) ∧
    ∀ (n : ℕ) (ns : List ℕ), (b.apply p (.deleteLeft n)).applyInTurn (ns.map .deleteLeft) =
      b.apply p (.deleteLeft (n + ns.sum)) := by
  refine ⟨fun t => ?_, fun t ts => ?_, fun n ns => ?_⟩
  · have hback : (b.apply p (.insertText t)).applyInTurn [.deleteLeft t.length] = b.moveTo p := by
      rw [applyInTurn_cons]
      exact (b.moveTo p).deleteLeft_insert t
    intro again
    rw [show again = b.moveTo p from hback, text_moveTo, cursor_moveTo]
    exact ⟨rfl, rfl, rfl⟩
  · rw [applyInTurn_insertText]
    exact (b.moveTo p).insert_insert t ts.flatten
  · rw [applyInTurn_deleteLeft]
    exact (b.moveTo p).deleteLeft_deleteLeft n ns.sum

end SpokenEditor.Buffer
