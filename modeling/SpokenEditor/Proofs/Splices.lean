import SpokenEditor.Proofs.LastWord
import SpokenEditor.Proofs.Positions

/-! # An edit changes one place

Whatever an edit does, it replaces one piece of the text and leaves what stands before and behind that
piece as it is, with the cursor behind what was put in.

* `Edit.Replaces`: which piece that is;
* `before_deleteLeft`, `before_deleteWord`, `text_deleteLine`: what a deletion takes away;
* `Buffer.applyHere_splices`, `Buffer.apply_splices`: every edit is such a replacement. -/

namespace SpokenEditor

/-- `LineAt n l d r`: in the text `l ++ d ++ r`, the line of the offset `n` is `d`, without the breaks
at its ends. -/
structure Text.LineAt (n : ℕ) (l d r : Text) : Prop where
  line : ∀ c ∈ d, isBreak c = false
  before : ∀ c ∈ l.getLast?, isBreak c = true
  behind : ∀ c ∈ r.head?, isBreak c = true
  start_le : l.length ≤ n
  le_stop : n ≤ (l ++ d).length

/-- `e.Replaces n l d i r`: made at the offset `n` of the text `l ++ d ++ r`, the edit `e` puts `i` in
the place of `d`. -/
def Edit.Replaces (n : ℕ) (l d i r : Text) : Edit → Prop
  | insertText t => d = [] ∧ l.length = n ∧ i = t
  | deleteLeft k => i = [] ∧ d.length = min k n ∧ l.length = n - d.length
  | deleteWord => i = [] ∧ (l ++ d).length = n
  | deleteLine => i = [] ∧ Text.LineAt n l d r

/-- `Spliced e n t u m`: made at the offset `n` of the text `t`, the edit `e` makes `u` of it by one
replacement, and leaves the cursor at the offset `m`, behind what was put in. -/
def Spliced (e : Edit) (n : ℕ) (t u : Text) (m : ℕ) : Prop :=
  ∃ l d i r, t = l ++ d ++ r ∧ u = l ++ i ++ r ∧ m = l.length + i.length ∧ e.Replaces n l d i r

namespace Buffer

variable (b : Buffer)

/-! ### What a deletion takes away -/

theorem before_deleteLeft (n : ℕ) :
    (b.deleteLeft n).before ++ b.before.drop (b.before.length - n) = b.before :=
  List.take_append_drop _ _

theorem offset_deleteLeft (n : ℕ) : (b.deleteLeft n).offset = b.offset - n := by
  rw [offset, offset, deleteLeft, List.length_take]
  exact Nat.min_eq_left (Nat.sub_le _ _)

theorem before_deleteWord : ∃ d, b.deleteWord.before ++ d = b.before := by
  obtain ⟨word, gap, hsplit, -⟩ := Text.wordDeleted_iff.2
    (rfl : (dropWord b.before.reverse).reverse = _)
  exact ⟨word ++ gap, by rw [hsplit, List.append_assoc]; rfl⟩

theorem before_deleteLine : b.deleteLine.before ++ Text.lastLine b.before = b.before :=
  Text.dropEndWhile_append_takeEndWhile _ b.before

theorem after_deleteLine : Text.firstLine b.after ++ b.deleteLine.after = b.after :=
  List.takeWhile_append_dropWhile

theorem text_deleteLine :
    b.deleteLine.before ++ (Text.lastLine b.before ++ Text.firstLine b.after) ++
      b.deleteLine.after = b.text := by
  rw [← List.append_assoc, before_deleteLine, List.append_assoc, after_deleteLine, text]

/-- The line of the cursor reaches from the break before it to the break behind it. -/
theorem lineAt_deleteLine :
    Text.LineAt b.offset b.deleteLine.before (Text.lastLine b.before ++ Text.firstLine b.after)
      b.deleteLine.after := by
  obtain ⟨-, -, -, hbefore⟩ :=
    Text.dropEndWhile_eq_iff.1 (rfl : Text.dropEndWhile (fun c => !Text.isBreak c) b.before = _)
  have hbehind := List.head?_dropWhile_not (fun c => !Text.isBreak c) b.after
  have hlength := congrArg List.length b.before_deleteLine
  rw [List.length_append] at hlength
  refine ⟨fun c hc => ?_, fun c hc => by simpa using hbefore c hc, fun c hc => ?_, ?_, ?_⟩
  · obtain hc | hc := List.mem_append.1 hc
    · exact Text.isBreak_of_mem_lastLine hc
    · exact Text.isBreak_of_mem_firstLine hc
  · rw [deleteLine, Option.mem_def] at hc
    rw [hc] at hbehind
    simpa using hbehind
  · rw [offset]
    omega
  · rw [offset, List.length_append, List.length_append]
    omega

/-! ### Every edit -/

/-- **At the cursor, every edit is a replacement.** -/
theorem applyHere_splices (e : Edit) :
    Spliced e b.offset b.text (b.applyHere e).text (b.applyHere e).offset := by
  cases e with
  | insertText t =>
      refine ⟨b.before, [], t, b.after, ?_, rfl, ?_, rfl, rfl, rfl⟩
      · rw [List.append_nil, text]
      · exact List.length_append
  | deleteLeft n =>
      have hkept := b.offset_deleteLeft n
      rw [offset, offset] at hkept
      have htaken : (b.before.drop (b.before.length - n)).length = min n b.before.length := by
        rw [List.length_drop]
        omega
      refine ⟨(b.deleteLeft n).before, b.before.drop (b.before.length - n), [], b.after, ?_, ?_, rfl,
        rfl, htaken, ?_⟩
      · rw [before_deleteLeft, text]
      · rw [List.append_nil]
        rfl
      · rw [hkept, htaken, offset]
        omega
  | deleteWord =>
      obtain ⟨d, hd⟩ := b.before_deleteWord
      refine ⟨b.deleteWord.before, d, [], b.after, ?_, ?_, rfl, rfl, ?_⟩
      · rw [hd, text]
      · rw [List.append_nil]
        rfl
      · rw [hd, offset]
  | deleteLine =>
      refine ⟨b.deleteLine.before, Text.lastLine b.before ++ Text.firstLine b.after, [],
        b.deleteLine.after, b.text_deleteLine.symm, ?_, rfl, rfl, b.lineAt_deleteLine⟩
      rw [List.append_nil]
      rfl

/-- **So is every edit at a position**, at the place that the position means. -/
theorem apply_splices (p : Position) (e : Edit) :
    Spliced e (Text.offsetOf b.text p) b.text (b.apply p e).text (b.apply p e).offset := by
  have h := (b.moveTo p).applyHere_splices e
  rwa [text_moveTo, offset_moveTo] at h

end Buffer
end SpokenEditor
