import SpokenEditor.Buffer.Indexed
import SpokenEditor.Proofs.Clamping
import SpokenEditor.Proofs.Splices

/-! # A buffer by offsets

The offsets that a buffer works with all lie in its text, in the order in which they are used: so no
slice, no character and no difference is ever refused, and what comes out is what the buffer does that
is cut at its cursor.  Each search is shown to end where the cut buffer cuts its text.

* `lineStartAt?_append`, `lineEndAt?_append`: the ends of a line;
* `skipLines?_append`, `offsetOf?_eq`: the place that a position means;
* `runStart?_append`, `wordStart?_append`: the start of a run and of a word, from the back;
* `Buffer.cursor?_indexed`, `Buffer.applyAt?_indexed`: so nothing is refused;
* `Buffer.run_splices`: nor in any run, in which every edit is a replacement. -/

namespace SpokenEditor

namespace Text

variable {p : Char → Bool}

/-! ### Lines -/

theorem lastBreak?_concat (c : Char) :
    ∀ l : Text, lastBreak? (l ++ [c]) = if isBreak c then some l.length else lastBreak? l
  | [] => rfl
  | d :: l => by
      have ih := lastBreak?_concat c l
      rw [List.cons_append, lastBreak?, ih]
      cases isBreak c with
      | true => rfl
      | false => rfl

/-- The last break is where the last line is cut off, by induction from the back. -/
theorem elim_lastBreak? (s : Text) :
    (lastBreak? s).elim 0 (· + 1) = (dropEndWhile (fun c => !isBreak c) s).length := by
  induction s using List.reverseRecOn with
  | nil => rfl
  | append_singleton l c ih =>
      rw [lastBreak?_concat, dropEndWhile_concat]
      cases hc : isBreak c with
      | true => simp
      | false => simpa using ih

theorem lineStartAt?_append (s t : Text) :
    lineStartAt? s.length (s ++ t) = some (dropEndWhile (fun c => !isBreak c) s).length := by
  rw [lineStartAt?, slice?_append_left, ← elim_lastBreak?]
  rfl

theorem findIdx?_isBreak_of_line {l : Text} (hl : ∀ c ∈ l, isBreak c = false) :
    l.findIdx? isBreak = none :=
  List.findIdx?_eq_none_iff.2 hl

theorem findIdx?_isBreak_append {l : Text} {b : Char} (hl : ∀ c ∈ l, isBreak c = false)
    (hb : isBreak b = true) (t : Text) : (l ++ b :: t).findIdx? isBreak = some l.length := by
  rw [List.findIdx?_append, findIdx?_isBreak_of_line hl, List.findIdx?_cons, if_pos hb]
  simp

/-- The first break is behind the first line. -/
theorem elim_findIdx?_isBreak (i : ℕ) (t : Text) :
    (t.findIdx? isBreak).elim (i + t.length) (i + ·) = i + (firstLine t).length := by
  obtain hline | ⟨l, b, rest, rfl, hl, hb⟩ := firstLine_cases t
  · rw [findIdx?_isBreak_of_line hline, firstLine_of_line hline]
    rfl
  · rw [findIdx?_isBreak_append hl hb, firstLine_append_of_line hl, firstLine_cons_break hb,
      List.append_nil]
    rfl

theorem lineEndAt?_append (s t : Text) :
    lineEndAt? s.length (s ++ t) = some (s.length + (firstLine t).length) := by
  rw [lineEndAt?, slice?_append_right, ← elim_findIdx?_isBreak, ← List.length_append]
  rfl

/-! ### Positions -/

/-- Walking over lines, by induction on their number. -/
theorem skipLines?_append (k : ℕ) (s t : Text) :
    skipLines? k s.length (s ++ t) = some (s.length + lineStart k t) := by
  induction k generalizing s t with
  | zero => rfl
  | succ k ih =>
      rw [skipLines?, slice?_append_right, Option.bind_eq_bind, Option.bind_some]
      obtain hline | ⟨l, b, rest, rfl, hl, hb⟩ := firstLine_cases t
      · rw [findIdx?_isBreak_of_line hline, lineStart_of_line hline]
        rfl
      · have hnext : s ++ (l ++ b :: rest) = (s ++ l ++ [b]) ++ rest := by simp
        have hlength : s.length + l.length + 1 = (s ++ l ++ [b]).length := by
          simp [Nat.add_assoc]
        rw [findIdx?_isBreak_append hl hb, lineStart_succ_append hl hb]
        dsimp only
        rw [hnext, hlength, ih, ← hlength]
        congr 1
        omega

/-- **A position leads to the same offset.** -/
theorem offsetOf?_eq (p : Position) (t : Text) : offsetOf? p t = some (offsetOf t p) := by
  have hline : max p.line 1 - 1 = p.line - 1 := by omega
  have hstart : skipLines? (p.line - 1) 0 t = some (lineStart (p.line - 1) t) := by
    simpa using skipLines?_append (p.line - 1) [] t
  have hstop : lineEndAt? (lineStart (p.line - 1) t) t =
      some (lineStart (p.line - 1) t + (firstLine (t.drop (lineStart (p.line - 1) t))).length) := by
    have hlength : (t.take (lineStart (p.line - 1) t)).length = lineStart (p.line - 1) t := by
      rw [List.length_take]
      exact Nat.min_eq_left (lineStart_le_length _ t)
    have hsplit := lineEndAt?_append (t.take (lineStart (p.line - 1) t))
      (t.drop (lineStart (p.line - 1) t))
    rwa [List.take_append_drop, hlength] at hsplit
  rw [offsetOf?, hline, hstart, Option.bind_eq_bind, Option.bind_some, hstop, Option.bind_some,
    offsetOf]
  exact congrArg some (Nat.add_min_add_left _ _ _)

/-! ### Runs and words -/

theorem getElem?_append_cons (l : Text) (c : Char) (t : Text) :
    (l ++ c :: t)[l.length]? = some c := by
  simp

/-- A run that ends at an offset, by induction from the back. -/
theorem runStart?_append (p : Char → Bool) (s t : Text) :
    runStart? p (s ++ t) s.length = some (dropEndWhile p s).length := by
  induction s using List.reverseRecOn generalizing t with
  | nil => rfl
  | append_singleton l c ih =>
      rw [List.length_append, List.length_singleton, List.append_assoc, List.singleton_append,
        runStart?, getElem?_append_cons, Option.bind_eq_bind, Option.bind_some, dropEndWhile_concat]
      split
      · exact ih (c :: t)
      · simp

/-- **A word is found from the back**, with the gap behind it. -/
theorem wordStart?_append (s t : Text) :
    wordStart? s.length (s ++ t) = some (Buffer.dropWord s.reverse).length := by
  have hgap : dropEndWhile Buffer.isGap s ++ takeEndWhile Buffer.isGap s = s :=
    dropEndWhile_append_takeEndWhile Buffer.isGap s
  have hrev : s.reverse.dropWhile Buffer.isGap = (dropEndWhile Buffer.isGap s).reverse := by
    rw [dropEndWhile, List.reverse_reverse]
  rw [wordStart?, runStart?_append, Option.bind_eq_bind, Option.bind_some, Buffer.dropWord, hrev]
  obtain hnil | ⟨l, c, hlast⟩ := List.eq_nil_or_concat (dropEndWhile Buffer.isGap s)
  · rw [hnil]
    rfl
  · rw [List.concat_eq_append] at hlast
    have htext : s ++ t = l ++ c :: (takeEndWhile Buffer.isGap s ++ t) := by
      conv_lhs => rw [← hgap, hlast]
      simp
    have hrun := runStart?_append (Buffer.sameClass c) (l ++ [c])
      (takeEndWhile Buffer.isGap s ++ t)
    rw [List.length_append, List.length_singleton, List.append_assoc, List.singleton_append,
      dropEndWhile, List.reverse_append, List.reverse_singleton, List.singleton_append,
      List.length_reverse] at hrun
    rw [hlast, htext, List.length_append, List.length_singleton, List.reverse_append,
      List.reverse_singleton, List.singleton_append]
    dsimp only
    rw [getElem?_append_cons, Option.bind_eq_bind, Option.bind_some]
    split
    · rw [List.length_reverse]
      rfl
    · exact hrun

end Text

/-! ### Nothing is refused -/

namespace Buffer

variable (b : Buffer)

/-- The cursor of a buffer is shown. -/
theorem cursor?_indexed : b.indexed.cursor? = some b.cursor := by
  have hsplit := Text.dropEndWhile_append_takeEndWhile (fun c => !Text.isBreak c) b.before
  have hlength := congrArg List.length hsplit
  rw [List.length_append] at hlength
  have hcolumn : Text.distance? (Text.dropEndWhile (fun c => !Text.isBreak c) b.before).length
      b.before.length = some (Text.lastLine b.before).length := by
    rw [Text.distance?, if_pos (by omega)]
    congr 1
    rw [Text.lastLine]
    omega
  show IndexedBuffer.cursor? ⟨b.before ++ b.after, b.before.length, b.focused⟩ = some b.cursor
  simp only [IndexedBuffer.cursor?, Text.lineStartAt?_append, Text.slice?_append_left, hcolumn,
    Option.bind_eq_bind, Option.bind_some]
  rfl

/-- Deleting what stands between two offsets. -/
theorem delete?_append (l d r : Text) (n : ℕ) (focused : Bool) :
    IndexedBuffer.delete? ⟨l ++ d ++ r, n, focused⟩ l.length (l ++ d).length =
      some ⟨l ++ r, l.length, focused⟩ := by
  rw [IndexedBuffer.delete?, Text.replace?_append, List.append_nil]
  rfl

theorem insert?_indexed (new : Text) : b.indexed.insert? new = some (b.insert new).indexed := by
  have hreplace := Text.replace?_append b.before [] b.after new
  rw [List.append_nil] at hreplace
  show IndexedBuffer.insert? ⟨b.before ++ b.after, b.before.length, b.focused⟩ new = _
  rw [IndexedBuffer.insert?, hreplace, indexed, text, offset, insert, List.length_append]
  rfl

theorem deleteLeft?_indexed (n : ℕ) :
    b.indexed.delete? (b.deleteLeft n).offset b.offset = some (b.deleteLeft n).indexed := by
  have hdelete := delete?_append (b.deleteLeft n).before
    (b.before.drop (b.before.length - n)) b.after b.offset b.focused
  rw [before_deleteLeft] at hdelete
  exact hdelete

theorem deleteWord?_indexed :
    b.indexed.delete? b.deleteWord.offset b.offset = some b.deleteWord.indexed := by
  obtain ⟨d, hd⟩ := b.before_deleteWord
  have hdelete := delete?_append b.deleteWord.before d b.after b.offset b.focused
  rw [hd] at hdelete
  exact hdelete

theorem deleteLine?_indexed :
    b.indexed.delete? b.deleteLine.offset (b.offset + (Text.firstLine b.after).length) =
      some b.deleteLine.indexed := by
  have hdelete := delete?_append b.deleteLine.before
    (Text.lastLine b.before ++ Text.firstLine b.after) b.deleteLine.after b.offset b.focused
  rw [text_deleteLine, ← List.append_assoc, before_deleteLine, List.length_append] at hdelete
  exact hdelete

/-- No edit at the cursor is refused. -/
theorem applyHere?_indexed (e : Edit) :
    b.indexed.applyHere? e = some (b.applyHere e).indexed := by
  cases e with
  | insertText new => exact insert?_indexed b new
  | deleteLeft n =>
      have hstart : b.indexed.offset - n = (b.deleteLeft n).offset := (offset_deleteLeft b n).symm
      rw [IndexedBuffer.applyHere?, hstart]
      exact deleteLeft?_indexed b n
  | deleteWord =>
      have hstart : Text.wordStart? b.indexed.offset b.indexed.chars = some b.deleteWord.offset := by
        show Text.wordStart? b.before.length (b.before ++ b.after) = _
        rw [Text.wordStart?_append, offset, deleteWord, List.length_reverse]
      rw [IndexedBuffer.applyHere?, hstart]
      exact deleteWord?_indexed b
  | deleteLine =>
      have hstart : Text.lineStartAt? b.indexed.offset b.indexed.chars = some b.deleteLine.offset :=
        Text.lineStartAt?_append b.before b.after
      have hstop : Text.lineEndAt? b.indexed.offset b.indexed.chars =
          some (b.offset + (Text.firstLine b.after).length) :=
        Text.lineEndAt?_append b.before b.after
      rw [IndexedBuffer.applyHere?, hstart, hstop]
      exact deleteLine?_indexed b

/-- **No edit is refused, wherever it is made.** -/
theorem applyAt?_indexed (p : Position) (e : Edit) :
    b.indexed.applyAt? p e = some (b.apply p e).indexed := by
  have hmoved : IndexedBuffer.mk b.text (Text.offsetOf b.text p) b.focused =
      (b.moveTo p).indexed := by
    rw [indexed, text_moveTo, offset_moveTo]
    rfl
  show IndexedBuffer.applyAt? ⟨b.text, b.offset, b.focused⟩ p e = _
  simp only [IndexedBuffer.applyAt?, Text.offsetOf?_eq, Option.bind_eq_bind, Option.bind_some]
  rw [hmoved, applyHere?_indexed]
  rfl

theorem step?_indexed (event : BufferEvent) :
    b.indexed.step? event = some (b.step event).indexed := by
  cases event with
  | edit p e => exact applyAt?_indexed b p e
  | focus => rfl

/-- Nor is any event of a run, by induction on it. -/
theorem run?_indexed : ∀ (events : List BufferEvent) (b : Buffer),
    b.indexed.run? events = some (b.run events).indexed
  | [], _ => rfl
  | event :: events, b => by
      have ih := run?_indexed events (b.step event)
      rw [IndexedBuffer.run?, List.foldlM_cons, step?_indexed, Option.bind_eq_bind, Option.bind_some]
      exact ih

/-- **A buffer stays well formed, and every edit changes one place of it.**  In any run over a buffer
with any text and any cursor, edits at any positions and of any kind, no slice, no character and no
difference of offsets is refused.  The cursor never leaves the text, and it is shown.  Whatever edit
comes next, it is made at the offset that its position means, replaces there what it has to and nothing
else, with the cursor behind what it puts in, and leaves the focus alone. -/
theorem run_splices (b : Buffer) (events : List BufferEvent) :
    let now := b.run events
    b.indexed.run? events = some now.indexed ∧
      now.indexed.offset ≤ now.indexed.chars.length ∧
      now.indexed.cursor? = some now.cursor ∧
      ∀ p e, ∃ n, Text.offsetOf? p now.indexed.chars = some n ∧ n ≤ now.text.length ∧
        now.indexed.applyAt? p e = some (now.apply p e).indexed ∧
        Spliced e n now.text (now.apply p e).text (now.apply p e).offset ∧
        (now.apply p e).focused = now.focused := by
  intro now
  refine ⟨run?_indexed events b, ?_, cursor?_indexed now, fun p e => ?_⟩
  · show now.before.length ≤ (now.before ++ now.after).length
    rw [List.length_append]
    exact Nat.le_add_right _ _
  · exact ⟨Text.offsetOf now.text p, Text.offsetOf?_eq p now.text, Text.offsetOf_le_length _ _,
      applyAt?_indexed now p e, now.apply_splices p e, focused_apply p e now⟩

end Buffer
end SpokenEditor
