import SpokenEditor.Proofs.Clamping
import SpokenEditor.Proofs.Splices

/-! # Deleting one line

A deletion works on offsets: it looks backwards and forwards for the breaks around the cursor.  Seen
as a list of lines, the text keeps all of them but one, which is empty afterwards.

* `length_lines`: a text has one line more than it has breaks;
* `lines_around`: what stands between two breaks is one line, and the others do not depend on it;
* `Buffer.lines_deleteLine`, `Buffer.cursor_deleteLine`: the line of the cursor becomes the empty
  one, and the cursor is at its start;
* `Buffer.deleteLine_oneLine`: so it is wherever the deletion is asked for. -/

namespace SpokenEditor

namespace Text

variable {l d r : Text} {b : Char}

/-! ### Lines -/

/-- A text has one line more than it has breaks, by induction on the lines. -/
theorem length_lines (t : Text) : (lines t).length = t.countP isBreak + 1 := by
  obtain hline | ⟨l, b, rest, rfl, hl, hb⟩ := firstLine_cases t
  · rw [lines_of_line hline, countP_isBreak_of_line hline]
    rfl
  · have ih := length_lines rest
    rw [lines_append_break hl hb, List.length_cons, ih, List.countP_append,
      countP_isBreak_of_line hl, List.countP_cons_of_pos hb]
    omega
termination_by t.length

/-- A break starts a line, and the lines behind it stay apart. -/
theorem lines_break (hb : isBreak b = true) (t : Text) : lines (b :: t) = [] :: lines t :=
  lines_append_break (l := []) (List.forall_mem_nil _) hb t

/-- Up to a break, or to the end, a line is one of the lines. -/
theorem lines_append_of_line (hd : ∀ c ∈ d, isBreak c = false)
    (hr : ∀ c ∈ r.head?, isBreak c = true) : lines (d ++ r) = d :: (lines r).tail := by
  cases r with
  | nil => rw [List.append_nil, lines_of_line hd]; rfl
  | cons b t =>
      have hb : isBreak b = true := hr b rfl
      rw [lines_append_break hd hb, lines_break hb, List.tail_cons]

/-- A text that ends with a break loses nothing with its last line. -/
theorem dropEndWhile_of_break (hl : ∀ c ∈ l.getLast?, isBreak c = true) :
    dropEndWhile (fun c => !isBreak c) l = l :=
  dropEndWhile_eq_self_iff.2 fun c hc => by simp [hl c hc]

theorem lastLine_of_break (hl : ∀ c ∈ l.getLast?, isBreak c = true) : lastLine l = [] := by
  have hsplit : dropEndWhile (fun c => !isBreak c) l ++ lastLine l = l :=
    dropEndWhile_append_takeEndWhile _ l
  rw [dropEndWhile_of_break hl] at hsplit
  exact List.append_right_eq_self.1 hsplit

/-- A text without breaks does not end with one, unless it is empty. -/
theorem eq_nil_of_line (hline : ∀ c ∈ l, isBreak c = false)
    (hl : ∀ c ∈ l.getLast?, isBreak c = true) : l = [] := by
  by_contra hne
  have hbreak := hl _ (List.getLast?_eq_some_getLast hne)
  rw [hline _ (List.getLast_mem hne)] at hbreak
  cases hbreak

/-- **What stands between two breaks is one line**, and the lines above and below do not depend on
it.  By induction on the lines above. -/
theorem lines_around {l d r : Text} (hl : ∀ c ∈ l.getLast?, isBreak c = true)
    (hd : ∀ c ∈ d, isBreak c = false) (hr : ∀ c ∈ r.head?, isBreak c = true) :
    lines (l ++ d ++ r) = (lines l).dropLast ++ d :: (lines r).tail := by
  obtain hline | ⟨first, b, rest, rfl, hfirst, hb⟩ := firstLine_cases l
  · obtain rfl := eq_nil_of_line hline hl
    exact lines_append_of_line hd hr
  · have hrest : ∀ c ∈ rest.getLast?, isBreak c = true := by
      intro c hc
      apply hl
      rw [List.getLast?_append_cons, List.getLast?_cons, Option.mem_def.1 hc]
      rfl
    have ih := lines_around hrest hd hr
    have htext : first ++ b :: rest ++ d ++ r = first ++ b :: (rest ++ d ++ r) := by simp
    rw [htext, lines_append_break hfirst hb, lines_append_break hfirst hb, ih,
      List.dropLast_cons_of_ne_nil (lines_ne_nil rest), List.cons_append]
termination_by l.length

/-- A line that is replaced is the one behind as many breaks as stand above it. -/
theorem lines_replace {new : Text} (hl : ∀ c ∈ l.getLast?, isBreak c = true)
    (hd : ∀ c ∈ d, isBreak c = false) (hnew : ∀ c ∈ new, isBreak c = false)
    (hr : ∀ c ∈ r.head?, isBreak c = true) :
    lines (l ++ new ++ r) = (lines (l ++ d ++ r)).set (l.countP isBreak) new := by
  have habove : (lines l).dropLast.length = l.countP isBreak := by
    rw [List.length_dropLast, length_lines, Nat.add_sub_cancel]
  rw [lines_around hl hnew hr, lines_around hl hd hr, ← habove,
    List.set_append_right _ _ (Nat.le_refl _), Nat.sub_self, List.set_cons_zero]

end Text

namespace Buffer

variable (b : Buffer)

/-! ### The line of the cursor -/

/-- The text before the line has the breaks that stand before the cursor. -/
theorem countP_isBreak_deleteLine :
    b.deleteLine.before.countP Text.isBreak = b.before.countP Text.isBreak := by
  have hlast : (Text.lastLine b.before).countP Text.isBreak = 0 :=
    Text.countP_isBreak_of_line fun _ => Text.isBreak_of_mem_lastLine
  have hsplit := congrArg (List.countP Text.isBreak) b.before_deleteLine
  rwa [List.countP_append, hlast, Nat.add_zero] at hsplit

/-- The line of the cursor becomes the empty one, and all others stay. -/
theorem lines_deleteLine :
    Text.lines b.deleteLine.text = (Text.lines b.text).set (b.cursor.line - 1) [] := by
  obtain ⟨hline, hbefore, hbehind, -, -⟩ := b.lineAt_deleteLine
  have hset := Text.lines_replace hbefore hline (List.forall_mem_nil _) hbehind
  rw [List.append_nil, text_deleteLine, countP_isBreak_deleteLine] at hset
  exact hset

/-- The cursor is at the start of its line. -/
theorem cursor_deleteLine : b.deleteLine.cursor = ⟨b.cursor.line, 1⟩ := by
  have hlast : Text.lastLine b.deleteLine.before = [] :=
    Text.lastLine_of_break b.lineAt_deleteLine.before
  rw [cursor, Text.endPosition, countP_isBreak_deleteLine, hlast]
  rfl

/-- A line that was deleted has nothing left to delete. -/
theorem deleteLine_deleteLine : b.deleteLine.deleteLine = b.deleteLine := by
  have hbefore : Text.dropEndWhile (fun c => !Text.isBreak c) b.deleteLine.before =
      b.deleteLine.before := Text.dropEndWhile_of_break b.lineAt_deleteLine.before
  have hafter : (b.deleteLine.after.dropWhile fun c => !Text.isBreak c) = b.deleteLine.after :=
    List.dropWhile_idempotent _ b.after
  rw [deleteLine, hbefore, hafter]

/-- **One line is deleted.**  Wherever the deletion of a line is asked for, the text split at its
breaks keeps all its lines but that of the place, which is one of them and becomes the empty line.
The cursor is shown at the start of that line, and there a second deletion changes nothing. -/
theorem deleteLine_oneLine (p : Position) :
    let old := b.text.splitOn '\n'
    let line := min (max p.line 1) old.length
    let next := b.apply p .deleteLine
    line - 1 < old.length ∧
      next.text.splitOn '\n' = old.set (line - 1) [] ∧
      (next.text.splitOn '\n').length = old.length ∧
      next.cursor = ⟨line, 1⟩ ∧
      next.apply next.cursor .deleteLine = next := by
  intro old line next
  have hold : old = Text.lines b.text := (Text.lines_eq_splitOn _).symm
  have hline : (b.moveTo p).cursor.line = line := by
    rw [cursor_moveTo]
    show min (max p.line 1) (Text.lines b.text).length = line
    rw [← hold]
  have hnew : next.text.splitOn '\n' = old.set (line - 1) [] := by
    have hset := (b.moveTo p).lines_deleteLine
    rwa [hline, text_moveTo, ← hold, Text.lines_eq_splitOn] at hset
  refine ⟨?_, hnew, ?_, ?_, ?_⟩
  · have hlt := Text.clampedLine_lt b.text p.line
    rwa [← hold] at hlt
  · rw [hnew, List.length_set]
  · rw [← hline]
    exact (b.moveTo p).cursor_deleteLine
  · rw [apply_cursor]
    exact (b.moveTo p).deleteLine_deleteLine

example : ((ofText "one\ntwo\nthree".toList).apply ⟨2, 9⟩ .deleteLine).text =
    "one\n\nthree".toList := by decide

end Buffer
end SpokenEditor
