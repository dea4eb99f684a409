import SpokenEditor.Buffer.Basic
import Mathlib.Data.List.DropRight

/-! # Positions and offsets

A position is read off the text before the cursor and found again in the whole text, by two
functions that have nothing in common: one counts the breaks before the cursor, the other walks
over whole lines from the start.

* `lineStart_countP`: walking over as many lines as there are breaks in a text leads behind its last
  break;
* `offsetOf_endPosition`: the position of the end of a text is found again, whatever follows;
* `Buffer.moveTo_cursor`, `Buffer.apply_cursor`: moving a buffer to its own cursor does nothing, so
  an edit at the position that the buffer shows is made where the cursor stands. -/

namespace SpokenEditor
namespace Text

/-- The test for the characters of a line. -/
private abbrev inLine (c : Char) : Bool := !isBreak c

theorem isBreak_of_mem_firstLine {t : Text} {c : Char} (hc : c ∈ firstLine t) :
    isBreak c = false := by
  simpa using List.all_eq_true.1 List.all_takeWhile c hc

theorem isBreak_of_mem_lastLine {t : Text} {c : Char} (hc : c ∈ lastLine t) :
    isBreak c = false := by
  simpa using List.all_eq_true.1 List.all_takeWhile c (List.mem_reverse.1 hc)

/-- A text is one line, or it begins with a line and the break behind it. -/
theorem firstLine_cases (t : Text) : (∀ c ∈ t, isBreak c = false) ∨
    ∃ l b rest, t = l ++ b :: rest ∧ (∀ c ∈ l, isBreak c = false) ∧ isBreak b = true := by
  have hsplit := List.takeWhile_append_dropWhile (p := inLine) (l := t)
  have hline : ∀ c ∈ t.takeWhile inLine, isBreak c = false := fun _ => isBreak_of_mem_firstLine
  have hhead := List.head?_dropWhile_not inLine t
  cases hd : t.dropWhile inLine with
  | nil =>
      rw [hd, List.append_nil] at hsplit
      exact .inl (hsplit ▸ hline)
  | cons b rest =>
      rw [hd] at hsplit hhead
      exact .inr ⟨_, b, rest, hsplit.symm, hline, by simpa using hhead⟩

theorem firstLine_append_of_line {l : Text} (hl : ∀ c ∈ l, isBreak c = false) (t : Text) :
    firstLine (l ++ t) = l ++ firstLine t :=
  List.takeWhile_append_of_pos fun c hc => by simp [hl c hc]

theorem firstLine_of_line {l : Text} (hl : ∀ c ∈ l, isBreak c = false) : firstLine l = l := by
  simpa [firstLine] using firstLine_append_of_line hl []

theorem firstLine_cons_break {b : Char} (hb : isBreak b = true) (t : Text) :
    firstLine (b :: t) = [] := by
  simp [firstLine, hb]

/-- Walking over a line and its break. -/
theorem lineStart_succ_append {l : Text} (hl : ∀ c ∈ l, isBreak c = false) {b : Char}
    (hb : isBreak b = true) (k : ℕ) (t : Text) :
    lineStart (k + 1) (l ++ b :: t) = l.length + 1 + lineStart k t := by
  have hdrop : (l ++ b :: t).dropWhile inLine = b :: t := by
    rw [List.dropWhile_append_of_pos fun c hc => by simp [hl c hc]]
    exact List.dropWhile_cons_of_neg (by simp [hb])
  rw [lineStart, hdrop]
  dsimp only
  rw [firstLine_append_of_line hl, firstLine_cons_break hb, List.append_nil]

theorem countP_isBreak_of_line {l : Text} (hl : ∀ c ∈ l, isBreak c = false) :
    l.countP isBreak = 0 :=
  List.countP_eq_zero.2 fun c hc => by simp [hl c hc]

/-- A break at the start of the last lines stays in front of what is kept of them. -/
theorem dropEndWhile_append_break {b : Char} (hb : isBreak b = true) (l t : Text) :
    dropEndWhile inLine (l ++ b :: t) = l ++ b :: dropEndWhile inLine t := by
  obtain ⟨run, ht, hrun, hlast⟩ := dropEndWhile_eq_iff.1 (rfl : dropEndWhile inLine t = _)
  refine dropEndWhile_eq_iff.2 ⟨run, ?_, hrun, fun c hc => ?_⟩
  · conv_lhs => rw [ht]
    rw [List.append_assoc, List.cons_append]
  · rw [List.getLast?_append_cons, List.getLast?_cons, Option.mem_def, Option.some.injEq] at hc
    cases hk : (dropEndWhile inLine t).getLast? with
    | none =>
        rw [hk] at hc
        simp [← hc, hb]
    | some d =>
        rw [hk] at hc
        exact hlast c (hc ▸ hk)

/-- Walking over as many lines as a text has breaks leads behind its last break, whatever follows
the text. -/
theorem lineStart_countP (s t : Text) :
    lineStart (s.countP isBreak) (s ++ t) = (dropEndWhile inLine s).length := by
  obtain hline | ⟨l, b, rest, rfl, hl, hb⟩ := firstLine_cases s
  · have hnil : dropEndWhile inLine s = [] :=
      dropEndWhile_eq_iff.2 ⟨s, rfl, fun c hc => by simp [hline c hc], nofun⟩
    rw [countP_isBreak_of_line hline, hnil]
    rfl
  · have ih := lineStart_countP rest t
    have hcount : (l ++ b :: rest).countP isBreak = rest.countP isBreak + 1 := by
      rw [List.countP_append, countP_isBreak_of_line hl, List.countP_cons_of_pos hb, Nat.zero_add]
    rw [hcount, List.append_assoc, List.cons_append, lineStart_succ_append hl hb, ih,
      dropEndWhile_append_break hb, List.length_append, List.length_cons]
    omega
termination_by s.length

/-- **The position of the end of a text is found again**, whatever follows the text. -/
theorem offsetOf_endPosition (s t : Text) : offsetOf (s ++ t) (endPosition s) = s.length := by
  have hs : dropEndWhile inLine s ++ lastLine s = s := dropEndWhile_append_takeEndWhile _ s
  have hlast : ∀ c ∈ lastLine s, isBreak c = false := fun _ => isBreak_of_mem_lastLine
  have hrest : (s ++ t).drop (dropEndWhile inLine s).length = lastLine s ++ t := by
    have hst : s ++ t = dropEndWhile inLine s ++ (lastLine s ++ t) := by
      rw [← List.append_assoc, hs]
    rw [hst, List.drop_left]
  simp only [offsetOf, endPosition, Nat.add_sub_cancel, lineStart_countP, hrest,
    firstLine_append_of_line hlast, List.length_append]
  have := congrArg List.length hs
  rw [List.length_append] at this
  omega

end Text

namespace Buffer

/-- Moving a buffer to its own cursor does nothing. -/
theorem moveTo_cursor (b : Buffer) : b.moveTo b.cursor = b := by
  obtain ⟨before, after, focused⟩ := b
  have h : Text.offsetOf (before ++ after) (Text.endPosition before) = before.length :=
    Text.offsetOf_endPosition before after
  unfold moveTo
  simp only [text, cursor, h, List.take_left, List.drop_left]

/-- An edit at the position that a buffer shows is made at its cursor. -/
theorem apply_cursor (b : Buffer) (e : Edit) : b.apply b.cursor e = b.applyHere e := by
  rw [apply, moveTo_cursor]

end Buffer
end SpokenEditor
