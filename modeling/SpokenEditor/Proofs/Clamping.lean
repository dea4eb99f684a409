import SpokenEditor.Proofs.Positions

/-! # Positions outside the text

`Text.clamp` says which position of the text a position stands for: the line is cut to the lines
there are, the column to that line and the place behind it.  Walking over whole lines from the start
and counting breaks backwards from a cursor are the two halves of that rule.

* `lines_eq_splitOn`: the lines are the text split at its breaks;
* `endPosition_take_offsetOf`: the place that a position means has the clamped position;
* `offsetOf_clamp`: a position and its clamped position mean the same place;
* `Buffer.apply_clamp`: so an edit cannot tell the two apart. -/

namespace SpokenEditor
namespace Text

variable {l t : Text} {b : Char}

/-! ### Lines -/

/-- The lines are what stands between the breaks. -/
theorem lines_eq_splitOn : ∀ t : Text, lines t = t.splitOn '\n'
  | [] => rfl
  | c :: t => by
      have ih : lines t = t.splitOnP isBreak := lines_eq_splitOn t
      show lines (c :: t) = (c :: t).splitOnP isBreak
      rw [List.splitOnP_cons_eq_if_modifyHead, ← ih, lines]
      cases hl : lines t with
      | nil => exact absurd hl (lines_ne_nil t)
      | cons l ls => rfl

theorem lines_of_line (hl : ∀ c ∈ l, isBreak c = false) : lines l = [l] := by
  rw [lines_eq_splitOn]
  exact List.splitOnP_eq_singleton hl

theorem lines_append_break (hl : ∀ c ∈ l, isBreak c = false) (hb : isBreak b = true) (t : Text) :
    lines (l ++ b :: t) = l :: lines t := by
  rw [lines_eq_splitOn, lines_eq_splitOn]
  exact List.splitOnP_append_cons_of_forall_mem hl b hb t

/-! ### The clamped position -/

theorem clampedLine_lt (t : Text) (line : ℕ) :
    min (max line 1) (lines t).length - 1 < (lines t).length := by
  have := List.length_pos_iff.2 (lines_ne_nil t)
  omega

/-- The position in the text that a position stands for: the last line if there are too few lines,
the end of the line if it is too short, and one where zero is given. -/
def clamp (t : Text) (p : Position) : Position :=
  have := clampedLine_lt t p.line
  { line := min (max p.line 1) (lines t).length
    column := min (max p.column 1) ((lines t)[min (max p.line 1) (lines t).length - 1].length + 1) }

theorem clamp_of_line (hl : ∀ c ∈ l, isBreak c = false) (p : Position) :
    clamp l p = ⟨1, min (max p.column 1) (l.length + 1)⟩ := by
  have hline : min (max p.line 1) 1 = 1 := by omega
  simp only [clamp, lines_of_line hl, List.length_singleton, hline]
  rfl

theorem clamp_append_break_first (hl : ∀ c ∈ l, isBreak c = false) (hb : isBreak b = true)
    (t : Text) {p : Position} (hp : p.line ≤ 1) :
    clamp (l ++ b :: t) p = ⟨1, min (max p.column 1) (l.length + 1)⟩ := by
  have hline : min (max p.line 1) ((lines t).length + 1) = 1 := by omega
  simp only [clamp, lines_append_break hl hb, List.length_cons, hline]
  rfl

theorem clamp_append_break_succ (hl : ∀ c ∈ l, isBreak c = false) (hb : isBreak b = true)
    (t : Text) (k column : ℕ) :
    clamp (l ++ b :: t) ⟨k + 2, column⟩ =
      ⟨(clamp t ⟨k + 1, column⟩).line + 1, (clamp t ⟨k + 1, column⟩).column⟩ := by
  obtain ⟨m, hm⟩ : ∃ m, (lines t).length = m + 1 :=
    Nat.exists_eq_add_one.2 (List.length_pos_iff.2 (lines_ne_nil t))
  have hline : min (max (k + 2) 1) (m + 1 + 1) = min k m + 2 := by omega
  have hline' : min (max (k + 1) 1) (m + 1) = min k m + 1 := by omega
  simp only [clamp, lines_append_break hl hb, List.length_cons, hm, hline, hline']
  rfl

/-! ### From a position to a place -/

theorem lineStart_of_line (hl : ∀ c ∈ l, isBreak c = false) (k : ℕ) : lineStart k l = 0 := by
  have hdrop : (l.dropWhile fun c => !isBreak c) = [] :=
    List.dropWhile_eq_nil_iff.2 fun c hc => by simp [hl c hc]
  cases k with
  | zero => rfl
  | succ k => rw [lineStart, hdrop]

theorem offsetOf_of_line (hl : ∀ c ∈ l, isBreak c = false) (p : Position) :
    offsetOf l p = min (p.column - 1) l.length := by
  simp only [offsetOf, lineStart_of_line hl, List.drop_zero, firstLine_of_line hl, Nat.zero_add]

theorem offsetOf_append_break_first (hl : ∀ c ∈ l, isBreak c = false) (hb : isBreak b = true)
    (t : Text) {p : Position} (hp : p.line ≤ 1) :
    offsetOf (l ++ b :: t) p = min (p.column - 1) l.length := by
  have hzero : p.line - 1 = 0 := by omega
  simp only [offsetOf, hzero, lineStart, List.drop_zero, firstLine_append_of_line hl,
    firstLine_cons_break hb, List.append_nil, Nat.zero_add]

theorem offsetOf_append_break_succ (hl : ∀ c ∈ l, isBreak c = false) (hb : isBreak b = true)
    (t : Text) (k column : ℕ) :
    offsetOf (l ++ b :: t) ⟨k + 2, column⟩ = l.length + 1 + offsetOf t ⟨k + 1, column⟩ := by
  have hstart : lineStart (k + 2 - 1) (l ++ b :: t) = l.length + (lineStart k t + 1) := by
    rw [Nat.add_succ_sub_one, lineStart_succ_append hl hb]
    omega
  have hdrop : (l ++ b :: t).drop (l.length + (lineStart k t + 1)) = t.drop (lineStart k t) := by
    rw [List.drop_length_add_append, List.drop_succ_cons]
  simp only [offsetOf, hstart, hdrop, Nat.add_sub_cancel]
  omega

/-! ### And back to a position -/

theorem endPosition_of_line (hl : ∀ c ∈ l, isBreak c = false) :
    endPosition l = ⟨1, l.length + 1⟩ := by
  have hlast : lastLine l = l := by
    have hrev : ∀ c ∈ l.reverse, (!isBreak c) = true := fun c hc => by
      simp [hl c (List.mem_reverse.1 hc)]
    rw [lastLine, takeEndWhile, List.takeWhile_eq_self_iff.2 hrev, List.reverse_reverse]
  rw [endPosition, countP_isBreak_of_line hl, hlast]

theorem lastLine_append_break (hb : isBreak b = true) (l t : Text) :
    lastLine (l ++ b :: t) = lastLine t := by
  have hdrop := dropEndWhile_append_break hb l t
  have hwhole := dropEndWhile_append_takeEndWhile (fun c => !isBreak c) (l ++ b :: t)
  rw [hdrop, List.append_assoc, List.cons_append, List.append_cancel_left_eq,
    List.cons.injEq] at hwhole
  exact List.append_cancel_left
    (hwhole.2.trans (dropEndWhile_append_takeEndWhile (fun c => !isBreak c) t).symm)

theorem endPosition_append_break (hl : ∀ c ∈ l, isBreak c = false) (hb : isBreak b = true)
    (t : Text) :
    endPosition (l ++ b :: t) = ⟨(endPosition t).line + 1, (endPosition t).column⟩ := by
  have hcount : (l ++ b :: t).countP isBreak = t.countP isBreak + 1 := by
    rw [List.countP_append, countP_isBreak_of_line hl, List.countP_cons_of_pos hb, Nat.zero_add]
  rw [endPosition, endPosition, hcount, lastLine_append_break hb]

theorem endPosition_take_of_line (hl : ∀ c ∈ l, isBreak c = false) (column : ℕ) :
    endPosition (l.take (min (column - 1) l.length)) =
      ⟨1, min (max column 1) (l.length + 1)⟩ := by
  have hcolumn : min (min (column - 1) l.length) l.length + 1 =
      min (max column 1) (l.length + 1) := by omega
  rw [endPosition_of_line fun c hc => hl c (List.mem_of_mem_take hc), List.length_take, hcolumn]

/-- **The place that a position means has the clamped position**, by induction on the lines. -/
theorem endPosition_take_offsetOf (t : Text) (p : Position) :
    endPosition (t.take (offsetOf t p)) = clamp t p := by
  obtain hline | ⟨l, b, rest, rfl, hl, hb⟩ := firstLine_cases t
  · rw [offsetOf_of_line hline, clamp_of_line hline, endPosition_take_of_line hline]
  · obtain ⟨line, column⟩ := p
    match line with
    | 0 | 1 =>
        have hfirst : ∀ n ≤ l.length, (l ++ b :: rest).take n = l.take n := fun n hn =>
          List.take_append_of_le_length hn
        rw [offsetOf_append_break_first hl hb rest (by simp),
          clamp_append_break_first hl hb rest (by simp), hfirst _ (Nat.min_le_right _ _),
          endPosition_take_of_line hl]
    | k + 2 =>
        have ih := endPosition_take_offsetOf rest ⟨k + 1, column⟩
        have hrest : (l ++ b :: rest).take (l.length + 1 + offsetOf rest ⟨k + 1, column⟩) =
            l ++ b :: rest.take (offsetOf rest ⟨k + 1, column⟩) := by
          rw [Nat.add_assoc, Nat.add_comm 1, List.take_length_add_append, List.take_succ_cons]
        rw [offsetOf_append_break_succ hl hb, hrest, endPosition_append_break hl hb, ih,
          clamp_append_break_succ hl hb]
termination_by t.length

/-- A position and its clamped position mean the same place. -/
theorem offsetOf_clamp (t : Text) (p : Position) : offsetOf t (clamp t p) = offsetOf t p := by
  have h := offsetOf_endPosition (t.take (offsetOf t p)) (t.drop (offsetOf t p))
  rw [endPosition_take_offsetOf, List.take_append_drop, List.length_take,
    Nat.min_eq_left (offsetOf_le_length t p)] at h
  exact h

end Text

namespace Buffer

/-- A buffer that is moved shows the clamped position. -/
theorem cursor_moveTo (p : Position) (b : Buffer) :
    (b.moveTo p).cursor = Text.clamp b.text p :=
  Text.endPosition_take_offsetOf b.text p

theorem moveTo_clamp (p : Position) (b : Buffer) :
    b.moveTo (Text.clamp b.text p) = b.moveTo p := by
  simp only [moveTo, Text.offsetOf_clamp]

/-- **Positions and places are inverse up to clamping.**  The position that a buffer shows leads
back to its cursor; a buffer that is moved to any position shows that position, cut to the lines of
the text and to the length of its line; and an edit at a position is the edit at the clamped one. -/
theorem apply_clamp (b : Buffer) (p : Position) :
    Text.lines b.text = b.text.splitOn '\n' ∧
      Text.offsetOf b.text b.cursor = b.offset ∧
      (b.moveTo p).cursor = Text.clamp b.text p ∧
      ∀ e, b.apply p e = b.apply (Text.clamp b.text p) e := by
  refine ⟨Text.lines_eq_splitOn _, ?_, cursor_moveTo p b, fun e => ?_⟩
  · exact Text.offsetOf_endPosition b.before b.after
  · rw [apply, apply, moveTo_clamp]

end Buffer
end SpokenEditor
