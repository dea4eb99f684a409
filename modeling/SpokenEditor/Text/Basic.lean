/-!
# Texts

A text is a list of Unicode scalar values; lengths, offsets and positions count them. This module
holds the operations that do not look at what a character means: dropping a run at the end, the
dual of `List.dropWhile`, and joining with single spaces.

* `dropEndWhile_append_takeEndWhile`: the two parts of a text cut at its last run give it back.
* `dropEndWhile_eq_iff`, `dropEndWhile_eq_self_iff`: what is left is what stands before a run that
  reaches as far as it can, and that is all of the text if there is no run.
-/

namespace SpokenEditor

/-- A text, character by character. -/
abbrev Text := List Char

namespace Text

/-- The text without the longest run of `p` characters at its end. -/
def dropEndWhile (p : Char → Bool) (t : Text) : Text :=
  (t.reverse.dropWhile p).reverse

/-- The longest run of `p` characters at the end of the text. -/
def takeEndWhile (p : Char → Bool) (t : Text) : Text :=
  (t.reverse.takeWhile p).reverse

/-- The two parts of a text cut before its last run of `p` characters give it back. -/
theorem dropEndWhile_append_takeEndWhile (p : Char → Bool) (t : Text) :
    dropEndWhile p t ++ takeEndWhile p t = t := by
  rw [dropEndWhile, takeEndWhile, ← List.reverse_append, List.takeWhile_append_dropWhile,
    List.reverse_reverse]

/-- What is left stands before a run at the end, and the run cannot be longer. -/
theorem dropEndWhile_eq_iff {p : Char → Bool} {t u : Text} :
    dropEndWhile p t = u ↔
      ∃ run, t = u ++ run ∧ (∀ c ∈ run, p c = true) ∧ ∀ c ∈ u.getLast?, p c = false := by
  constructor
  · rintro rfl
    refine ⟨takeEndWhile p t, (dropEndWhile_append_takeEndWhile p t).symm, ?_, ?_⟩
    · intro c hc
      rw [takeEndWhile, List.mem_reverse] at hc
      exact List.all_eq_true.1 (List.all_takeWhile (l := t.reverse)) c hc
    · intro c hc
      rw [dropEndWhile, List.getLast?_reverse, Option.mem_def] at hc
      have hnot := List.head?_dropWhile_not p t.reverse
      rwa [hc] at hnot
  · rintro ⟨run, rfl, hrun, hlast⟩
    have hrun' : ∀ c ∈ run.reverse, p c = true := fun c hc => hrun c (List.mem_reverse.1 hc)
    rw [dropEndWhile, List.reverse_append, List.dropWhile_append_of_pos hrun']
    cases hu : u.reverse with
    | nil => exact (List.reverse_eq_nil_iff.1 hu).symm
    | cons c v =>
      have hc : p c = false := hlast c (by rw [← List.head?_reverse, hu]; rfl)
      rw [List.dropWhile_cons_of_neg (by simp [hc]), ← hu, List.reverse_reverse]

/-- Nothing is dropped exactly where no run stands at the end. -/
theorem dropEndWhile_eq_self_iff {p : Char → Bool} {t : Text} :
    dropEndWhile p t = t ↔ ∀ c ∈ t.getLast?, p c = false := by
  rw [dropEndWhile_eq_iff]
  constructor
  · rintro ⟨-, -, -, hlast⟩
    exact hlast
  · exact fun hlast => ⟨[], (List.append_nil t).symm, List.forall_mem_nil _, hlast⟩

theorem dropEndWhile_concat (p : Char → Bool) (l : Text) (c : Char) :
    dropEndWhile p (l ++ [c]) = if p c then dropEndWhile p l else l ++ [c] := by
  rw [dropEndWhile, List.reverse_append, List.reverse_singleton, List.singleton_append,
    List.dropWhile_cons]
  split
  · rfl
  · rw [List.reverse_cons, List.reverse_reverse]

/-- The words, one space between each two. -/
def joinWords (ws : List Text) : Text :=
  [' '].intercalate ws

end Text

end SpokenEditor
