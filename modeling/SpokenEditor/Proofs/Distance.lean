import SpokenEditor.Files.EditDistance
import Mathlib.Order.Bounds.Basic
import Mathlib.Order.MinMax

/-! # The least number of edits

`editDistance` is computed row by row and never looks at an edit.  Here edits are single changes of
a text, and the distance is the least number of them that lead from one text to the other.

`Within n s t` aligns the two texts from the left, with at most `n` places where they differ; it
stands between the rows, which compare the first characters, and the edits, which may be anywhere.

* `editDistance_le_iff`: the rows compute the alignments;
* `Edits.within`, `Within.exists_edits`: alignments and sequences of edits give each other;
* `isLeast_editDistance`: so the distance is the least number of edits;
* `editDistance_comm`, `editDistance_eq_zero_iff`, `editDistance_le_max` and
  `length_le_add_editDistance`: what follows for the number. -/

namespace SpokenEditor

/-- One insertion, deletion or substitution of a character. -/
inductive OneEdit : Text → Text → Prop
  | insert (l r : Text) (c : Char) : OneEdit (l ++ r) (l ++ c :: r)
  | delete (l r : Text) (c : Char) : OneEdit (l ++ c :: r) (l ++ r)
  | substitute (l r : Text) (c d : Char) : OneEdit (l ++ c :: r) (l ++ d :: r)

/-- So many edits, one after the other, lead from the first text to the second. -/
inductive Edits : ℕ → Text → Text → Prop
  | nil (s : Text) : Edits 0 s s
  | cons {n : ℕ} {s u t : Text} (h : OneEdit s u) (hs : Edits n u t) : Edits (n + 1) s t

/-- The texts can be aligned, character by character, with at most `n` differences. -/
inductive Within : ℕ → Text → Text → Prop
  | nil (n : ℕ) : Within n [] []
  | keep {n : ℕ} {s t : Text} (c : Char) (h : Within n s t) : Within n (c :: s) (c :: t)
  | substitute {n : ℕ} {s t : Text} (c d : Char) (h : Within n s t) :
      Within (n + 1) (c :: s) (d :: t)
  | delete {n : ℕ} {s t : Text} (c : Char) (h : Within n s t) : Within (n + 1) (c :: s) t
  | insert {n : ℕ} {s t : Text} (c : Char) (h : Within n s t) : Within (n + 1) s (c :: t)

variable {n : ℕ} {s t u : Text} {c : Char}

/-! ### Alignments -/

namespace Within

theorem refl (n : ℕ) : ∀ s : Text, Within n s s
  | [] => .nil n
  | c :: s => .keep c (refl n s)

theorem symm (h : Within n s t) : Within n t s := by
  induction h with
  | nil n => exact .nil n
  | keep c _ ih => exact .keep c ih
  | substitute c d _ ih => exact .substitute d c ih
  | delete c _ ih => exact .insert c ih
  | insert c _ ih => exact .delete c ih

theorem succ (h : Within n s t) : Within (n + 1) s t := by
  induction h with
  | nil n => exact .nil (n + 1)
  | keep c _ ih => exact .keep c ih
  | substitute c d _ ih => exact .substitute c d ih
  | delete c _ ih => exact .delete c ih
  | insert c _ ih => exact .insert c ih

theorem mono {m : ℕ} (h : Within n s t) (hm : n ≤ m) : Within m s t := by
  induction hm with
  | refl => exact h
  | step _ ih => exact ih.succ

/-- The lengths differ by no more than the alignment. -/
theorem length_le (h : Within n s t) : s.length ≤ t.length + n := by
  induction h with
  | nil n => exact Nat.zero_le _
  | keep c _ ih | substitute c d _ ih | delete c _ ih | insert c _ ih =>
      simp only [List.length_cons]
      omega

theorem eq_of_zero : ∀ {s t : Text}, Within 0 s t → s = t
  | _, _, .nil _ => rfl
  | _, _, .keep c h => congrArg (c :: ·) h.eq_of_zero

/-- The first character of the second text can be left away at the price of one difference. -/
theorem of_cons_right {n : ℕ} {s t : Text} (h : Within n s (c :: t)) : Within (n + 1) s t := by
  cases h with
  | keep _ h => exact .delete c h
  | substitute d _ h => exact (h.delete d).succ
  | delete d h => exact .delete d (of_cons_right h)
  | insert _ h => exact h.succ.succ

theorem of_cons_left (h : Within n (c :: s) t) : Within (n + 1) s t :=
  h.symm.of_cons_right.symm

/-- Nothing is gained by not aligning two equal first characters. -/
theorem of_cons_cons (h : Within n (c :: s) (c :: t)) : Within n s t := by
  cases h with
  | keep _ h => exact h
  | substitute _ _ h => exact h.succ
  | delete _ h => exact h.of_cons_right
  | insert _ h => exact h.of_cons_left

/-- Where the first characters differ, one edit is needed there. -/
theorem cons_cons_iff {d : Char} (hne : c ≠ d) :
    Within n (c :: s) (d :: t) ↔
      ∃ m, n = m + 1 ∧ (Within m s (d :: t) ∨ Within m (c :: s) t ∨ Within m s t) := by
  constructor
  · intro h
    cases h with
    | keep => exact absurd rfl hne
    | delete _ h => exact ⟨_, rfl, .inl h⟩
    | insert _ h => exact ⟨_, rfl, .inr (.inl h)⟩
    | substitute _ _ h => exact ⟨_, rfl, .inr (.inr h)⟩
  · rintro ⟨m, rfl, h | h | h⟩
    · exact .delete c h
    · exact .insert d h
    · exact .substitute c d h

/-- Every character of the longer text is a difference at worst. -/
theorem max_length : ∀ s t : Text, Within (max s.length t.length) s t
  | [], [] => .nil _
  | [], d :: t => by
      have h := (max_length [] t).insert d
      rwa [List.length_nil, Nat.max_eq_right (Nat.zero_le _)] at h ⊢
  | c :: s, [] => by
      have h := (max_length s []).delete c
      rwa [List.length_nil, Nat.max_eq_left (Nat.zero_le _)] at h ⊢
  | c :: s, d :: t => by
      have h := (max_length s t).substitute c d
      rwa [List.length_cons, List.length_cons, Nat.add_max_add_right]

end Within

/-! ### The rows -/

theorem distanceRow_nil (t : Text) : distanceRow [] t = (List.range (t.length + 1)).reverse := rfl

/-- A row without its first entry is the row of a text that is one character shorter. -/
theorem tail_distanceRow (b : Char) (t : Text) :
    ∀ s : Text, (distanceRow s (b :: t)).tail = distanceRow s t
  | [] => by
      rw [distanceRow_nil, List.length_cons, List.range_succ, List.reverse_append]
      rfl
  | c :: s => by
      have ih := tail_distanceRow b t s
      rw [distanceRow_cons, nextRow, List.tail_cons, ih, distanceRow_cons]

theorem editDistance_nil_left (t : Text) : editDistance [] t = t.length := by
  rw [editDistance, distanceRow_nil, List.range_succ, List.reverse_append]
  rfl

theorem editDistance_nil_right : ∀ s : Text, editDistance s [] = s.length
  | [] => rfl
  | c :: s => by
      have ih := editDistance_nil_right s
      rw [editDistance, distanceRow_cons, nextRow, List.headD_cons, ← editDistance, ih,
        List.length_cons]

/-- Equal first characters cost nothing; otherwise the cheapest of the three edits is one more than
what is left to do. -/
theorem editDistance_cons_cons (c d : Char) (s t : Text) :
    editDistance (c :: s) (d :: t) =
      if c = d then editDistance s t
      else
        min (editDistance s (d :: t)) (min (editDistance (c :: s) t) (editDistance s t)) + 1 := by
  have hrow := tail_distanceRow d t s
  simp only [editDistance, distanceRow_cons, nextRow, List.headD_cons, hrow]

/-- **The rows compute the alignments**, by recursion on the two texts. -/
theorem editDistance_le_iff : ∀ {n : ℕ} {s t : Text}, editDistance s t ≤ n ↔ Within n s t
  | n, [], t => by
      rw [editDistance_nil_left]
      constructor
      · exact fun h => (Within.max_length [] t).mono (by simpa using h)
      · exact fun h => by simpa using h.symm.length_le
  | n, c :: s, [] => by
      rw [editDistance_nil_right]
      constructor
      · exact fun h => (Within.max_length (c :: s) []).mono (by simpa using h)
      · exact fun h => by simpa using h.length_le
  | n, c :: s, d :: t => by
      rw [editDistance_cons_cons]
      split
      · next h =>
        subst h
        rw [editDistance_le_iff]
        exact ⟨.keep c, .of_cons_cons⟩
      · next hne =>
        rw [Within.cons_cons_iff hne]
        cases n with
        | zero => simp
        | succ n =>
            rw [Nat.add_le_add_iff_right, min_le_iff, min_le_iff, editDistance_le_iff,
              editDistance_le_iff, editDistance_le_iff]
            simp
termination_by _ s t => s.length + t.length

/-! ### Edits -/

/-- An edit behind a first character that stays. -/
theorem OneEdit.behind (c : Char) (h : OneEdit s t) : OneEdit (c :: s) (c :: t) := by
  cases h with
  | insert l r d => exact .insert (c :: l) r d
  | delete l r d => exact .delete (c :: l) r d
  | substitute l r d e => exact .substitute (c :: l) r d e

theorem Edits.behind (c : Char) (h : Edits n s t) : Edits n (c :: s) (c :: t) := by
  induction h with
  | nil s => exact .nil (c :: s)
  | cons h _ ih => exact .cons (h.behind c) ih

/-- An alignment is carried out by edits, one for each difference. -/
theorem Within.exists_edits (h : Within n s t) : ∃ m ≤ n, Edits m s t := by
  induction h with
  | nil n => exact ⟨0, Nat.zero_le n, .nil []⟩
  | keep c _ ih =>
      obtain ⟨m, hm, h⟩ := ih
      exact ⟨m, hm, h.behind c⟩
  | @substitute n s t c d _ ih =>
      obtain ⟨m, hm, h⟩ := ih
      exact ⟨m + 1, Nat.succ_le_succ hm, .cons (.substitute [] s c d) (h.behind d)⟩
  | @delete n s t c _ ih =>
      obtain ⟨m, hm, h⟩ := ih
      exact ⟨m + 1, Nat.succ_le_succ hm, .cons (.delete [] s c) h⟩
  | @insert n s t c _ ih =>
      obtain ⟨m, hm, h⟩ := ih
      exact ⟨m + 1, Nat.succ_le_succ hm, .cons (.insert [] s c) (h.behind c)⟩

namespace Within

/-- What one edit costs behind a first character it costs in front of it too. -/
theorem behind (hedit : ∀ {n : ℕ} {t : Text}, Within n u t → Within (n + 1) s t) {n : ℕ}
    {t : Text} (h : Within n (c :: u) t) : Within (n + 1) (c :: s) t := by
  cases h with
  | keep _ h => exact .keep c (hedit h)
  | substitute _ d h => exact .substitute c d (hedit h)
  | delete _ h => exact .delete c (hedit h)
  | insert d h => exact .insert d (behind hedit h)

theorem substitute_left {n : ℕ} {d : Char} {t : Text} (h : Within n (d :: s) t) :
    Within (n + 1) (c :: s) t := by
  cases h with
  | keep _ h => exact .substitute c d h
  | substitute _ e h => exact (h.substitute c e).succ
  | delete _ h => exact (h.delete c).succ
  | insert e h => exact .insert e (substitute_left h)

end Within

/-- One edit makes an alignment worse by one difference at most, wherever it is. -/
theorem OneEdit.within (he : OneEdit s u) (h : Within n u t) : Within (n + 1) s t := by
  cases he with
  | insert l r c =>
      induction l generalizing n t with
      | nil => exact h.of_cons_left
      | cons a l ih => exact .behind ih h
  | delete l r c =>
      induction l generalizing n t with
      | nil => exact h.delete c
      | cons a l ih => exact .behind ih h
  | substitute l r c d =>
      induction l generalizing n t with
      | nil => exact h.substitute_left
      | cons a l ih => exact .behind ih h

theorem Edits.within (h : Edits n s t) : Within n s t := by
  induction h with
  | nil s => exact .refl 0 s
  | cons he _ ih => exact he.within ih

/-- **The distance is the least number of edits** that lead from one text to the other. -/
theorem isLeast_editDistance (s t : Text) : IsLeast {n | Edits n s t} (editDistance s t) := by
  have hlower : ∀ m, Edits m s t → editDistance s t ≤ m := fun m h =>
    editDistance_le_iff.2 h.within
  obtain ⟨m, hm, h⟩ := (editDistance_le_iff.1 (le_refl (editDistance s t))).exists_edits
  have heq : m = editDistance s t := le_antisymm hm (hlower m h)
  exact ⟨heq ▸ h, hlower⟩

/-! ### The number -/

theorem editDistance_comm (s t : Text) : editDistance s t = editDistance t s :=
  eq_of_forall_ge_iff fun n => by
    rw [editDistance_le_iff, editDistance_le_iff]
    exact ⟨.symm, .symm⟩

theorem editDistance_eq_zero_iff : editDistance s t = 0 ↔ s = t := by
  rw [← Nat.le_zero, editDistance_le_iff]
  constructor
  · exact Within.eq_of_zero
  · rintro rfl
    exact .refl 0 s

theorem editDistance_le_max (s t : Text) : editDistance s t ≤ max s.length t.length :=
  editDistance_le_iff.2 (.max_length s t)

theorem length_le_add_editDistance (s t : Text) : s.length ≤ t.length + editDistance s t :=
  (editDistance_le_iff.1 (le_refl (editDistance s t))).length_le

end SpokenEditor
