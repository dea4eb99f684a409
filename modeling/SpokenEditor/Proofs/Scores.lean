import SpokenEditor.Files.Similarity
import SpokenEditor.Proofs.Distance
import Mathlib.Algebra.Order.Field.Rat
import Mathlib.Tactic.Positivity
import Mathlib.Tactic.Linarith

/-! # Scores

The exact score of two names, one less their distance in relation to the longer one.

* `exactScore_comm`, `exactScore_nonneg`, `exactScore_le_one`: a symmetric number from zero to one;
* `exactScore_eq_one_iff`: it is one for equal normal forms only;
* `exactScore_of_normalForm_eq_nil`: it is zero if one name is blank and the other is not;
* `exactScore_symmetric_bounded`: all of it, with the distance as the least number of edits. -/

namespace SpokenEditor

theorem longest_comm (s t : Text) : longest s t = longest t s := by
  rw [longest, longest, Nat.max_comm s.length]

theorem longest_pos (s t : Text) : 0 < longest s t :=
  Nat.lt_of_lt_of_le Nat.one_pos (Nat.le_max_right _ _)

theorem editDistance_le_longest (s t : Text) : editDistance s t ≤ longest s t :=
  (editDistance_le_max s t).trans (Nat.le_max_left _ _)

variable (a b : Text)

theorem exactScore_comm : exactScore a b = exactScore b a := by
  rw [exactScore, exactScore, editDistance_comm, longest_comm]

theorem exactScore_le_one : exactScore a b ≤ 1 := by
  have h : (0 : ℚ) ≤ (editDistance (normalForm a) (normalForm b) : ℚ) /
      longest (normalForm a) (normalForm b) := by positivity
  rw [exactScore]
  linarith

theorem exactScore_nonneg : 0 ≤ exactScore a b := by
  have hpos : (0 : ℚ) < longest (normalForm a) (normalForm b) := by
    exact_mod_cast longest_pos _ _
  have hle : (editDistance (normalForm a) (normalForm b) : ℚ) ≤
      longest (normalForm a) (normalForm b) := by
    exact_mod_cast editDistance_le_longest _ _
  have h := div_le_one_of_le₀ hle hpos.le
  rw [exactScore]
  linarith

/-- Only equal normal forms have the score one. -/
theorem exactScore_eq_one_iff : exactScore a b = 1 ↔ normalForm a = normalForm b := by
  have hpos : (longest (normalForm a) (normalForm b) : ℚ) ≠ 0 := by
    exact_mod_cast (longest_pos _ _).ne'
  rw [exactScore, sub_eq_self, div_eq_zero_iff, or_iff_left hpos, Nat.cast_eq_zero,
    editDistance_eq_zero_iff]

variable {a b}

/-- A blank name and one that is not blank have nothing in common. -/
theorem exactScore_of_normalForm_eq_nil (ha : normalForm a = []) (hb : normalForm b ≠ []) :
    exactScore a b = 0 := by
  have hlen : longest [] (normalForm b) = (normalForm b).length := by
    have := List.length_pos_iff.2 hb
    rw [longest, List.length_nil]
    omega
  have hne : ((normalForm b).length : ℚ) ≠ 0 := by
    exact_mod_cast (List.length_pos_iff.2 hb).ne'
  rw [exactScore, ha, editDistance_nil_left, hlen, div_self hne, sub_self]

/-- **The score of two names.**  The distance of the normal forms is the least number of edits
between them; it is at least the difference of their lengths and at most the greater length.  The
score is one less the distance divided by that length.  It is symmetric, lies between zero and one,
is one exactly for names with equal normal forms, and zero if just one of the names is blank. -/
theorem exactScore_symmetric_bounded (a b : Text) :
    IsLeast {n | Edits n (normalForm a) (normalForm b)}
        (editDistance (normalForm a) (normalForm b)) ∧
      (normalForm a).length ≤
        (normalForm b).length + editDistance (normalForm a) (normalForm b) ∧
      (normalForm b).length ≤
        (normalForm a).length + editDistance (normalForm a) (normalForm b) ∧
      editDistance (normalForm a) (normalForm b) ≤
        max (max (normalForm a).length (normalForm b).length) 1 ∧
      exactScore a b = 1 - (editDistance (normalForm a) (normalForm b) : ℚ) /
        (max (max (normalForm a).length (normalForm b).length) 1 : ℕ) ∧
      exactScore a b = exactScore b a ∧
      0 ≤ exactScore a b ∧ exactScore a b ≤ 1 ∧
      (exactScore a b = 1 ↔ normalForm a = normalForm b) ∧
      ((normalForm a = [] ↔ normalForm b ≠ []) → exactScore a b = 0) := by
  refine ⟨isLeast_editDistance _ _, length_le_add_editDistance _ _, ?_,
    editDistance_le_longest _ _, rfl, exactScore_comm a b, exactScore_nonneg a b,
    exactScore_le_one a b, exactScore_eq_one_iff a b, fun h => ?_⟩
  · rw [editDistance_comm]
    exact length_le_add_editDistance _ _
  · by_cases ha : normalForm a = []
    · exact exactScore_of_normalForm_eq_nil ha (h.1 ha)
    · have hb : normalForm b = [] := by
        by_contra hb
        exact ha (h.2 hb)
      rw [exactScore_comm]
      exact exactScore_of_normalForm_eq_nil hb ha

/-- A blank name against one that is not. -/
theorem exactScore_symmetric_bounded_blank :
    (normalForm "\t ".toList = [] ↔ normalForm "Main".toList ≠ []) ∧
      exactScore "\t ".toList "Main".toList = 0 := by
  have h : normalForm "\t ".toList = [] ↔ normalForm "Main".toList ≠ [] := by decide +kernel
  obtain ⟨-, -, -, -, -, -, -, -, -, hzero⟩ :=
    exactScore_symmetric_bounded "\t ".toList "Main".toList
  exact ⟨h, hzero h⟩

end SpokenEditor
