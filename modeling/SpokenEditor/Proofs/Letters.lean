import Mathlib
import SpokenEditor.Text.Ascii
import SpokenEditor.Text.Blank

/-! # Letters and blanks

Lowering a text changes its ASCII letters and nothing else, and no letter is a blank.  So texts that
are equal up to case have letters and blanks in the same places.

* `isBlank_of_isAlpha`: no letter is a blank;
* `isBlank_toLower`: lowering makes no blank and removes none;
* `filter_isAlpha_trimStart`, `filter_isAlpha_trimEnd`: trimming keeps all letters;
* `trimEnd_eq_self_iff`, `isBlank_head_trim`, `isBlank_getLast_trim`, `trim_eq_self`: a trimmed text
  has no blank at its ends, and a text without them stays as it is. -/

namespace SpokenEditor.Text

variable {c : Char} {s t : Text}

/-- No letter is a blank. -/
theorem isBlank_of_isAlpha (h : c.isAlpha = true) : isBlank c = false := by
  have hn : c.val.toNat = c.toNat := rfl
  simp only [Char.isAlpha, Char.isUpper, Char.isLower, Bool.or_eq_true, Bool.and_eq_true,
    decide_eq_true_eq, ge_iff_le, UInt32.le_iff_toNat_le, hn] at h
  change (65 ≤ c.toNat ∧ c.toNat ≤ 90) ∨ (97 ≤ c.toNat ∧ c.toNat ≤ 122) at h
  simp only [isBlank, Bool.or_eq_false_iff, Bool.and_eq_false_iff, decide_eq_false_iff_not,
    beq_eq_false_iff_ne]
  omega

/-- Lowering makes no blank and removes none. -/
theorem isBlank_toLower (c : Char) : isBlank c.toLower = isBlank c := by
  by_cases hu : c.isUpper = true
  · have hc : c.isAlpha = true := by rw [Char.isAlpha, hu, Bool.true_or]
    rw [isBlank_of_isAlpha hc, isBlank_of_isAlpha (c.isAlpha_toLower_eq_isAlpha.trans hc)]
  · rw [Char.toLower_eq_of_not_isUpper hu]

theorem toLower_of_isDigit (h : c.isDigit = true) : c.toLower = c := by
  refine Char.toLower_eq_of_not_isUpper fun hu => ?_
  simp only [Char.isDigit, Char.isUpper, Bool.and_eq_true, decide_eq_true_eq, ge_iff_le,
    UInt32.le_iff_toNat_le] at h hu
  exact absurd (hu.1.trans h.2) (by decide)

/-- A run without letters at the start of a text adds nothing to its letters. -/
theorem filter_isAlpha_dropWhile {p : Char → Bool} (hp : ∀ c, p c = true → c.isAlpha = false)
    (t : Text) : (t.dropWhile p).filter Char.isAlpha = t.filter Char.isAlpha := by
  have hrun : (t.takeWhile p).filter Char.isAlpha = [] := by
    refine List.filter_eq_nil_iff.2 fun c hc hletter => ?_
    rw [hp c (List.all_eq_true.1 List.all_takeWhile c hc)] at hletter
    cases hletter
  have hsplit := congrArg (List.filter Char.isAlpha) (List.takeWhile_append_dropWhile (p := p) (l := t))
  rwa [List.filter_append, hrun, List.nil_append] at hsplit

theorem isAlpha_of_isBlank (h : isBlank c = true) : c.isAlpha = false := by
  rw [← Bool.not_eq_true]
  intro hletter
  rw [isBlank_of_isAlpha hletter] at h
  cases h

theorem filter_isAlpha_trimStart (t : Text) :
    (trimStart t).filter Char.isAlpha = t.filter Char.isAlpha :=
  filter_isAlpha_dropWhile (fun _ => isAlpha_of_isBlank) t

theorem filter_isAlpha_trimEnd (t : Text) :
    (trimEnd t).filter Char.isAlpha = t.filter Char.isAlpha := by
  have h := filter_isAlpha_dropWhile (fun _ => isAlpha_of_isBlank) t.reverse
  rw [List.filter_reverse] at h
  rw [trimEnd, dropEndWhile, List.filter_reverse, h, List.reverse_reverse]

theorem sameLetters_iff : sameLetters s t = true ↔ s.map Char.toLower = t.map Char.toLower :=
  beq_iff_eq

/-! ### The ends of a text -/

variable {p : Char → Bool}

theorem dropWhile_of_head (h : ∀ c ∈ t.head?, p c = false) : t.dropWhile p = t := by
  cases t with
  | nil => rfl
  | cons c t => exact List.dropWhile_cons_of_neg (by simp [h c rfl])

theorem takeWhile_of_head (h : ∀ c ∈ t.head?, p c = false) : t.takeWhile p = [] := by
  cases t with
  | nil => rfl
  | cons c t => exact List.takeWhile_cons_of_neg (by simp [h c rfl])

theorem trimEnd_eq_self_iff : trimEnd t = t ↔ ∀ c ∈ t.getLast?, isBlank c = false :=
  dropEndWhile_eq_self_iff

theorem trimEnd_trimEnd (t : Text) : trimEnd (trimEnd t) = trimEnd t := by
  obtain ⟨-, -, -, hlast⟩ := dropEndWhile_eq_iff.1 (rfl : dropEndWhile isBlank t = trimEnd t)
  exact trimEnd_eq_self_iff.2 hlast

theorem isBlank_getLast_trim (t : Text) : ∀ c ∈ (trim t).getLast?, isBlank c = false :=
  trimEnd_eq_self_iff.1 (trimEnd_trimEnd (trimStart t))

theorem isBlank_head_trim (t : Text) : ∀ c ∈ (trim t).head?, isBlank c = false := by
  have hwhole : trim t ++ takeEndWhile isBlank (trimStart t) = trimStart t :=
    dropEndWhile_append_takeEndWhile isBlank (trimStart t)
  intro c hc
  have hstart : (trimStart t).head? = some c := by
    rw [← hwhole, List.head?_append, Option.mem_def.1 hc, Option.some_or]
  have hnot := List.head?_dropWhile_not isBlank t
  rwa [← trimStart, hstart] at hnot

/-- A text without blanks at its ends is not trimmed. -/
theorem trim_eq_self (hhead : ∀ c ∈ t.head?, isBlank c = false)
    (hlast : ∀ c ∈ t.getLast?, isBlank c = false) : trim t = t := by
  have hstart : trimStart t = t := dropWhile_of_head hhead
  rw [trim, hstart, trimEnd_eq_self_iff]
  exact hlast

theorem trim_trim (t : Text) : trim (trim t) = trim t :=
  trim_eq_self (isBlank_head_trim t) (isBlank_getLast_trim t)

end SpokenEditor.Text
