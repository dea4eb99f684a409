import SpokenEditor.Buffer.Basic
import Mathlib.Data.List.Basic

/-! # The last line and the last word

What is deleted at the end of a text, said without scanning it.

* `lineCleared_iff`: deleting the last line leaves the text up to the last break;
* `wordDeleted_iff`: deleting the last word leaves what stands before the gap at the end and before
  one break, or the longest run of word characters or of marks, in front of that gap. -/

namespace SpokenEditor
namespace Text

/-- `u` is left of `t` when the last line is deleted: the text up to its last break. -/
def LineCleared (t u : Text) : Prop :=
  ∃ line, t = u ++ line ∧ (∀ c ∈ line, isBreak c = false) ∧ ∀ c ∈ u.getLast?, isBreak c = true

/-- `LastWord u word`: the text `u ++ word`, which has no gap at its end, ends with this word. -/
inductive LastWord (u : Text) : Text → Prop
  | nothing (h : ∀ c ∈ u.getLast?, isBlank c = true ∧ isBreak c = false) : LastWord u []
  | lineBreak : LastWord u ['\n']
  | letters (word : Text) (hne : word ≠ []) (hword : ∀ c ∈ word, isWordChar c = true)
      (hlast : ∀ c ∈ u.getLast?, isWordChar c = false) : LastWord u word
  | marks (word : Text) (hne : word ≠ []) (hword : ∀ c ∈ word, isMark c = true)
      (hlast : ∀ c ∈ u.getLast?, isMark c = false) : LastWord u word

/-- `u` is left of `t` when the last word is deleted: the gap at the end, as far as it reaches, and
the word before it. -/
def WordDeleted (t u : Text) : Prop :=
  ∃ word gap, t = u ++ word ++ gap ∧ (∀ c ∈ gap, Buffer.isGap c = true) ∧
    (∀ c ∈ (u ++ word).getLast?, Buffer.isGap c = false) ∧ LastWord u word

theorem lineCleared_iff {t u : Text} :
    LineCleared t u ↔ dropEndWhile (fun c => !isBreak c) t = u := by
  rw [dropEndWhile_eq_iff]
  simp only [LineCleared, Bool.not_eq_true', Bool.not_eq_false']

/-! ### The last character tells the class of the last word -/

theorem isBlank_of_isBreak {c : Char} (h : isBreak c = true) : isBlank c = true := by
  obtain rfl : c = '\n' := by simpa [isBreak] using h
  rfl

theorem isBlank_of_isWordChar {c : Char} (h : isWordChar c = true) : isBlank c = false := by
  cases hb : isBlank c with
  | false => rfl
  | true => exact absurd (h.symm.trans (isWordChar_of_isBlank hb)) (by simp)

theorem isBlank_of_isMark {c : Char} (h : isMark c = true) : isBlank c = false := by
  simp only [isMark, Bool.and_eq_true, Bool.not_eq_true'] at h
  exact h.1

theorem isMark_eq_false_of_isBlank {c : Char} (h : isBlank c = true) : isMark c = false := by
  simp [isMark, h]

theorem sameClass_of_isWordChar {c : Char} (h : isWordChar c = true) :
    Buffer.sameClass c = isWordChar := by
  funext d
  unfold Buffer.sameClass
  rw [isBlank_of_isWordChar h, h]
  cases hd : isWordChar d with
  | false => simp
  | true => simp [isBlank_of_isWordChar hd]

theorem sameClass_of_isMark {c : Char} (h : isMark c = true) : Buffer.sameClass c = isMark := by
  funext d
  simp only [isMark, Bool.and_eq_true, Bool.not_eq_true'] at h
  unfold Buffer.sameClass isMark
  rw [h.1, h.2]
  cases isWordChar d <;> simp

theorem sameClass_of_isBlank {c : Char} (h : isBlank c = true) (d : Char) :
    Buffer.sameClass c d = false := by
  simp [Buffer.sameClass, h]

/-- A character is a blank, a word character or a mark. -/
theorem class_cases (c : Char) : isBlank c = true ∨ isWordChar c = true ∨ isMark c = true := by
  unfold isMark
  cases isBlank c <;> cases isWordChar c <;> simp

/-! ### Deleting the last word -/

variable {l u word : Text} {c : Char}

theorem mem_of_concat_eq (heq : l ++ [c] = u ++ word) (hne : word ≠ []) : c ∈ word := by
  have hlast := congrArg List.getLast? heq
  rw [List.getLast?_concat, List.getLast?_append_of_ne_nil _ hne] at hlast
  exact List.mem_of_getLast? hlast.symm

/-- What the last word is follows from the class of the last character. -/
theorem LastWord.cases_concat (h : LastWord u word) (heq : l ++ [c] = u ++ word) :
    (isBlank c = true ∧ isBreak c = false ∧ word = []) ∨ (isBreak c = true ∧ word = ['\n']) ∨
      (isWordChar c = true ∧ (∀ d ∈ word, isWordChar d = true) ∧
        ∀ d ∈ u.getLast?, isWordChar d = false) ∨
      (isMark c = true ∧ (∀ d ∈ word, isMark d = true) ∧ ∀ d ∈ u.getLast?, isMark d = false) := by
  cases h with
  | nothing h =>
      rw [List.append_nil] at heq
      obtain ⟨hb, hn⟩ := h c (by rw [← heq, List.getLast?_concat]; rfl)
      exact .inl ⟨hb, hn, rfl⟩
  | lineBreak =>
      obtain rfl : c = '\n' := List.mem_singleton.1 (mem_of_concat_eq heq (by simp))
      exact .inr (.inl ⟨rfl, rfl⟩)
  | letters _ hne hword hlast =>
      exact .inr (.inr (.inl ⟨hword c (mem_of_concat_eq heq hne), hword, hlast⟩))
  | marks _ hne hword hlast =>
      exact .inr (.inr (.inr ⟨hword c (mem_of_concat_eq heq hne), hword, hlast⟩))

/-- The last word of a text that ends with a break is that break. -/
theorem lastWord_iff_of_isBreak (hc : isBreak c = true) :
    (∃ word, l ++ [c] = u ++ word ∧ LastWord u word) ↔ l = u := by
  constructor
  · rintro ⟨word, heq, h⟩
    obtain ⟨-, hn, -⟩ | ⟨-, rfl⟩ | ⟨hw, -⟩ | ⟨hm, -⟩ := h.cases_concat heq
    · rw [hc] at hn
      cases hn
    · exact List.append_inj_left' heq rfl
    · rw [isWordChar_of_isBlank (isBlank_of_isBreak hc)] at hw
      cases hw
    · rw [isMark_eq_false_of_isBlank (isBlank_of_isBreak hc)] at hm
      cases hm
  · rintro rfl
    obtain rfl : c = '\n' := by simpa [isBreak] using hc
    exact ⟨['\n'], rfl, .lineBreak⟩

/-- Without its last character of this class, the text goes on with another class. -/
theorem lastWord_iff_dropEndWhile (hn : isBreak c = false) :
    (∃ word, l ++ [c] = u ++ word ∧ LastWord u word) ↔
      dropEndWhile (Buffer.sameClass c) (l ++ [c]) = u := by
  rw [dropEndWhile_eq_iff]
  constructor
  · rintro ⟨word, heq, h⟩
    obtain ⟨hb, -, rfl⟩ | ⟨hb, -⟩ | ⟨hw, hword, hlast⟩ | ⟨hm, hword, hlast⟩ := h.cases_concat heq
    · exact ⟨[], heq, nofun, fun d _ => sameClass_of_isBlank hb d⟩
    · rw [hn] at hb
      cases hb
    · rw [sameClass_of_isWordChar hw]
      exact ⟨word, heq, hword, hlast⟩
    · rw [sameClass_of_isMark hm]
      exact ⟨word, heq, hword, hlast⟩
  · rintro ⟨word, heq, hword, hlast⟩
    have hne : isBlank c = false → word ≠ [] := by
      rintro hb rfl
      have hc := hlast c (by rw [← List.append_nil u, ← heq, List.getLast?_concat]; rfl)
      simp [Buffer.sameClass, hb] at hc
    refine ⟨word, heq, ?_⟩
    obtain hb | hw | hm := class_cases c
    · cases word with
      | nil =>
          rw [List.append_nil] at heq
          refine .nothing fun d hd => ?_
          rw [← heq, List.getLast?_concat, Option.mem_some_iff] at hd
          exact hd ▸ ⟨hb, hn⟩
      | cons d w =>
          have hd := hword d List.mem_cons_self
          rw [sameClass_of_isBlank hb] at hd
          cases hd
    · rw [sameClass_of_isWordChar hw] at hword hlast
      exact .letters word (hne (isBlank_of_isWordChar hw)) hword hlast
    · rw [sameClass_of_isMark hm] at hword hlast
      exact .marks word (hne (isBlank_of_isMark hm)) hword hlast

/-- **What is left when the last word is deleted.** -/
theorem wordDeleted_iff {t u : Text} :
    WordDeleted t u ↔ (Buffer.dropWord t.reverse).reverse = u := by
  obtain ⟨k, hk⟩ : ∃ k, dropEndWhile Buffer.isGap t = k := ⟨_, rfl⟩
  have hrev : t.reverse.dropWhile Buffer.isGap = k.reverse := by
    rw [← hk, dropEndWhile, List.reverse_reverse]
  have hcut : WordDeleted t u ↔ ∃ word, k = u ++ word ∧ LastWord u word := by
    constructor
    · rintro ⟨word, gap, rfl, hgap, hlast, hword⟩
      exact ⟨word, hk ▸ dropEndWhile_eq_iff.2 ⟨gap, rfl, hgap, hlast⟩, hword⟩
    · rintro ⟨word, rfl, hword⟩
      obtain ⟨gap, ht, hgap, hlast⟩ := dropEndWhile_eq_iff.1 hk
      exact ⟨word, gap, ht, hgap, hlast, hword⟩
  rw [hcut, Buffer.dropWord, hrev]
  obtain rfl | ⟨l, c, rfl⟩ := List.eq_nil_or_concat k
  · constructor
    · rintro ⟨word, heq, -⟩
      exact (List.append_eq_nil_iff.1 heq.symm).1.symm
    · rintro rfl
      exact ⟨[], rfl, .nothing fun c hc => by cases hc⟩
  · rw [List.concat_eq_append, List.reverse_append, List.reverse_singleton, List.singleton_append]
    dsimp only
    cases hc : isBreak c with
    | true =>
        rw [if_pos rfl, List.reverse_reverse]
        exact lastWord_iff_of_isBreak hc
    | false =>
        rw [if_neg (by simp), ← List.reverse_concat]
        exact lastWord_iff_dropEndWhile hc

example : Buffer.dropWord "two words\t ".toList.reverse = "two ".toList.reverse := by decide

end Text
end SpokenEditor
