import SpokenEditor.Proofs.LastWord
import SpokenEditor.Proofs.Positions

/-! # Deleting one word

What stands at the end of a text tells what is deleted with the gap behind it: one break, one run of a
class, or nothing.

* `IsRun.isSuffix`: a run that goes on no further is the longest one;
* `LastWord.taken`: the character before the gap tells the word;
* `LastWord.count_newline_append_le`, `LastWord.class_unique_append`: one break at most, and one class
  at most;
* `taken_eq_nil_iff`: where nothing is deleted;
* `Buffer.deleteWord_oneWord`: so the deletion of a word takes away one word, wherever it is made. -/

namespace SpokenEditor

namespace Text

/-- `IsRun p u run`: of the text `u ++ run`, this is the longest run of `p` characters at the end. -/
def IsRun (p : Char → Prop) (u run : Text) : Prop :=
  (∀ c ∈ run, p c) ∧ ∀ c ∈ u.getLast?, ¬p c

/-- Whether the character `d` may stand in one word with `c`, which is no white space: neither is `d`,
and both or none are word characters. -/
def OneClass (c d : Char) : Prop :=
  isBlank d = false ∧ isWordChar d = isWordChar c

/-- `Taken u word last`: of the text `u ++ word`, whose last character is `last`, this word is
deleted. -/
def Taken (u word : Text) : Option Char → Prop
  | none => word = []
  | some c =>
      if c = '\n' then word = ['\n'] else if isBlank c = true then word = []
      else IsRun (OneClass c) u word

variable {u word gap : Text}

/-- A run that goes on no further is the longest one: every other run at the end is part of it. -/
theorem IsRun.isSuffix {p : Char → Prop} {v run run' : Text} (h : IsRun p u run)
    (heq : u ++ run = v ++ run') (hrun' : ∀ c ∈ run', p c) : run' <:+ run := by
  obtain ⟨x, -, hx⟩ | ⟨x, hu, hx⟩ := List.append_eq_append_iff.1 heq
  · exact ⟨x, hx.symm⟩
  · have hnil : x = [] := by
      by_contra hne
      obtain ⟨c, hc⟩ := Option.ne_none_iff_exists'.1 (mt List.getLast?_eq_none_iff.1 hne)
      have hlast : c ∈ u.getLast? := by
        rw [hu, List.getLast?_append_of_ne_nil _ hne]
        exact hc
      have hmem : c ∈ run' := by
        rw [hx]
        exact List.mem_append_left _ (List.mem_of_getLast? hc)
      exact h.2 c hlast (hrun' c hmem)
    rw [hx, hnil]
    exact List.suffix_rfl

theorem isGap_iff {c : Char} : Buffer.isGap c = true ↔ c = ' ' ∨ c = '\t' := by
  simp [Buffer.isGap]

theorem isBlank_of_isGap {c : Char} (h : Buffer.isGap c = true) : isBlank c = true := by
  obtain rfl | rfl := isGap_iff.1 h <;> rfl

theorem isBreak_iff {c : Char} : isBreak c = true ↔ c = '\n' := by
  simp [isBreak]

/-! ### The word -/

/-- A run of word characters or of marks, as the run of the class of its last character. -/
theorem isRun_oneClass {p : Char → Bool} {c : Char} (hp : ∀ d, p d = true ↔ OneClass c d)
    (hword : ∀ d ∈ word, p d = true) (hlast : ∀ d ∈ u.getLast?, p d = false) :
    IsRun (OneClass c) u word :=
  ⟨fun d hd => (hp d).1 (hword d hd), fun d hd h => by
    have hpd := (hp d).2 h
    rw [hlast d hd] at hpd
    cases hpd⟩

theorem isWordChar_iff_oneClass {c : Char} (hc : isWordChar c = true) (d : Char) :
    isWordChar d = true ↔ OneClass c d :=
  ⟨fun hd => ⟨isBlank_of_isWordChar hd, hd.trans hc.symm⟩, fun h => h.2.trans hc⟩

theorem isMark_iff_oneClass {c : Char} (hc : isMark c = true) (d : Char) :
    isMark d = true ↔ OneClass c d := by
  simp only [isMark, Bool.and_eq_true, Bool.not_eq_true'] at hc
  simp only [isMark, Bool.and_eq_true, Bool.not_eq_true', OneClass, hc.2]

/-- **The last character tells the word.** -/
theorem LastWord.taken (h : LastWord u word) : Taken u word (u ++ word).getLast? := by
  obtain hnil | ⟨l, c, hlast⟩ := List.eq_nil_or_concat (u ++ word)
  · rw [hnil]
    exact (List.append_eq_nil_iff.1 hnil).2
  · rw [List.concat_eq_append] at hlast
    rw [hlast, List.getLast?_concat]
    have hnotBreak : isBlank c = false → c ≠ '\n' := by
      rintro hb rfl
      cases hb
    obtain ⟨hb, hn, rfl⟩ | ⟨hn, rfl⟩ | ⟨hc, hword, hu⟩ | ⟨hc, hword, hu⟩ :=
      h.cases_concat hlast.symm
    · have hne : c ≠ '\n' := by
        rintro rfl
        cases hn
      rw [Taken, if_neg hne, if_pos hb]
    · rw [Taken, if_pos (isBreak_iff.1 hn)]
    · have hb := isBlank_of_isWordChar hc
      rw [Taken, if_neg (hnotBreak hb), if_neg (by simp [hb])]
      exact isRun_oneClass (isWordChar_iff_oneClass hc) hword hu
    · have hb := isBlank_of_isMark hc
      rw [Taken, if_neg (hnotBreak hb), if_neg (by simp [hb])]
      exact isRun_oneClass (isMark_iff_oneClass hc) hword hu

/-- A character that is no blank takes itself along. -/
theorem Taken.ne_nil {c : Char} (h : Taken u word (some c)) (hu : (u ++ word).getLast? = some c)
    (hc : c = '\n' ∨ isBlank c = false) : word ≠ [] := by
  rintro rfl
  rw [List.append_nil] at hu
  by_cases hn : c = '\n'
  · rw [Taken, if_pos hn] at h
    cases h
  · have hb := hc.resolve_left hn
    rw [Taken, if_neg hn, if_neg (by simp [hb])] at h
    exact h.2 c hu ⟨hb, rfl⟩

theorem not_mem_newline_of_not_isBlank (h : ∀ c ∈ word, isBlank c = false) : '\n' ∉ word := by
  intro hn
  cases h '\n' hn

/-- A word has one break at most. -/
theorem LastWord.count_newline_le (h : LastWord u word) : word.count '\n' ≤ 1 := by
  cases h with
  | nothing => exact Nat.zero_le _
  | lineBreak => exact Nat.le_refl _
  | letters _ _ hword =>
      rw [List.count_eq_zero.2 (not_mem_newline_of_not_isBlank fun c hc =>
        isBlank_of_isWordChar (hword c hc))]
      exact Nat.zero_le _
  | marks _ _ hword =>
      rw [List.count_eq_zero.2 (not_mem_newline_of_not_isBlank fun c hc =>
        isBlank_of_isMark (hword c hc))]
      exact Nat.zero_le _

/-- A word has no word character next to a mark. -/
theorem LastWord.class_unique (h : LastWord u word) {c d : Char} (hc : c ∈ word)
    (hd : d ∈ word) (hletter : isWordChar c = true) : isMark d = false := by
  cases h with
  | nothing => cases hc
  | lineBreak =>
      obtain rfl := List.mem_singleton.1 hd
      rfl
  | letters _ _ hword => simp [isMark, hword d hd]
  | marks _ _ hword => simpa [isMark, hletter] using hword c hc

/-! ### The gap behind it -/

theorem isBlank_of_mem_gap (hgap : ∀ c ∈ gap, Buffer.isGap c = true) {c : Char} (hc : c ∈ gap) :
    isBlank c = true :=
  isBlank_of_isGap (hgap c hc)

/-- A gap has no break, so there is one at most with the word before it. -/
theorem LastWord.count_newline_append_le (h : LastWord u word)
    (hgap : ∀ c ∈ gap, Buffer.isGap c = true) : (word ++ gap).count '\n' ≤ 1 := by
  have hnone : gap.count '\n' = 0 := List.count_eq_zero.2 fun hc => by cases hgap _ hc
  rw [List.count_append, hnone]
  exact h.count_newline_le

/-- A gap has neither a word character nor a mark, so the word before it has all of either. -/
theorem LastWord.class_unique_append (h : LastWord u word)
    (hgap : ∀ c ∈ gap, Buffer.isGap c = true) {c d : Char} (hc : c ∈ word ++ gap)
    (hd : d ∈ word ++ gap) : ¬(isWordChar c = true ∧ isMark d = true) := by
  rintro ⟨hletter, hmark⟩
  have hc' : c ∈ word := (List.mem_append.1 hc).resolve_right fun hc => by
    rw [isWordChar_of_isBlank (isBlank_of_mem_gap hgap hc)] at hletter
    cases hletter
  have hd' : d ∈ word := (List.mem_append.1 hd).resolve_right fun hd => by
    rw [isMark_eq_false_of_isBlank (isBlank_of_mem_gap hgap hd)] at hmark
    cases hmark
  rw [h.class_unique hc' hd' hletter] at hmark
  cases hmark

/-- Behind a character that belongs to no gap there is none. -/
theorem gap_eq_nil {t : Text} {c : Char} (hgap : ∀ d ∈ gap, Buffer.isGap d = true)
    (hlast : (t ++ gap).getLast? = some c) (hc : Buffer.isGap c = false) : gap = [] := by
  by_contra hne
  rw [List.getLast?_append_of_ne_nil _ hne] at hlast
  have := hgap c (List.mem_of_getLast? hlast)
  rw [hc] at this
  cases this

/-- Nothing is deleted at the start of a text, and behind white space that is neither a gap nor a
break. -/
theorem taken_eq_nil_iff (hgap : ∀ d ∈ gap, Buffer.isGap d = true)
    (hlast : ∀ d ∈ (u ++ word).getLast?, Buffer.isGap d = false)
    (htaken : Taken u word (u ++ word).getLast?) :
    word ++ gap = [] ↔ u ++ word ++ gap = [] ∨ ∃ c ∈ (u ++ word ++ gap).getLast?,
      isBlank c = true ∧ Buffer.isGap c = false ∧ c ≠ '\n' := by
  constructor
  · intro hnil
    obtain ⟨rfl, rfl⟩ := List.append_eq_nil_iff.1 hnil
    simp only [List.append_nil] at hlast htaken ⊢
    cases hu : u.getLast? with
    | none => exact .inl (List.getLast?_eq_none_iff.1 hu)
    | some c =>
        rw [hu] at htaken
        have hkept : ¬(c = '\n' ∨ isBlank c = false) := fun hc =>
          htaken.ne_nil (by rw [List.append_nil, hu]) hc rfl
        rw [not_or, Bool.not_eq_false] at hkept
        exact .inr ⟨c, rfl, hkept.2, hlast c hu, hkept.1⟩
  · rintro (hnil | ⟨c, hc, hblank, hnotGap, hnotBreak⟩)
    · rw [List.append_assoc] at hnil
      exact (List.append_eq_nil_iff.1 hnil).2
    · obtain rfl := gap_eq_nil hgap hc hnotGap
      rw [List.append_nil] at hc ⊢
      rw [hc, Taken, if_neg hnotBreak, if_pos hblank] at htaken
      exact htaken

end Text

namespace Buffer

/-- **One word is deleted.**  Wherever the deletion of a word is asked for, it takes away the longest
run of spaces and tabs before that place, and with it what the character before that run tells: nothing
where there is none, one break behind a break, nothing behind other white space, and else the longest
run of its class.  So it takes away one break at most, no word character together with a mark, and
nothing exactly at the start of the text and behind white space that is no space, no tab and no break.
A buffer has any text and any offset in it, and its own position leads to that offset. -/
theorem deleteWord_oneWord (b : Buffer) : b.moveTo b.cursor = b ∧ ∀ p,
    let here := b.moveTo p
    let next := b.apply p .deleteWord
    ∃ word gap, here.before = next.before ++ word ++ gap ∧ next.after = here.after ∧
      Text.IsRun (fun c => c = ' ' ∨ c = '\t') (next.before ++ word) gap ∧
      Text.Taken next.before word (next.before ++ word).getLast? ∧
      (word ++ gap).count '\n' ≤ 1 ∧
      (∀ c ∈ word ++ gap, ∀ d ∈ word ++ gap,
        ¬(Text.isWordChar c = true ∧ Text.isMark d = true)) ∧
      (word ++ gap = [] ↔ here.offset = 0 ∨ ∃ c ∈ here.before.getLast?,
        Text.isBlank c = true ∧ ¬(c = ' ' ∨ c = '\t') ∧ c ≠ '\n') := by
  refine ⟨b.moveTo_cursor, fun p => ?_⟩
  intro here next
  have hdeleted : Text.WordDeleted here.before next.before := Text.wordDeleted_iff.2 rfl
  obtain ⟨word, gap, hsplit, hgap, hlast, hword⟩ := hdeleted
  refine ⟨word, gap, hsplit, rfl, ⟨fun c hc => Text.isGap_iff.1 (hgap c hc), fun c hc h => ?_⟩,
    hword.taken, hword.count_newline_append_le hgap,
    fun c hc d hd => hword.class_unique_append hgap hc hd, ?_⟩
  · have := hlast c hc
    rw [Text.isGap_iff.2 h] at this
    cases this
  · have hoffset : here.offset = 0 ↔ next.before ++ word ++ gap = [] := by
      rw [offset, hsplit, List.length_eq_zero_iff]
    simp only [hoffset, hsplit, ← Text.isGap_iff, Bool.not_eq_true]
    exact Text.taken_eq_nil_iff hgap hlast hword.taken

example : (Buffer.ofText "one\ntwo".toList).deleteWord.text = "one\n".toList := by decide

end Buffer
end SpokenEditor
