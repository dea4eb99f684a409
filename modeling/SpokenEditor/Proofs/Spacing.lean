import SpokenEditor.Proofs.Readings

/-! # Spacing

Counts and text are read off the lowercase words of a phrase, whatever blanks stand between them.
The two fixed phrases are compared as they stand: their words are one space apart, and with anything
else between them the phrase is a void delete.

* `Reads.congr`: phrases with the same words are read alike, if these are not the words of a fixed
  phrase;
* `interpret_of_fixed`: a phrase with the words of a fixed phrase;
* `interpret_ignoresSpacing`, `interpret_delete_word_apart`: both together, and why the fixed phrases
  are left out. -/

namespace SpokenEditor

variable {p q : Text} {o : Option Edit} {word : String} {e : Edit}

/-- The fixed phrases: each is `delete`, a space and a word, and stands for an edit. -/
def fixedDeletes : List (String × Edit) :=
  [("word", .deleteWord), ("line", .deleteLine)]

theorem dictatedText_congr (h : tokens p = tokens q) : dictatedText p = dictatedText q := by
  have hwords : dictatedWords p = dictatedWords q := by
    rw [dictatedWords, dictatedWords, ← tokens_eq, ← tokens_eq, h]
  rw [dictatedText, dictatedText, hwords]

/-- **Phrases with the same words are read alike**, by cases on how the first one is read. -/
theorem Reads.congr (h : tokens p = tokens q)
    (hfixed : ∀ word ∈ ["word", "line"], tokens p ≠ ["delete".toList, word.toList])
    (hreads : Reads p o) : Reads q o := by
  have hne : ∀ word ∈ ["word", "line"], deletePhrase q ≠ "delete ".toList ++ word.toList :=
    fun word hword hq => hfixed word hword (h.trans (tokens_of_fixed word hword hq))
  cases hreads with
  | numeral k hk hdigits hpos hle => exact .numeral k (h ▸ hk) hdigits hpos hle
  | cardinal n word hn hpos hk => exact .cardinal n word hn hpos (h ▸ hk)
  | word hp => exact absurd (tokens_of_fixed "word" (by simp) hp) (hfixed "word" (by simp))
  | line hp => exact absurd (tokens_of_fixed "line" (by simp) hp) (hfixed "line" (by simp))
  | void hvoid => exact .void (hvoid.congr h fun word hword _ => hne word hword)
  | blank hblank =>
    rw [← tokens_eq_nil_iff, h, tokens_eq_nil_iff] at hblank
    exact .blank hblank
  | text hdelete hspoken =>
    rw [← tokens_ne_nil_iff, h, tokens_ne_nil_iff] at hspoken
    rw [dictatedText_congr h]
    exact .text (fun k => h ▸ hdelete k) hspoken

/-- **A fixed phrase has one space between its words.**  With any other blanks it asks for nothing. -/
theorem interpret_of_fixed (hfixed : (word, e) ∈ fixedDeletes)
    (h : tokens p = ["delete".toList, word.toList]) :
    interpret p = if deletePhrase p = "delete ".toList ++ word.toList then some e else none := by
  have hnone : ∀ fixed ∈ fixedDeletes, countOfToken? fixed.1.toList = none := by
    decide +kernel
  have hcount : countOfToken? word.toList = none := hnone (word, e) hfixed
  rw [interpret_of_delete h, hcount]
  simp only [fixedDeletes, List.mem_cons, Prod.mk.injEq, List.not_mem_nil, or_false] at hfixed
  -- the other fixed phrase has another second word
  obtain ⟨rfl, rfl⟩ | ⟨rfl, rfl⟩ := hfixed
  · have hline : deletePhrase p ≠ "delete line".toList := fun e =>
      absurd (h.symm.trans (tokens_of_fixed "line" (by simp) e)) (by decide)
    dsimp only
    rw [if_neg hline]
    rfl
  · have hword : deletePhrase p ≠ "delete word".toList := fun e =>
      absurd (h.symm.trans (tokens_of_fixed "word" (by simp) e)) (by decide)
    dsimp only
    rw [if_neg hword]
    rfl

/-- **Spacing and case do not matter, but for the two fixed phrases.**  Phrases with the same
lowercase words ask for the same, unless the words are those of `delete word` or `delete line`; these
ask for their edit if the trimmed phrase has just one space between the two words, and for nothing
otherwise. -/
theorem interpret_ignoresSpacing
    (h : Text.words (Text.lowercase p) = Text.words (Text.lowercase q)) :
    ((∀ word ∈ ["word", "line"],
      Text.words (Text.lowercase p) ≠ ["delete".toList, word.toList]) → interpret p = interpret q) ∧
      ∀ word e, (word, e) ∈ fixedDeletes →
        Text.words (Text.lowercase p) = ["delete".toList, word.toList] → ∀ r ∈ [p, q],
          interpret r = if deletePhrase r = "delete ".toList ++ word.toList then some e else none := by
  rw [← tokens_eq, ← tokens_eq] at h
  rw [← tokens_eq]
  refine ⟨fun hfixed => ?_, fun word e hfixed hp r hr => ?_⟩
  · obtain ⟨o, hreads⟩ := exists_reads p
    rw [hreads.interpret_eq, (hreads.congr h hfixed).interpret_eq]
  · simp only [List.mem_cons, List.not_mem_nil, or_false] at hr
    obtain rfl | rfl := hr
    · exact interpret_of_fixed hfixed hp
    · exact interpret_of_fixed hfixed (h ▸ hp)

/-- Cues apart by other blanks and in capitals, and a fixed phrase with a tab. -/
theorem interpret_ignoresSpacing_tab :
    let p := "\tPrint  P1\u00a0ΣΑΣ\n".toList
    let q := "print p1 Σας".toList
    let tab := "Delete\tLine ".toList
    let space := " delete LINE".toList
    (Text.words (Text.lowercase p) = Text.words (Text.lowercase q) ∧
      interpret p = interpret q ∧ interpret q = some (.insertText "print ( σας ".toList)) ∧
    Text.words (Text.lowercase tab) = Text.words (Text.lowercase space) ∧
      interpret tab = none ∧ interpret space = some .deleteLine := by
  intro p q tab space
  have hpq : Text.words (Text.lowercase p) = Text.words (Text.lowercase q) := by decide +kernel
  have htab : Text.words (Text.lowercase tab) = Text.words (Text.lowercase space) := by
    decide +kernel
  have hline := (interpret_ignoresSpacing htab).2 "line" .deleteLine (by simp [fixedDeletes])
    (by decide +kernel)
  refine ⟨⟨hpq, (interpret_ignoresSpacing hpq).1 (by decide +kernel), by decide +kernel⟩, htab, ?_, ?_⟩
  · exact (hline tab (by simp)).trans (if_neg (by decide +kernel))
  · exact (hline space (by simp)).trans (if_pos (by decide +kernel))

/-- Two spaces between the words of a fixed phrase: the words are the same, the edit is not. -/
theorem interpret_delete_word_apart :
    Text.words (Text.lowercase "delete word".toList) =
        Text.words (Text.lowercase "delete  word".toList) ∧
      interpret "delete word".toList = some .deleteWord ∧
      interpret "delete  word".toList = none ∧
      interpret "delete word".toList ≠ interpret "delete  word".toList := by
  decide +kernel

end SpokenEditor
