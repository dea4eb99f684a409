import Mathlib.Data.Nat.Digits.Defs
import SpokenEditor.Proofs.History
import SpokenEditor.Proofs.Letters
import SpokenEditor.Proofs.Phrases

/-! # What a dictated phrase asks for

A dictated phrase is looked at three times: as `delete` with a count, as one of two fixed phrases and
as text.  `Reads p o` lists the outcomes in one place, one constructor for each kind of phrase, and
says of none that it comes before another.

* `decimalValue_eq_valueOfDigits`: a numeral is read by its digits, however long it is;
* `countOfToken?_of_digits`, `countOfToken?_of_cardinal`, `countOfToken?_of_other`: which tokens are
  counts;
* `interpret_of_delete`, `interpret_of_not_delete`: the phrases of `delete` and one more word, and all
  others;
* `interpret_eq_iff_reads`: every phrase is read as the list says;
* `interpret_classifies`: what is inserted is a text with a space, a tab or a line break at its end,
  and dictation ignores nothing but void deletes. -/

namespace SpokenEditor

variable {p q k t : Text} {o : Option Edit}

/-! ### The list -/

/-- The words of a phrase as deleting phrases are recognized: trimmed and in lowercase. -/
def tokens (phrase : Text) : List Text :=
  Text.words (deletePhrase phrase)

/-- The number that decimal digits stand for. -/
def valueOfDigits (digits : Text) : ℕ :=
  Nat.ofDigits 10 (digits.reverse.map fun c => c.toNat - '0'.toNat)

/-- The phrase is `delete` and one more word, and it asks for nothing: the word is a numeral that is
zero or too large, the word `zero`, or no number at all and then not one of the two fixed phrases. -/
inductive VoidDelete (p : Text) : Prop
  | numeral (k : Text) (h : tokens p = ["delete".toList, k]) (hk : ∀ c ∈ k, c.isDigit = true)
      (hvalue : valueOfDigits k = 0 ∨ 2 ^ 32 ≤ valueOfDigits k) : VoidDelete p
  | zero (h : tokens p = ["delete".toList, "zero".toList]) : VoidDelete p
  | other (k : Text) (h : tokens p = ["delete".toList, k]) (hk : ∃ c ∈ k, c.isDigit = false)
      (hcardinal : ∀ word ∈ cardinals, k ≠ word.toList)
      (hword : deletePhrase p ≠ "delete word".toList)
      (hline : deletePhrase p ≠ "delete line".toList) : VoidDelete p

/-- `Reads p o`: the dictated phrase `p` asks for the edit `o`, or for nothing. -/
inductive Reads (p : Text) : Option Edit → Prop
  | numeral (k : Text) (h : tokens p = ["delete".toList, k]) (hk : ∀ c ∈ k, c.isDigit = true)
      (hpos : 1 ≤ valueOfDigits k) (hle : valueOfDigits k ≤ 2 ^ 32 - 1) :
      Reads p (some (.deleteLeft (valueOfDigits k)))
  | cardinal (n : ℕ) (word : String) (hn : cardinals[n]? = some word) (hpos : n ≠ 0)
      (h : tokens p = ["delete".toList, word.toList]) : Reads p (some (.deleteLeft n))
  | word (h : deletePhrase p = "delete word".toList) : Reads p (some .deleteWord)
  | line (h : deletePhrase p = "delete line".toList) : Reads p (some .deleteLine)
  | void (h : VoidDelete p) : Reads p none
  | blank (h : ∀ c ∈ p, Text.isBlank c = true) : Reads p none
  | text (hdelete : ∀ k, tokens p ≠ ["delete".toList, k]) (hspoken : ∃ c ∈ p, Text.isBlank c = false) :
      Reads p (some (.insertText (dictatedText p)))

/-! ### Tokens -/

/-- Trimming a phrase takes none of its words away. -/
theorem tokens_eq (p : Text) : tokens p = Text.words (Text.lowercase p) := by
  rw [tokens, deletePhrase, Text.words_lowercase, Text.words_trim, Text.words_lowercase]

theorem tokens_eq_nil_iff : tokens p = [] ↔ ∀ c ∈ p, Text.isBlank c = true := by
  rw [tokens_eq, Text.words_lowercase, List.map_eq_nil_iff, Text.words_eq_nil_iff]

theorem tokens_ne_nil_iff : tokens p ≠ [] ↔ ∃ c ∈ p, Text.isBlank c = false := by
  rw [ne_eq, tokens_eq_nil_iff]
  simp

/-- A token has no blanks and is in lowercase, so nothing happens when it is normalized again. -/
theorem lowercase_trim_of_mem_tokens (h : k ∈ tokens p) : Text.lowercase (Text.trim k) = k := by
  rw [tokens_eq] at h
  have hblank : ∀ c ∈ k, Text.isBlank c = false := Text.isBlank_of_mem_words h
  have htrim : Text.trim k = k := Text.trim_eq_self
    (fun c hc => hblank c (List.mem_of_head? hc)) fun c hc => hblank c (List.mem_of_getLast? hc)
  rw [Text.words_lowercase] at h
  obtain ⟨w, -, rfl⟩ := List.mem_map.1 h
  rw [htrim, Text.lowercase_lowercase]

/-! ### Counts -/

/-- **A numeral is read by its digits**, by induction on the numeral from its end. -/
theorem decimalValue_eq_valueOfDigits (digits : Text) :
    decimalValue digits = valueOfDigits digits := by
  induction digits using List.reverseRecOn with
  | nil => rfl
  | append_singleton digits c ih =>
    have hfold : decimalValue (digits ++ [c]) = 10 * decimalValue digits + (c.toNat - '0'.toNat) := by
      simp only [decimalValue, List.foldl_append, List.foldl_cons, List.foldl_nil]
    rw [hfold, ih, valueOfDigits, valueOfDigits, List.reverse_append, List.reverse_singleton,
      List.singleton_append, List.map_cons, Nat.ofDigits_cons]
    omega

/-- A numeral is a count if it is not zero and fits a word of 32 bits. -/
theorem countOfToken?_of_digits (hk : ∀ c ∈ k, c.isDigit = true) :
    countOfToken? k =
      if 1 ≤ valueOfDigits k ∧ valueOfDigits k ≤ 2 ^ 32 - 1 then some (valueOfDigits k)
      else none := by
  have hsize : UInt32.size = 2 ^ 32 := rfl
  rw [countOfToken?, tokenValue?, if_pos (List.all_eq_true.2 hk), decimalValue_eq_valueOfDigits,
    hsize]
  by_cases hlt : valueOfDigits k < 2 ^ 32
  · rw [if_pos hlt]
    by_cases hpos : 0 < valueOfDigits k
    · rw [if_pos ⟨hpos, by omega⟩, Option.filter_some, if_pos (decide_eq_true hpos)]
    · rw [if_neg (by omega), Option.filter_some, if_neg (by simpa using hpos)]
  · rw [if_neg hlt, if_neg (by omega)]
    rfl

/-- A spoken cardinal is a count if it is not zero. -/
theorem countOfToken?_of_cardinal {n : ℕ} {word : String} (h : cardinals[n]? = some word) :
    countOfToken? word.toList = if n = 0 then none else some n := by
  have htable : ∀ i : Fin cardinals.length,
      countOfToken? cardinals[i].toList = if i.val = 0 then none else some i.val := by
    decide +kernel
  obtain ⟨hn, rfl⟩ := List.getElem?_eq_some_iff.1 h
  exact htable ⟨n, hn⟩

/-- No other token is a count. -/
theorem countOfToken?_of_other (hk : ∃ c ∈ k, c.isDigit = false)
    (hcardinal : ∀ word ∈ cardinals, k ≠ word.toList) (hself : Text.lowercase (Text.trim k) = k) :
    countOfToken? k = none := by
  have hdigits : ¬k.all Char.isDigit = true := by
    intro hall
    obtain ⟨c, hc, hnot⟩ := hk
    rw [List.all_eq_true.1 hall c hc] at hnot
    cases hnot
  have hnumber : numberOfWord? k = none := by
    rw [numberOfWord?, hself, List.findIdx?_eq_none_iff]
    exact fun word hword => beq_eq_false_iff_ne.2 (hcardinal word hword).symm
  rw [countOfToken?, tokenValue?, if_neg hdigits, hnumber]
  rfl

/-! ### Phrases -/

/-- What `delete` and one more word ask for. -/
theorem interpret_of_delete (h : tokens p = ["delete".toList, k]) :
    interpret p =
      match countOfToken? k with
      | some n => some (.deleteLeft n)
      | none =>
        if deletePhrase p = "delete word".toList then some .deleteWord
        else if deletePhrase p = "delete line".toList then some .deleteLine
        else none := by
  have hwords : Text.words (deletePhrase p) = ["delete".toList, k] := h
  have hcount : deleteCount? (deletePhrase p) = countOfToken? k := by
    rw [deleteCount?, hwords]
    exact if_pos rfl
  have hdelete : isDeletePhrase p = true := by
    rw [isDeletePhrase, hwords]
    exact beq_self_eq_true _
  rw [interpret, deleteEdit?, hcount, hdelete]
  -- a count is looked for first, so the fixed phrases matter only where there is none
  cases countOfToken? k with
  | some n => rfl
  | none =>
    dsimp only
    by_cases hword : deletePhrase p = "delete word".toList
    · rw [if_pos hword]
    · rw [if_neg hword]
      by_cases hline : deletePhrase p = "delete line".toList
      · rw [if_pos hline]
      · rw [if_neg hline]
        rfl

/-- The fixed phrases are two tokens. -/
theorem tokens_of_fixed (word : String) (hword : word ∈ ["word", "line"])
    (h : deletePhrase p = "delete ".toList ++ word.toList) :
    tokens p = ["delete".toList, word.toList] := by
  have htable : ∀ word ∈ ["word", "line"], Text.words ("delete ".toList ++ word.toList) =
      ["delete".toList, word.toList] := by
    decide +kernel
  rw [tokens, h]
  exact htable word hword

/-- Every other phrase is text. -/
theorem interpret_of_not_delete (h : ∀ k, tokens p ≠ ["delete".toList, k]) :
    interpret p = dictate p := by
  have hcount : deleteCount? (deletePhrase p) = none := by
    rw [deleteCount?.eq_def]
    split
    · next verb token hwords =>
      refine if_neg ?_
      rintro rfl
      exact h token hwords
    · rfl
  have hdelete : isDeletePhrase p = false := by
    rw [isDeletePhrase]
    split
    · next verb token hwords =>
      refine beq_eq_false_iff_ne.2 ?_
      rintro rfl
      exact h token hwords
    · rfl
  have hword : deletePhrase p ≠ "delete word".toList := fun e =>
    h _ (tokens_of_fixed "word" (by simp) e)
  have hline : deletePhrase p ≠ "delete line".toList := fun e =>
    h _ (tokens_of_fixed "line" (by simp) e)
  rw [interpret, deleteEdit?, hcount]
  dsimp only
  rw [if_neg hword, if_neg hline, hdelete]
  rfl

/-! ### Text -/

/-- The words that are inserted are not empty, and none begins with a space. -/
theorem head_of_mem_dictatedWords {w : Text} (h : w ∈ dictatedWords p) :
    w ≠ [] ∧ w.head? ≠ some ' ' := by
  have hliteral : ∀ c ∈ spokenCues, c.literal ≠ [] ∧ c.literal.head? ≠ some ' ' := by
    decide +kernel
  obtain hw | ⟨c, hc, rfl⟩ := mem_dictatedWords h
  · refine ⟨Text.ne_nil_of_mem_words hw, fun hspace => ?_⟩
    exact absurd (Text.isBlank_of_mem_words hw ' ' (List.mem_of_head? hspace)) (by decide)
  · exact hliteral c hc

/-- A space, a tab or a line break stands at the end of a text and what follows it. -/
theorem getLast?_append_spaceAfter (ht : t ≠ []) :
    ∃ c ∈ (t ++ spaceAfter t).getLast?, c = ' ' ∨ c = '\t' ∨ c = '\n' := by
  obtain ⟨c, hc⟩ : ∃ c, t.getLast? = some c := ⟨_, List.getLast?_eq_some_getLast ht⟩
  rw [spaceAfter, hc]
  dsimp only
  split
  · next hlayout =>
    rw [List.append_nil]
    exact ⟨c, hc, .inr hlayout.symm⟩
  · exact ⟨' ', List.getLast?_concat, .inl rfl⟩

/-- **What is inserted**: a text that is not empty, with a space, a tab or a line break at its end and
no space at its start. -/
theorem dictatedText_shape (hspoken : ∃ c ∈ p, Text.isBlank c = false) :
    dictatedText p ≠ [] ∧ (∃ c ∈ (dictatedText p).getLast?, c = ' ' ∨ c = '\t' ∨ c = '\n') ∧
      (dictatedText p).head? ≠ some ' ' := by
  have hwords : dictatedWords p ≠ [] :=
    substitute_ne_nil (tokens_eq p ▸ tokens_ne_nil_iff.2 hspoken)
  obtain ⟨w, ws, hws⟩ := List.exists_cons_of_ne_nil hwords
  obtain ⟨hw, hspace⟩ := head_of_mem_dictatedWords (p := p) (hws ▸ List.mem_cons_self)
  have hhead : (Text.joinWords (dictatedWords p)).head? = w.head? := by
    rw [hws, Text.head?_joinWords hw]
  have hne : Text.joinWords (dictatedWords p) ≠ [] := by
    intro hnil
    rw [hnil] at hhead
    exact hw (List.head?_eq_none_iff.1 hhead.symm)
  refine ⟨List.append_ne_nil_of_left_ne_nil hne _, getLast?_append_spaceAfter hne, ?_⟩
  rw [dictatedText, List.head?_append_of_ne_nil _ hne, hhead]
  exact hspace

/-! ### Every phrase -/

/-- A phrase of blanks asks for nothing. -/
theorem interpret_of_blank (h : ∀ c ∈ p, Text.isBlank c = true) : interpret p = none := by
  have hnil : tokens p = [] := tokens_eq_nil_iff.2 h
  have hdelete : ∀ k, tokens p ≠ ["delete".toList, k] := fun k => by
    rw [hnil]
    exact (List.cons_ne_nil _ _).symm
  have hwords : dictatedWords p = [] := by
    rw [dictatedWords, ← tokens_eq, hnil, Cue.substitute_nil]
  rw [interpret_of_not_delete hdelete, dictate_eq_none_iff, dictatedText, hwords]
  rfl

/-- A word that is neither `word` nor `line` makes no fixed phrase. -/
theorem ne_fixed (h : tokens p = ["delete".toList, k]) (hword : k ≠ "word".toList)
    (hline : k ≠ "line".toList) :
    deletePhrase p ≠ "delete word".toList ∧ deletePhrase p ≠ "delete line".toList := by
  have hfixed : ∀ word ∈ ["word", "line"],
      deletePhrase p = "delete ".toList ++ word.toList → k = word.toList := by
    intro word hmem e
    rw [tokens_of_fixed word hmem e, List.cons.injEq, List.cons.injEq] at h
    exact h.2.1.symm
  exact ⟨fun e => hword (hfixed "word" (by simp) e), fun e => hline (hfixed "line" (by simp) e)⟩

/-- `delete` and a word that is no count asks for nothing, the fixed phrases aside. -/
theorem interpret_of_no_count (h : tokens p = ["delete".toList, k]) (hk : countOfToken? k = none)
    (hfixed : deletePhrase p ≠ "delete word".toList ∧ deletePhrase p ≠ "delete line".toList) :
    interpret p = none := by
  rw [interpret_of_delete h, hk]
  exact (if_neg hfixed.1).trans (if_neg hfixed.2)

theorem VoidDelete.interpret_eq_none (h : VoidDelete p) : interpret p = none := by
  cases h with
  | numeral k h hk hvalue =>
    -- a numeral has no letters, so it makes no fixed phrase
    have hcount : countOfToken? k = none := by
      rw [countOfToken?_of_digits hk, if_neg (by omega)]
    refine interpret_of_no_count h hcount (ne_fixed h ?_ ?_)
    · rintro rfl
      exact absurd (hk 'w' (by simp)) (by decide)
    · rintro rfl
      exact absurd (hk 'l' (by simp)) (by decide)
  | zero h =>
    have hcount : countOfToken? "zero".toList = none := countOfToken?_of_cardinal (n := 0) rfl
    exact interpret_of_no_count h hcount (ne_fixed h (by decide) (by decide))
  | other k h hk hcardinal hword hline =>
    have hmem : k ∈ tokens p := by
      rw [h]
      simp
    have hcount := countOfToken?_of_other hk hcardinal (lowercase_trim_of_mem_tokens hmem)
    exact interpret_of_no_count h hcount ⟨hword, hline⟩

/-- A phrase asks for no more than what the list says. -/
theorem Reads.interpret_eq (h : Reads p o) : interpret p = o := by
  have hnone : ∀ word ∈ ["word", "line"], countOfToken? word.toList = none := by
    decide +kernel
  cases h with
  | numeral k h hk hpos hle =>
    rw [interpret_of_delete h, countOfToken?_of_digits hk, if_pos ⟨hpos, hle⟩]
  | cardinal n word hn hpos h =>
    rw [interpret_of_delete h, countOfToken?_of_cardinal hn, if_neg hpos]
  | word h =>
    have htokens := tokens_of_fixed "word" (by simp) h
    rw [interpret_of_delete htokens, hnone "word" (by simp)]
    exact if_pos h
  | line h =>
    have htokens := tokens_of_fixed "line" (by simp) h
    have hword : deletePhrase p ≠ "delete word".toList := by
      rw [h]
      decide
    rw [interpret_of_delete htokens, hnone "line" (by simp)]
    exact (if_neg hword).trans (if_pos h)
  | void h => exact h.interpret_eq_none
  | blank h => exact interpret_of_blank h
  | text hdelete hspoken =>
    have hne := (dictatedText_shape hspoken).1
    rw [interpret_of_not_delete hdelete, dictate]
    exact if_neg (by simpa using hne)

/-- No phrase is missing from the list. -/
theorem exists_reads (p : Text) : ∃ o, Reads p o := by
  by_cases hblank : ∀ c ∈ p, Text.isBlank c = true
  · exact ⟨_, .blank hblank⟩
  by_cases hdelete : ∃ k, tokens p = ["delete".toList, k]
  · obtain ⟨k, h⟩ := hdelete
    by_cases hk : ∀ c ∈ k, c.isDigit = true
    · by_cases hvalue : 1 ≤ valueOfDigits k ∧ valueOfDigits k ≤ 2 ^ 32 - 1
      · exact ⟨_, .numeral k h hk hvalue.1 hvalue.2⟩
      · exact ⟨_, .void (.numeral k h hk (by omega))⟩
    by_cases hcardinal : ∃ word ∈ cardinals, k = word.toList
    · obtain ⟨word, hword, rfl⟩ := hcardinal
      obtain ⟨n, hn⟩ := List.getElem?_of_mem hword
      by_cases hzero : n = 0
      · subst hzero
        obtain rfl : "zero" = word := Option.some.inj hn
        exact ⟨_, .void (.zero h)⟩
      · exact ⟨_, .cardinal n word hn hzero h⟩
    by_cases hword : deletePhrase p = "delete word".toList
    · exact ⟨_, .word hword⟩
    by_cases hline : deletePhrase p = "delete line".toList
    · exact ⟨_, .line hline⟩
    have hother : ∃ c ∈ k, c.isDigit = false := by simpa using hk
    have hne : ∀ word ∈ cardinals, k ≠ word.toList := by simpa using hcardinal
    exact ⟨_, .void (.other k h hother hne hword hline)⟩
  · have hspoken : ∃ c ∈ p, Text.isBlank c = false := by simpa using hblank
    exact ⟨_, .text (fun k h => hdelete ⟨k, h⟩) hspoken⟩

/-- **Every phrase is read as the list says**, and the kinds of phrases exclude each other. -/
theorem interpret_eq_iff_reads : interpret p = o ↔ Reads p o := by
  refine ⟨?_, Reads.interpret_eq⟩
  rintro rfl
  obtain ⟨o, h⟩ := exists_reads p
  rw [h.interpret_eq]
  exact h

/-- Trimming a phrase changes nothing. -/
theorem deletePhrase_trim (p : Text) : deletePhrase (Text.trim p) = deletePhrase p := by
  rw [deletePhrase, deletePhrase, Text.trim_trim]

/-- A void delete stays one when it is spaced otherwise, unless that makes a fixed phrase of it. -/
theorem VoidDelete.congr (htokens : tokens p = tokens q)
    (hfixed : ∀ word ∈ ["word", "line"], deletePhrase p ≠ "delete ".toList ++ word.toList →
      deletePhrase q ≠ "delete ".toList ++ word.toList) (h : VoidDelete p) : VoidDelete q := by
  cases h with
  | numeral k h hk hvalue => exact .numeral k (htokens ▸ h) hk hvalue
  | zero h => exact .zero (htokens ▸ h)
  | other k h hk hcardinal hword hline =>
    exact .other k (htokens ▸ h) hk hcardinal (hfixed "word" (by simp) hword)
      (hfixed "line" (by simp) hline)

theorem VoidDelete.of_trim (h : VoidDelete (Text.trim p)) : VoidDelete p := by
  refine h.congr ?_ fun word _ hne => ?_
  · rw [tokens, deletePhrase_trim, tokens]
  · rwa [deletePhrase_trim] at hne

/-- **Dictation ignores void deletes only**, blanks aside. -/
theorem Mode.voidDelete_of_ignored {next : Mode} (hspoken : ∃ c ∈ p, Text.isBlank c = false)
    (h : Mode.Answers (.ofText p) .dictation .ignored next) : VoidDelete p := by
  have hnotBlank : ¬∀ c ∈ p, Text.isBlank c = true := fun hall =>
    tokens_ne_nil_iff.2 hspoken (tokens_eq_nil_iff.2 hall)
  cases h with
  | blank _ hu => exact absurd (Utterance.isEmpty_ofText_iff.1 hu) hnotBlank
  | dropped _ _ hnone =>
    have hreads : Reads (Text.trim p) none := interpret_eq_iff_reads.1 hnone
    cases hreads with
    | void h => exact h.of_trim
    | blank h =>
      rw [← Text.trim_eq_nil_iff, Text.trim_trim, Text.trim_eq_nil_iff] at h
      exact absurd h hnotBlank

/-- **Every phrase is read in exactly one way.**  A phrase asks for an edit, or for nothing, exactly
as the list of readings says.  What is inserted is the text of the phrase; it is not empty, begins
with no space and ends with a space, a tab or a line break.  Nothing is deleted or inserted that is
empty, and in dictation a phrase that is not blank is ignored only if it is a void delete. -/
theorem interpret_classifies (p : Text) :
    (∀ o, interpret p = o ↔ Reads p o) ∧
      (∀ t, interpret p = some (.insertText t) → t = dictatedText p ∧ t ≠ [] ∧
        (∃ c ∈ t.getLast?, c = ' ' ∨ c = '\t' ∨ c = '\n') ∧ t.head? ≠ some ' ') ∧
      interpret p ≠ some (.deleteLeft 0) ∧ interpret p ≠ some (.insertText []) ∧
      ∀ e : Engine, e.mode = .dictation → (∃ c ∈ p, Text.isBlank c = false) →
        (e.handle (.ofText p)).1 = .ignored → VoidDelete p := by
  have htext : ∀ t, interpret p = some (.insertText t) → t = dictatedText p ∧ t ≠ [] ∧
      (∃ c ∈ t.getLast?, c = ' ' ∨ c = '\t' ∨ c = '\n') ∧ t.head? ≠ some ' ' := by
    intro t h
    have hreads := interpret_eq_iff_reads.1 h
    cases hreads with
    | text _ hspoken => exact ⟨rfl, dictatedText_shape hspoken⟩
  refine ⟨fun _ => interpret_eq_iff_reads, htext, ?_, ?_, ?_⟩
  · intro h
    have hreads := interpret_eq_iff_reads.1 h
    generalize hn : 0 = n at hreads
    cases hreads with
    | numeral k _ _ hpos => omega
    | cardinal n _ _ hpos => omega
  · intro h
    exact (htext [] h).2.1 rfl
  · intro e hmode hspoken h
    have hanswer := Mode.answers_respond e.mode (.ofText p)
    have hignored : (e.mode.respond (.ofText p)).1 = .ignored := h
    rw [hignored, hmode] at hanswer
    exact Mode.voidDelete_of_ignored hspoken hanswer

/-- A numeral with zeros before it, and one that is too large: dictation ignores it. -/
theorem interpret_classifies_numerals :
    let p := "DELETE \t007 ".toList
    let q := "delete 4294967296".toList
    let dictating := Engine.start.goTo .dictation
    Reads p (some (.deleteLeft 7)) ∧ interpret p = some (.deleteLeft 7) ∧
      dictating.mode = .dictation ∧ (dictating.handle (.ofText q)).1 = .ignored ∧ VoidDelete q := by
  intro p q dictating
  have hvalue : valueOfDigits "007".toList = 7 := by decide +kernel
  have hreads : Reads p (some (.deleteLeft 7)) := by
    have htokens : tokens p = ["delete".toList, "007".toList] := by decide +kernel
    rw [← hvalue]
    exact .numeral "007".toList htokens (List.all_eq_true.1 (by decide)) (by omega) (by omega)
  obtain ⟨hiff, -⟩ := interpret_classifies p
  obtain ⟨-, -, -, -, hvoid⟩ := interpret_classifies q
  have hmode : dictating.mode = .dictation := Engine.mode_goTo .dictation Engine.start
  have hignored : (dictating.handle (.ofText q)).1 = .ignored := by decide +kernel
  have hspoken : ∃ c ∈ q, Text.isBlank c = false := ⟨'d', by simp [q], by decide⟩
  exact ⟨hreads, (hiff _).2 hreads, hmode, hignored, hvoid dictating hmode hspoken hignored⟩

end SpokenEditor
