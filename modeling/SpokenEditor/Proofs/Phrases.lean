import SpokenEditor.Proofs.Cues
import SpokenEditor.Proofs.Words

/-! # Phrase by phrase

Dictating two phrases one after the other inserts what dictating them at once does, but for a space
after a line break or a tab, as long as no cue reaches from the first phrase into the second.

* `Cue.substitute_append`: words parted where no cue reaches across are replaced apart;
* `Cue.mem_substitute`, `Cue.getLast?_substitute`: what a word, and the last one, becomes;
* `spaceAfter_joinWords_substitute`: which phrases end without a space;
* `dictatedText_append`: two phrases in one. -/

namespace SpokenEditor
namespace Cue

variable {c : Cue} {cues : List Cue} {ws us vs : List Text}

/-- The cue reaches from the first words into the second ones. -/
def Spans (c : Cue) (us vs : List Text) : Prop :=
  ∃ xs ys, xs ≠ [] ∧ ys ≠ [] ∧ c.words = xs ++ ys ∧ xs <:+ us ∧ ys <+: vs

/-- A cue that does not reach across begins the first words if it begins all of them. -/
theorem isPrefix_append_iff (hus : us ≠ []) (h : ¬c.Spans us vs) :
    c.words <+: us ++ vs ↔ c.words <+: us := by
  refine ⟨fun hall => ?_, fun hus => hus.trans (List.prefix_append us vs)⟩
  obtain hbegins | ⟨ys, hys⟩ := List.prefix_or_prefix_of_prefix hall (List.prefix_append us vs)
  · exact hbegins
  · rw [← hys, List.prefix_append_right_inj] at hall
    by_cases hnil : ys = []
    · rw [← hys, hnil, List.append_nil]
    · exact absurd ⟨us, ys, hus, hnil, hys.symm, List.suffix_rfl, hall⟩ h

/-- **Words parted where no cue reaches across are replaced apart.** -/
theorem substitute_append (h : ∀ c ∈ cues, ¬c.Spans us vs) :
    substitute cues (us ++ vs) = substitute cues us ++ substitute cues vs := by
  have hfind : ∀ {word rest}, (∀ c ∈ cues, ¬c.Spans (word :: rest) vs) →
      (cues.find? fun c => c.startsAt word (rest ++ vs)) =
        cues.find? fun c => c.startsAt word rest := fun {word rest} h =>
    List.find?_congr fun c hc => by
      rw [Bool.eq_iff_iff, startsAt_iff, startsAt_iff, ← List.cons_append,
        isPrefix_append_iff (List.cons_ne_nil word rest) (h c hc)]
  have hsuffix : ∀ {rest us : List Text}, rest <:+ us → (∀ c ∈ cues, ¬c.Spans us vs) →
      ∀ c ∈ cues, ¬c.Spans rest vs := fun hr h c hc ⟨xs, ys, hx, hy, hw, hxs, hys⟩ =>
    h c hc ⟨xs, ys, hx, hy, hw, hxs.trans hr, hys⟩
  fun_induction substitute cues us with
  | case1 => rfl
  | case2 word rest c hc ih =>
    obtain ⟨-, hstart⟩ := startsAt_of_find? hc
    have hlen : c.more.length ≤ rest.length :=
      (List.cons_prefix_cons.1 (startsAt_iff.1 hstart)).2.length_le
    have hdrop : rest.drop c.more.length <:+ word :: rest :=
      (List.drop_suffix _ _).trans (List.suffix_cons word rest)
    rw [List.cons_append, substitute_cons_of_some ((hfind h).trans hc),
      List.drop_append_of_le_length hlen, ih (hsuffix hdrop h), List.cons_append]
  | case3 word rest hnone ih =>
    rw [List.cons_append, substitute_cons_of_none ((hfind h).trans hnone),
      ih (hsuffix (List.suffix_cons word rest) h), List.cons_append]

/-- What stands after the pass stood there before, or it is a literal. -/
theorem mem_substitute {w : Text} (h : w ∈ substitute cues ws) :
    w ∈ ws ∨ ∃ c ∈ cues, w = c.literal := by
  fun_induction substitute cues ws with
  | case1 => exact .inl h
  | case2 word rest c hc ih =>
    obtain rfl | h := List.mem_cons.1 h
    · exact .inr ⟨c, List.mem_of_find?_eq_some hc, rfl⟩
    · exact (ih h).imp_left fun hw => List.mem_cons_of_mem word (List.mem_of_mem_drop hw)
  | case3 word rest hnone ih =>
    obtain rfl | h := List.mem_cons.1 h
    · exact .inl List.mem_cons_self
    · exact (ih h).imp_left (List.mem_cons_of_mem word)

/-- **What the last word becomes**: it stays, or it ends a cue that is replaced. -/
theorem getLast?_substitute (hws : ws ≠ []) :
    (∃ w, ws.getLast? = some w ∧ (substitute cues ws).getLast? = some w ∧
        ∀ c ∈ cues, c.words ≠ [w]) ∨
      ∃ c ∈ cues, c.words <:+ ws ∧ (substitute cues ws).getLast? = some c.literal := by
  have hcons : ∀ {us : List Text} {u w : Text}, us.getLast? = some w →
      (u :: us).getLast? = some w := fun h => by rw [List.getLast?_cons, h, Option.getD_some]
  fun_induction substitute cues ws with
  | case1 => exact absurd rfl hws
  | case2 word rest c hc ih =>
    obtain ⟨hmem, hstart⟩ := startsAt_of_find? hc
    have hwords := startsAt_iff.1 hstart
    by_cases hrest : rest.drop c.more.length = []
    · have hwhole : c.words = word :: rest := by
        refine hwords.eq_of_length_le ?_
        have := List.drop_eq_nil_iff.1 hrest
        rw [words, List.length_cons, List.length_cons]
        omega
      rw [hrest, substitute_nil]
      exact .inr ⟨c, hmem, hwhole ▸ List.suffix_rfl, rfl⟩
    · have hsuffix : rest.drop c.more.length <:+ word :: rest :=
        (List.drop_suffix _ _).trans (List.suffix_cons word rest)
      obtain ⟨w, hlast, hout, hw⟩ | ⟨d, hd, hend, hout⟩ := ih hrest
      · refine .inl ⟨w, ?_, hcons hout, hw⟩
        obtain ⟨us, hus⟩ := hsuffix
        rw [← hus, List.getLast?_append, hlast, Option.some_or]
      · exact .inr ⟨d, hd, hend.trans hsuffix, hcons hout⟩
  | case3 word rest hnone ih =>
    by_cases hrest : rest = []
    · subst hrest
      rw [substitute_nil]
      refine .inl ⟨word, rfl, rfl, fun c hc hw => List.find?_eq_none.1 hnone c hc ?_⟩
      exact startsAt_iff.2 (hw ▸ List.prefix_rfl)
    · obtain ⟨w, hlast, hout, hw⟩ | ⟨d, hd, hend, hout⟩ := ih hrest
      · exact .inl ⟨w, hcons hlast, hcons hout, hw⟩
      · exact .inr ⟨d, hd, hend.trans (List.suffix_cons word rest), hcons hout⟩

end Cue

/-! ### The cues in use -/

variable {us vs : List Text}

/-- The only cue that can reach across a boundary is `single quote`. -/
theorem not_spans_spokenCues
    (h : ¬(us.getLast? = some "single".toList ∧ vs.head? = some "quote".toList)) :
    ∀ c ∈ spokenCues, ¬c.Spans us vs := by
  have htable : ∀ c ∈ spokenCues, c.words = [c.first] ∨
      c.words = ["single".toList, "quote".toList] := by
    decide +kernel
  rintro c hc ⟨xs, ys, hxs, hys, hwords, ⟨us, rfl⟩, ⟨vs, rfl⟩⟩
  obtain ⟨x, xs, rfl⟩ := List.exists_cons_of_ne_nil hxs
  obtain ⟨y, ys, rfl⟩ := List.exists_cons_of_ne_nil hys
  obtain hone | htwo := htable c hc
  · have hlen := congrArg List.length (hone.symm.trans hwords)
    simp at hlen
  · rw [htwo] at hwords
    cases xs with
    | nil =>
      simp only [List.cons_append, List.nil_append, List.cons.injEq] at hwords
      obtain ⟨rfl, rfl, -⟩ := hwords
      exact h ⟨List.getLast?_concat, rfl⟩
    | cons x' xs =>
      have hlen := congrArg List.length hwords
      simp at hlen

/-- The words with the cues replaced end in a space, unless the last one is the cue of a line break
or of a tab. -/
theorem spaceAfter_joinWords_substitute (hne : us ≠ [])
    (hus : ∀ w ∈ us, w ≠ [] ∧ ∀ c ∈ w, Text.isBlank c = false) :
    spaceAfter (Text.joinWords (Cue.substitute spokenCues us)) =
      if us.getLast? = some "line".toList ∨ us.getLast? = some "indent".toList then []
      else [' '] := by
  have hspace : ∀ {ws : List Text} {w : Text}, ws.getLast? = some w → w ≠ [] →
      spaceAfter (Text.joinWords ws) = spaceAfter w := fun h hw => by
    rw [spaceAfter.eq_def, spaceAfter.eq_def, Text.getLast?_joinWords h hw]
  obtain ⟨w, hlast, hout, hw⟩ | ⟨c, hc, ⟨ws, rfl⟩, hout⟩ :=
    @Cue.getLast?_substitute spokenCues us hne
  · -- a word that stays is none of the two cues, and it ends with no blank
    obtain ⟨hnil, hblank⟩ := hus w (List.mem_of_getLast? hlast)
    have hcue : ∀ v ∈ ["line".toList, "indent".toList], ∃ c ∈ spokenCues, c.words = [v] := by
      decide +kernel
    have hother : ∀ v ∈ ["line".toList, "indent".toList], us.getLast? ≠ some v := by
      intro v hv heq
      obtain ⟨c, hc, hwords⟩ := hcue v hv
      rw [hlast] at heq
      exact hw c hc (Option.some.inj heq ▸ hwords)
    have hline := hother "line".toList (by simp)
    have hindent := hother "indent".toList (by simp)
    obtain ⟨ch, hch⟩ : ∃ ch, w.getLast? = some ch := ⟨_, List.getLast?_eq_some_getLast hnil⟩
    have hnonblank := hblank ch (List.mem_of_getLast? hch)
    have hlayout : ¬(ch = '\n' ∨ ch = '\t') := by
      rintro (rfl | rfl)
      all_goals exact absurd hnonblank (by decide)
    rw [hspace hout hnil, spaceAfter, hch, if_neg (not_or.2 ⟨hline, hindent⟩)]
    exact if_neg hlayout
  · have htable : ∀ c ∈ spokenCues, c.literal ≠ [] ∧ spaceAfter c.literal =
        if c.words.getLast? = some "line".toList ∨ c.words.getLast? = some "indent".toList then []
        else [' '] := by
      decide +kernel
    obtain ⟨hnil, hliteral⟩ := htable c hc
    have hwords : c.words ≠ [] := List.cons_ne_nil _ _
    rw [hspace hout hnil, hliteral, List.getLast?_append_of_ne_nil ws hwords]

/-! ### Two phrases -/

theorem substitute_ne_nil {cues : List Cue} (hus : us ≠ []) : Cue.substitute cues us ≠ [] := by
  intro hnil
  obtain ⟨w, -, hout, -⟩ | ⟨c, -, -, hout⟩ := @Cue.getLast?_substitute cues us hus
  all_goals
    rw [hnil] at hout
    cases hout

/-- What a phrase inserts is made of its words in lowercase and of literals. -/
theorem mem_dictatedWords {phrase w : Text} (h : w ∈ dictatedWords phrase) :
    w ∈ Text.words (Text.lowercase phrase) ∨ ∃ c ∈ spokenCues, w = c.literal :=
  Cue.mem_substitute h

/-- The words of a phrase as they are looked at, one by one in lowercase. -/
theorem dictatedWords_eq (phrase : Text) :
    dictatedWords phrase =
      Cue.substitute spokenCues ((Text.words phrase).map Text.lowercase) := by
  rw [dictatedWords, Text.words_lowercase]

theorem dictatedText_eq {phrase : Text} (hne : Text.words phrase ≠ []) :
    dictatedText phrase = Text.joinWords (dictatedWords phrase) ++
      if ((Text.words phrase).map Text.lowercase).getLast? = some "line".toList ∨
        ((Text.words phrase).map Text.lowercase).getLast? = some "indent".toList then []
      else [' '] := by
  have hwords : ∀ w ∈ (Text.words phrase).map Text.lowercase,
      w ≠ [] ∧ ∀ c ∈ w, Text.isBlank c = false := by
    rw [← Text.words_lowercase]
    exact fun w hw => ⟨Text.ne_nil_of_mem_words hw, Text.isBlank_of_mem_words hw⟩
  have hmap : (Text.words phrase).map Text.lowercase ≠ [] := by
    rwa [ne_eq, List.map_eq_nil_iff]
  have hspace := spaceAfter_joinWords_substitute hmap hwords
  rw [← dictatedWords_eq] at hspace
  rw [dictatedText, hspace]

/-- **Two phrases in one.**  If the first phrase does not end with `single` or the second does not
begin with `quote`, dictating them with a space between inserts what dictating one after the other
does, with a space between if the first phrase ends with the cue of a line break or a tab. -/
theorem dictatedText_append {p q : Text} (hp : Text.words p ≠ []) (hq : Text.words q ≠ [])
    (hquote : ¬(((Text.words p).map Text.lowercase).getLast? = some "single".toList ∧
      ((Text.words q).map Text.lowercase).head? = some "quote".toList)) :
    let last := ((Text.words p).map Text.lowercase).getLast?
    (last ≠ some "line".toList → last ≠ some "indent".toList →
      dictatedText (p ++ " ".toList ++ q) = dictatedText p ++ dictatedText q) ∧
    (last = some "line".toList ∨ last = some "indent".toList →
      dictatedText (p ++ " ".toList ++ q) = dictatedText p ++ " ".toList ++ dictatedText q) := by
  intro last
  have hwords : Text.words (p ++ " ".toList ++ q) = Text.words p ++ Text.words q := by
    rw [List.append_assoc]
    exact Text.words_append_blank (by decide) q p
  have hmap : ∀ {t}, Text.words t ≠ [] → (Text.words t).map Text.lowercase ≠ [] :=
    fun h => by rwa [ne_eq, List.map_eq_nil_iff]
  have hout : ∀ {t}, Text.words t ≠ [] → dictatedWords t ≠ [] := fun {t} h =>
    dictatedWords_eq t ▸ substitute_ne_nil (hmap h)
  have hdictated : dictatedWords (p ++ " ".toList ++ q) = dictatedWords p ++ dictatedWords q := by
    rw [dictatedWords_eq, dictatedWords_eq, dictatedWords_eq, hwords, List.map_append,
      Cue.substitute_append (not_spans_spokenCues hquote)]
  have hlast : ((Text.words (p ++ " ".toList ++ q)).map Text.lowercase).getLast? =
      ((Text.words q).map Text.lowercase).getLast? := by
    rw [hwords, List.map_append, List.getLast?_append_of_ne_nil _ (hmap hq)]
  -- the phrase in one inserts a space between the two, whatever stands at its end
  have hone : dictatedText (p ++ " ".toList ++ q) =
      Text.joinWords (dictatedWords p) ++ ' ' :: dictatedText q := by
    have hne : Text.words (p ++ " ".toList ++ q) ≠ [] :=
      hwords ▸ List.append_ne_nil_of_left_ne_nil hp _
    rw [dictatedText_eq hne, dictatedText_eq hq, hlast, hdictated,
      Text.joinWords_append (hout hp) (hout hq), List.append_assoc, List.cons_append]
  refine ⟨fun hline hindent => ?_, fun hlayout => ?_⟩
  · rw [hone, dictatedText_eq hp, if_neg (not_or.2 ⟨hline, hindent⟩), List.append_assoc]
    rfl
  · rw [hone, dictatedText_eq hp, if_pos hlayout, List.append_nil, List.append_assoc]
    rfl

/-- A boundary behind a word that stays, with a final sigma, and one behind a line break. -/
theorem dictatedText_append_line :
    dictatedText "Print P1 ΣΑΣ quote line".toList =
        dictatedText "Print P1 ΣΑΣ".toList ++ dictatedText "quote line".toList ∧
      dictatedText "Print P1 ΣΑΣ".toList = "print ( σας ".toList ∧
      dictatedText "x LINE single Quote".toList =
        dictatedText "x LINE".toList ++ " ".toList ++ dictatedText "single Quote".toList ∧
      dictatedText "x LINE".toList = "x \n".toList := by
  have hword := @dictatedText_append "Print P1 ΣΑΣ".toList "quote line".toList
    (by decide +kernel) (by decide +kernel) (by decide +kernel)
  have hline := @dictatedText_append "x LINE".toList "single Quote".toList
    (by decide +kernel) (by decide +kernel) (by decide +kernel)
  refine ⟨hword.1 ?_ ?_, ?_, hline.2 (.inl ?_), ?_⟩
  all_goals decide +kernel

end SpokenEditor
