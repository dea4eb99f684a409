import SpokenEditor.Command.Grammar
import SpokenEditor.Proofs.Letters

/-! # Wake words

The wake words begin one another, the gate reads letters only and the body is cut off by a search
through the wake words.  All three agree with one split of the phrase, which is found without any
search: `Woken t w s b` says that the phrase `t` is a wake word, separators and a body.

* `bodyAfter?_eq_some_iff_split`: the body after one wake word;
* `Woken.unique`: a phrase has one split at most, whatever the wake word;
* `body?_spoken_iff`: the search finds the body of that split;
* `Woken.hasWakeWord`: and the gate lets it pass. -/

namespace SpokenEditor
namespace Grammar

/-- Blanks at its start aside, the phrase is a wake word up to case, separators and a body. -/
structure Woken (t w s b : Text) : Prop where
  split : Text.trimStart t = w ++ s ++ b
  wakeWord : ∃ v ∈ spokenWakeWords, Text.sameLetters w v.toList = true
  separated : s ≠ []
  separators : ∀ c ∈ s, isSeparator c = true
  head : ∀ c ∈ b.head?, isSeparator c = false

variable {t w s b w' s' b' : Text} {v : String}

/-! ### The letters of a wake word -/

theorem map_toLower_of_wakeWord (hv : v ∈ spokenWakeWords)
    (h : Text.sameLetters w v.toList = true) : w.map Char.toLower = v.toList := by
  have hlow : ∀ v ∈ spokenWakeWords, v.toList.map Char.toLower = v.toList := by
    decide +kernel
  rw [Text.sameLetters_iff.1 h, hlow v hv]

theorem isAlpha_of_wakeWord (hv : v ∈ spokenWakeWords) (h : Text.sameLetters w v.toList = true) :
    ∀ c ∈ w, c.isAlpha = true := by
  have hlow : ∀ v ∈ spokenWakeWords, v.toList.all Char.isLower = true := by decide
  intro c hc
  have hmem : c.toLower ∈ v.toList := by
    rw [← map_toLower_of_wakeWord hv h]
    exact List.mem_map_of_mem hc
  rw [← c.isLower_toLower_eq_isAlpha]
  exact List.all_eq_true.1 (hlow v hv) _ hmem

theorem isSeparator_of_isAlpha {c : Char} (h : c.isAlpha = true) : isSeparator c = false := by
  rw [isSeparator, Bool.or_eq_false_iff, beq_eq_false_iff_ne, beq_eq_false_iff_ne]
  constructor
  · rintro rfl
    exact absurd h (by decide)
  · rintro rfl
    exact absurd h (by decide)

/-- The gate lets a phrase pass if its letters begin with a wake word. -/
theorem hasWakeWord_of_letters {r : Text} (hv : v ∈ spokenWakeWords)
    (hw : Text.sameLetters w v.toList = true) (ht : t.filter Char.isAlpha = w ++ r) :
    spoken.hasWakeWord t = true := by
  refine List.any_eq_true.2 ⟨v.toList, List.mem_map_of_mem hv, ?_⟩
  rw [List.isPrefixOf_iff_prefix, ht, List.map_append, map_toLower_of_wakeWord hv hw]
  exact List.prefix_append _ _

/-! ### The split -/

/-- The body after one wake word, without a search for the separators. -/
theorem bodyAfter?_eq_some_iff_split {v u body : Text} :
    bodyAfter? v u = some body ↔ ∃ w s b, u = w ++ s ++ b ∧ Text.sameLetters w v = true ∧ s ≠ [] ∧
      (∀ c ∈ s, isSeparator c = true) ∧ (∀ c ∈ b.head?, isSeparator c = false) ∧
        Text.trimEnd b = body := by
  rw [bodyAfter?_eq_some_iff]
  constructor
  · rintro ⟨rest, hrest, hlt, hbody⟩
    obtain ⟨w, rfl, hw⟩ := Text.dropStart?_eq_some_iff.1 hrest
    have hsplit := List.takeWhile_append_dropWhile (p := isSeparator) (l := rest)
    refine ⟨w, rest.takeWhile isSeparator, rest.dropWhile isSeparator, ?_, hw, ?_, ?_, ?_, hbody⟩
    · rw [List.append_assoc, hsplit]
    · intro hnil
      rw [hnil, List.nil_append] at hsplit
      rw [hsplit] at hlt
      exact Nat.lt_irrefl _ hlt
    · exact List.all_eq_true.1 List.all_takeWhile
    · intro c hc
      have hnot := List.head?_dropWhile_not isSeparator rest
      rwa [Option.mem_def.1 hc] at hnot
  · rintro ⟨w, s, b, rfl, hw, hne, hs, hb, hbody⟩
    have hdrop : (s ++ b).dropWhile isSeparator = b := by
      rw [List.dropWhile_append_of_pos hs, Text.dropWhile_of_head hb]
    refine ⟨s ++ b, Text.dropStart?_eq_some_iff.2 ⟨w, List.append_assoc w s b, hw⟩, ?_, ?_⟩
    · rw [hdrop, List.length_append]
      have := List.length_pos_iff.2 hne
      omega
    · rw [hdrop, hbody]

namespace Woken

/-- The wake word reaches up to the first separator. -/
theorem eq_takeWhile (h : Woken t w s b) :
    w = (Text.trimStart t).takeWhile (fun c => !isSeparator c) := by
  obtain ⟨v, hv, hw⟩ := h.wakeWord
  have hletters : ∀ c ∈ w, (!isSeparator c) = true := fun c hc => by
    rw [isSeparator_of_isAlpha (isAlpha_of_wakeWord hv hw c hc)]
    rfl
  have hstop : ∀ c ∈ (s ++ b).head?, (!isSeparator c) = false := fun c hc => by
    cases s with
    | nil => exact absurd rfl h.separated
    | cons d s =>
        obtain rfl : d = c := Option.some.inj hc
        rw [h.separators d List.mem_cons_self]
        rfl
  rw [h.split, List.append_assoc, List.takeWhile_append_of_pos hletters,
    Text.takeWhile_of_head hstop, List.append_nil]

/-- **A phrase has one split at most.** -/
theorem unique (h : Woken t w s b) (h' : Woken t w' s' b') : w = w' ∧ s = s' ∧ b = b' := by
  have hw : w = w' := h.eq_takeWhile.trans h'.eq_takeWhile.symm
  have hrest : s ++ b = s' ++ b' := by
    have heq := h.split.symm.trans h'.split
    rw [List.append_assoc, List.append_assoc, hw] at heq
    exact List.append_cancel_left heq
  have hs : s = s' := by
    have htake := congrArg (List.takeWhile isSeparator) hrest
    rwa [List.takeWhile_append_of_pos h.separators, List.takeWhile_append_of_pos h'.separators,
      Text.takeWhile_of_head h.head, Text.takeWhile_of_head h'.head, List.append_nil,
      List.append_nil] at htake
  exact ⟨hw, hs, List.append_cancel_left (hs ▸ hrest)⟩

/-- **The gate lets every split phrase pass**: blanks are no letters, so the letters of the phrase
begin with those of the wake word. -/
theorem hasWakeWord (h : Woken t w s b) : spoken.hasWakeWord t = true := by
  obtain ⟨v, hv, hw⟩ := h.wakeWord
  have hletters : w.filter Char.isAlpha = w :=
    List.filter_eq_self.2 (isAlpha_of_wakeWord hv hw)
  have ht : t.filter Char.isAlpha = w ++ (s ++ b).filter Char.isAlpha := by
    rw [← Text.filter_isAlpha_trimStart, h.split, List.append_assoc, List.filter_append, hletters]
  exact hasWakeWord_of_letters hv hw ht

end Woken

/-- **The search finds the body of the split**, and there is no other to find. -/
theorem body?_spoken_iff {body : Text} :
    spoken.body? t = some body ↔ ∃ w s b, Woken t w s b ∧ Text.trimEnd b = body := by
  have hfound : ∀ {body}, spoken.body? t = some body →
      ∃ w s b, Woken t w s b ∧ Text.trimEnd b = body := by
    intro body h
    obtain ⟨_, hmem, hbody⟩ := List.exists_of_findSome?_eq_some h
    obtain ⟨v, hv, rfl⟩ := List.mem_map.1 hmem
    obtain ⟨w, s, b, hsplit, hw, hne, hs, hb, hend⟩ := bodyAfter?_eq_some_iff_split.1 hbody
    exact ⟨w, s, b, ⟨hsplit, ⟨v, hv, hw⟩, hne, hs, hb⟩, hend⟩
  refine ⟨hfound, ?_⟩
  rintro ⟨w, s, b, h, rfl⟩
  obtain ⟨v, hv, hw⟩ := h.wakeWord
  have hbody : bodyAfter? v.toList (Text.trimStart t) = some (Text.trimEnd b) :=
    bodyAfter?_eq_some_iff_split.2 ⟨w, s, b, h.split, hw, h.separated, h.separators, h.head, rfl⟩
  have hsome : (spoken.body? t).isSome = true :=
    List.findSome?_isSome_iff.2 ⟨v.toList, List.mem_map_of_mem hv, by rw [hbody]; rfl⟩
  obtain ⟨body, hb⟩ := Option.isSome_iff_exists.1 hsome
  obtain ⟨w', s', b', h', rfl⟩ := hfound hb
  rw [hb, (h.unique h').2.2]

end Grammar
end SpokenEditor
