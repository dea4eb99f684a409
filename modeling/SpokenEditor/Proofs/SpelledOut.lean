import SpokenEditor.Proofs.WakeWords

/-! # Wake words spelled out

The gate reads the letters of a phrase and passes over everything between them; the body is cut off
behind a wake word as it stands.  So a phrase such as `e-book, run` passes the gate and has no body.
`Spelled v head rest` says how the gate sees a wake word followed by a body.

* `trimStart_append_of_letters`: trimming does not reach past a letter;
* `Spelled.woken`: a wake word that is spelled without gaps is split off;
* `Spelled.isAlpha_of_body?`: and only such a wake word leaves the right body;
* `hasWakeWord_and_body?_iff`, `body?_hyphenated`: both together, and the phrase in question. -/

namespace SpokenEditor
namespace Grammar

/-- The letters of the phrase `head ++ rest` begin with the wake word `v`, whatever stands between
them: `head` reaches up to its last letter, and a separator follows. -/
structure Spelled (v : String) (head rest : Text) : Prop where
  letters : Text.sameLetters (head.filter Char.isAlpha) v.toList = true
  last : ∀ c ∈ head.getLast?, c.isAlpha = true
  separated : ∃ c ∈ rest.head?, isSeparator c = true

variable {v : String} {head rest : Text}

theorem isAlpha_of_isSeparator {c : Char} (h : isSeparator c = true) : c.isAlpha = false := by
  rw [← Bool.not_eq_true]
  intro hletter
  rw [isSeparator_of_isAlpha hletter] at h
  cases h

/-- Trimming does not reach past a letter. -/
theorem trimStart_append_of_letters (h : head.filter Char.isAlpha ≠ []) (rest : Text) :
    Text.trimStart (head ++ rest) = Text.trimStart head ++ rest := by
  have hne : head.dropWhile Text.isBlank ≠ [] := by
    intro hnil
    have hletters := Text.filter_isAlpha_trimStart head
    rw [Text.trimStart, hnil] at hletters
    exact h hletters.symm
  rw [Text.trimStart, List.dropWhile_append, if_neg (by simpa using hne)]
  rfl

namespace Spelled

/-- A wake word has letters. -/
theorem letters_ne_nil (hv : v ∈ spokenWakeWords) (h : Spelled v head rest) :
    head.filter Char.isAlpha ≠ [] := by
  have hwords : ∀ v ∈ spokenWakeWords, v.toList ≠ [] := by decide
  intro hnil
  have hlower := map_toLower_of_wakeWord hv h.letters
  rw [hnil] at hlower
  exact hwords v hv hlower.symm

theorem hasWakeWord (hv : v ∈ spokenWakeWords) (h : Spelled v head rest) :
    spoken.hasWakeWord (head ++ rest) = true :=
  hasWakeWord_of_letters hv h.letters (List.filter_append _ _)

/-- **A wake word that is spelled without gaps is split off.** -/
theorem woken (hv : v ∈ spokenWakeWords) (h : Spelled v head rest)
    (hall : ∀ c ∈ Text.trimStart head, c.isAlpha = true) :
    Woken (head ++ rest) (Text.trimStart head) (rest.takeWhile isSeparator)
      (rest.dropWhile isSeparator) := by
  have hword : Text.trimStart head = head.filter Char.isAlpha := by
    rw [← Text.filter_isAlpha_trimStart, List.filter_eq_self.2 hall]
  refine ⟨?_, ⟨v, hv, hword ▸ h.letters⟩, ?_, List.all_eq_true.1 List.all_takeWhile, ?_⟩
  · rw [trimStart_append_of_letters (h.letters_ne_nil hv), List.append_assoc,
      List.takeWhile_append_dropWhile]
  · obtain ⟨c, hc, hsep⟩ := h.separated
    obtain ⟨r, rfl⟩ := List.head?_eq_some_iff.1 hc
    rw [List.takeWhile_cons_of_pos hsep]
    exact List.cons_ne_nil c _
  · intro c hc
    have hnot := List.head?_dropWhile_not isSeparator rest
    rwa [Option.mem_def.1 hc] at hnot

/-- **Only a wake word without gaps leaves the right body.**  If a shorter wake word were split off,
the letters behind it would belong to the body. -/
theorem isAlpha_of_body? (hv : v ∈ spokenWakeWords) (h : Spelled v head rest)
    (hbody : spoken.body? (head ++ rest) = some (Text.trimEnd (rest.dropWhile isSeparator))) :
    ∀ c ∈ Text.trimStart head, c.isAlpha = true := by
  obtain ⟨w, s, b, hwoken, hb⟩ := body?_spoken_iff.1 hbody
  obtain ⟨u, hu, hw⟩ := hwoken.wakeWord
  have hletters : ∀ c ∈ w, c.isAlpha = true := isAlpha_of_wakeWord hu hw
  have hsplit : Text.trimStart head ++ rest = w ++ (s ++ b) := by
    rw [← trimStart_append_of_letters (h.letters_ne_nil hv), hwoken.split, List.append_assoc]
  obtain ⟨x, hx, -⟩ | ⟨x, hx, hrest⟩ := List.append_eq_append_iff.1 hsplit
  · exact fun c hc => hletters c (hx ▸ List.mem_append_left x hc)
  · -- both bodies have the same letters, so none stands between the wake word and the rest
    have hbodies : b.filter Char.isAlpha = rest.filter Char.isAlpha := by
      rw [← Text.filter_isAlpha_trimEnd, hb, Text.filter_isAlpha_trimEnd,
        Text.filter_isAlpha_dropWhile fun _ => isAlpha_of_isSeparator]
    have hs : s.filter Char.isAlpha = [] := List.filter_eq_nil_iff.2 fun c hc => by
      simp [isAlpha_of_isSeparator (hwoken.separators c hc)]
    have hcount := congrArg (List.filter Char.isAlpha) hrest
    rw [List.filter_append, List.filter_append, hs, List.nil_append, hbodies] at hcount
    have hnone : x.filter Char.isAlpha = [] := List.self_eq_append_left.1 hcount
    have hnil : x = [] := by
      by_contra hne
      have hhead : head.getLast? = x.getLast? := by
        have hblanks := List.takeWhile_append_dropWhile (p := Text.isBlank) (l := head)
        rw [← Text.trimStart, hx, ← List.append_assoc] at hblanks
        rw [← hblanks, List.getLast?_append_of_ne_nil _ hne]
      obtain ⟨c, hc⟩ : ∃ c, x.getLast? = some c := ⟨_, List.getLast?_eq_some_getLast hne⟩
      have hletter := h.last c (hhead.trans hc)
      exact List.filter_eq_nil_iff.1 hnone c (List.mem_of_getLast? hc) hletter
    rw [hx, hnil, List.append_nil]
    exact hletters

end Spelled

/-- **Where the gate and the body agree.**  A phrase whose letters begin with a wake word, with a
separator behind the last of them, passes the gate.  Its body is what follows the separators exactly
if nothing but blanks stands before the letters and nothing between them. -/
theorem hasWakeWord_and_body?_iff (hv : v ∈ spokenWakeWords) (h : Spelled v head rest) :
    spoken.hasWakeWord (head ++ rest) = true ∧
      (spoken.body? (head ++ rest) = some (Text.trimEnd (rest.dropWhile isSeparator)) ↔
        ∀ c ∈ Text.trimStart head, c.isAlpha = true) := by
  refine ⟨h.hasWakeWord hv, h.isAlpha_of_body? hv, fun hall => ?_⟩
  exact body?_spoken_iff.2 ⟨_, _, _, h.woken hv hall, rfl⟩

/-- A wake word behind a blank, in capitals. -/
theorem hasWakeWord_and_body?_iff_capitals :
    "evoked" ∈ spokenWakeWords ∧ Spelled "evoked" " EVOKED".toList ", , Save ".toList ∧
      spoken.hasWakeWord " EVOKED, , Save ".toList = true ∧
      spoken.body? " EVOKED, , Save ".toList = some "Save".toList := by
  have hv : "evoked" ∈ spokenWakeWords := by decide
  have hspelled : Spelled "evoked" " EVOKED".toList ", , Save ".toList :=
    ⟨by decide +kernel, by rintro _ ⟨⟩; decide, ⟨',', rfl, by decide⟩⟩
  obtain ⟨hgate, hbody⟩ := hasWakeWord_and_body?_iff hv hspelled
  have hall : ∀ c ∈ Text.trimStart " EVOKED".toList, c.isAlpha = true :=
    List.all_eq_true.1 (by decide +kernel)
  exact ⟨hv, hspelled, hgate, hbody.2 hall⟩

/-- A hyphen in the wake word: the phrase passes the gate, and its body is lost. -/
theorem body?_hyphenated :
    Spelled "ebook" "e-book".toList " save".toList ∧
      spoken.hasWakeWord "e-book save".toList = true ∧
      spoken.body? "e-book save".toList = none ∧
      spoken.body? "e-book save".toList ≠ some "save".toList ∧
      spoken.parse "e-book save".toList = .unrecognized := by
  refine ⟨⟨by decide +kernel, by rintro _ ⟨⟩; decide, ⟨' ', rfl, by decide⟩⟩, ?_⟩
  decide +kernel

end Grammar
end SpokenEditor
