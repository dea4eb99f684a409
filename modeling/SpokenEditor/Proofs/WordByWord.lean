import SpokenEditor.Proofs.EndOfText
import SpokenEditor.Proofs.Readings

/-! # Deleting word by word

Deleting a word stops in front of a blank that is neither a space nor a tab nor a line break, and then
deletes nothing.  No such blank ever gets into a buffer that began empty: a phrase is cut into words
at its blanks, whatever they are, and joined again with spaces.

* `plainBlanks_dictatedText`: the blanks that a phrase inserts;
* `Text.WordDeleted.length_lt`: deleting a word of a text with these blanks makes it shorter;
* `AtEnd.cases_insert`: what an outcome makes of a text is longer by what was inserted, or a beginning
  of it;
* `Session.plainBlanks_step`, `Session.plainBlanks_run`: the blanks of a dictated buffer;
* `Session.run_deletesWords`: so a dictated buffer is emptied word by word. -/

namespace SpokenEditor

namespace Text

variable {t u : Text}

/-- The blanks of the text are spaces, tabs and line breaks. -/
def PlainBlanks (t : Text) : Prop :=
  ∀ c ∈ t, isBlank c = true → c = ' ' ∨ c = '\t' ∨ c = '\n'

theorem PlainBlanks.mono (h : PlainBlanks t) (hsub : u ⊆ t) : PlainBlanks u :=
  fun c hc => h c (hsub hc)

theorem PlainBlanks.append (ht : PlainBlanks t) (hu : PlainBlanks u) : PlainBlanks (t ++ u) :=
  List.forall_mem_append.2 ⟨ht, hu⟩

theorem WordDeleted.length_le (h : WordDeleted t u) : u.length ≤ t.length := by
  obtain ⟨word, gap, rfl, -⟩ := h
  rw [List.length_append, List.length_append]
  omega

/-- **Deleting a word makes progress**: in front of a gap that is empty there is a word. -/
theorem WordDeleted.length_lt (h : WordDeleted t u) (hplain : PlainBlanks t) (hne : t ≠ []) :
    u.length < t.length := by
  obtain ⟨word, gap, rfl, -, hlast, hword⟩ := h
  rw [List.length_append, List.length_append]
  by_contra hle
  obtain rfl : word = [] := List.length_eq_zero_iff.1 (by omega)
  obtain rfl : gap = [] := List.length_eq_zero_iff.1 (by omega)
  rw [List.append_nil] at hlast
  rw [List.append_nil, List.append_nil] at hne hplain
  obtain ⟨c, hc⟩ : ∃ c, u.getLast? = some c := ⟨_, List.getLast?_eq_some_getLast hne⟩
  cases hword with
  | nothing h =>
    -- the last character is a space or a tab, but then it belongs to the gap
    obtain ⟨hblank, hbreak⟩ := h c hc
    have hgap := hlast c hc
    obtain rfl | rfl | rfl := hplain c (List.mem_of_getLast? hc) hblank
    · exact absurd hgap (by decide)
    · exact absurd hgap (by decide)
    · exact absurd hbreak (by decide)
  | letters _ hnil => exact absurd rfl hnil
  | marks _ hnil => exact absurd rfl hnil

end Text

/-! ### What is inserted -/

/-- **A phrase inserts no other blanks**, whatever blanks it has itself. -/
theorem plainBlanks_dictatedText (p : Text) : Text.PlainBlanks (dictatedText p) := by
  have hliteral : ∀ cue ∈ spokenCues, cue.literal.all (fun c => !Text.isBlank c) = true ∨
      cue.literal = ['\t'] ∨ cue.literal = ['\n'] := by
    decide +kernel
  refine Text.PlainBlanks.append ?_ ?_
  · intro c hc hblank
    obtain rfl | ⟨w, hw, hcw⟩ := Text.mem_joinWords hc
    · exact .inl rfl
    · obtain hword | ⟨cue, hcue, rfl⟩ := mem_dictatedWords hw
      · rw [Text.isBlank_of_mem_words hword c hcw] at hblank
        cases hblank
      · obtain hall | htab | hbreak := hliteral cue hcue
        · have hnot := List.all_eq_true.1 hall c hcw
          rw [hblank] at hnot
          cases hnot
        · rw [htab] at hcw
          exact .inr (.inl (List.mem_singleton.1 hcw))
        · rw [hbreak] at hcw
          exact .inr (.inr (List.mem_singleton.1 hcw))
  · intro c hc _
    rw [spaceAfter] at hc
    split at hc
    · cases hc
    · split at hc
      · cases hc
      · exact .inl (List.mem_singleton.1 hc)

/-- An outcome inserts a text, or it leaves a beginning of the text. -/
theorem AtEnd.cases_insert {outcome : Option Outcome} {t u : Text} (h : AtEnd outcome t u) :
    (∃ new, outcome = some (.edit (.insertText new)) ∧ u = t ++ new) ∨ u <+: t := by
  obtain _ | o := outcome
  · exact .inr (h ▸ List.prefix_rfl)
  · cases o with
    | command c => exact .inr (h ▸ List.prefix_rfl)
    | ignored => exact .inr (h ▸ List.prefix_rfl)
    | edit e =>
      cases e with
      | insertText new => exact .inl ⟨new, rfl, h⟩
      | deleteLeft n => exact .inr (h ▸ List.take_prefix _ t)
      | deleteWord =>
        obtain ⟨word, gap, rfl, -⟩ := h
        exact .inr ⟨word ++ gap, (List.append_assoc u word gap).symm⟩
      | deleteLine =>
        obtain ⟨line, rfl, -⟩ := h
        exact .inr (List.prefix_append u line)

/-! ### Every run -/

/-- What is said to delete a word. -/
def sayDeleteWord : SessionEvent :=
  .heard "delete word".toList

namespace Session

variable {σ : Type} [Services σ] {s : Session Buffer σ}

/-- The text of the buffer after a step, at the end of the one before it. -/
theorem atEnd_text_step (hend : s.dispatcher.surface.after = []) (event : SessionEvent) :
    AtEnd (s.step event).1 s.dispatcher.surface.text (s.step event).2.dispatcher.surface.text :=
  ((atEnd_step hend event).2 _).2 rfl

/-- What a step inserts is the text of a phrase. -/
theorem eq_dictatedText_of_step {event : SessionEvent} {new : Text}
    (h : (s.step event).1 = some (.edit (.insertText new))) : ∃ p, new = dictatedText p := by
  cases event with
  | authenticated b => cases h
  | heard t =>
    have hanswer := s.answers_hear t
    have houtcome : (s.hear t).1 = .edit (.insertText new) := Option.some.inj h
    rw [houtcome] at hanswer
    generalize s.engine.mode = mode at hanswer
    generalize (s.hear t).2.engine.mode = next at hanswer
    cases hanswer with
    | edit _ _ _ hinterpret =>
      have hreads := interpret_eq_iff_reads.1 hinterpret
      cases hreads with
      | text => exact ⟨_, rfl⟩

/-- One step brings no other blanks into the buffer. -/
theorem plainBlanks_step (hend : s.dispatcher.surface.after = [])
    (h : Text.PlainBlanks s.dispatcher.surface.text) (event : SessionEvent) :
    Text.PlainBlanks (s.step event).2.dispatcher.surface.text := by
  obtain ⟨new, houtcome, htext⟩ | hprefix := (atEnd_text_step hend event).cases_insert
  · obtain ⟨p, rfl⟩ := eq_dictatedText_of_step houtcome
    rw [htext]
    exact h.append (plainBlanks_dictatedText p)
  · exact h.mono hprefix.subset

/-- Nor does a run, by induction on it. -/
theorem plainBlanks_run : ∀ (events : List SessionEvent) {s : Session Buffer σ},
    s.dispatcher.surface.after = [] → Text.PlainBlanks s.dispatcher.surface.text →
      Text.PlainBlanks (s.run events).dispatcher.surface.text
  | [], _, _, h => h
  | event :: events, _, hend, h =>
    plainBlanks_run events (atEnd_step hend event).1 (plainBlanks_step hend h event)

/-- In dictation the last word is deleted on demand, and dictation goes on. -/
theorem step_sayDeleteWord (hmode : s.engine.mode = .dictation) :
    (s.step sayDeleteWord).1 = some (.edit .deleteWord) ∧
      (s.step sayDeleteWord).2.engine.mode = .dictation := by
  have hrespond : Mode.dictation.respond (.ofText "delete word".toList) =
      (.edit .deleteWord, .dictation) := by
    decide +kernel
  have houtcome : (s.step sayDeleteWord).1 =
      some (s.engine.mode.respond (.ofText "delete word".toList)).1 := rfl
  have hnext : (s.step sayDeleteWord).2.engine.mode =
      (s.engine.mode.respond (.ofText "delete word".toList)).2 :=
    Engine.mode_handle (.ofText "delete word".toList) s.engine
  rw [houtcome, hnext, hmode, hrespond]
  exact ⟨rfl, rfl⟩

/-- At the end of the text, a word is deleted from it. -/
theorem wordDeleted_step (hend : s.dispatcher.surface.after = [])
    (hmode : s.engine.mode = .dictation) :
    Text.WordDeleted s.dispatcher.surface.text
      (s.step sayDeleteWord).2.dispatcher.surface.text := by
  have hdeleted := atEnd_text_step hend sayDeleteWord
  rw [(step_sayDeleteWord hmode).1] at hdeleted
  exact hdeleted

/-- Deleting a word makes the text of the buffer shorter, unless it is empty. -/
theorem length_step_sayDeleteWord (hend : s.dispatcher.surface.after = [])
    (hplain : Text.PlainBlanks s.dispatcher.surface.text) (hmode : s.engine.mode = .dictation)
    (hne : s.dispatcher.surface.text ≠ []) :
    (s.step sayDeleteWord).2.dispatcher.surface.text.length <
      s.dispatcher.surface.text.length :=
  (wordDeleted_step hend hmode).length_lt hplain hne

/-- Deleting as many words as there are characters empties the buffer, by induction on a bound of
their number. -/
theorem run_sayDeleteWord (n : ℕ) {s : Session Buffer σ} (hend : s.dispatcher.surface.after = [])
    (hplain : Text.PlainBlanks s.dispatcher.surface.text) (hmode : s.engine.mode = .dictation)
    (hn : s.dispatcher.surface.text.length ≤ n) :
    (s.run (List.replicate n sayDeleteWord)).dispatcher.surface.text = [] := by
  induction n generalizing s with
  | zero => exact List.length_eq_zero_iff.1 (Nat.le_zero.1 hn)
  | succ n ih =>
    have hnext : (s.step sayDeleteWord).2.dispatcher.surface.text.length ≤ n := by
      by_cases hnil : s.dispatcher.surface.text = []
      · -- there is nothing left to delete, and nothing is added
        have hle := (wordDeleted_step hend hmode).length_le
        rw [hnil, List.length_nil] at hle
        omega
      · have hlt := length_step_sayDeleteWord hend hplain hmode hnil
        omega
    exact ih (atEnd_step hend sayDeleteWord).1 (plainBlanks_step hend hplain sayDeleteWord)
      (step_sayDeleteWord hmode).2 hnext

/-- **A dictated buffer can be deleted word by word.**  After any run over an empty buffer, and any
services, the blanks of the text are spaces, tabs and line breaks.  In dictation, saying `delete word`
deletes a word and makes a text that is not empty shorter; saying it as many times as the text has
characters leaves nothing. -/
theorem run_deletesWords (services : σ) (threshold : Binary64) (events : List SessionEvent) :
    let s := (Session.start (.start Buffer.empty services threshold)).run events
    let text := s.dispatcher.surface.text
    (∀ c ∈ text, Text.isBlank c = true → c = ' ' ∨ c = '\t' ∨ c = '\n') ∧
      (s.engine.mode = .dictation → text ≠ [] →
        (s.step sayDeleteWord).1 = some (.edit .deleteWord) ∧
          (s.step sayDeleteWord).2.dispatcher.surface.text.length < text.length) ∧
      (s.engine.mode = .dictation →
        (s.run (List.replicate text.length sayDeleteWord)).dispatcher.surface.text = []) := by
  intro s text
  have hend : s.dispatcher.surface.after = [] := after_run events rfl
  have hplain : Text.PlainBlanks text := plainBlanks_run events rfl (List.forall_mem_nil _)
  refine ⟨hplain, fun hmode hne => ?_, fun hmode => ?_⟩
  · exact ⟨(step_sayDeleteWord hmode).1, length_step_sayDeleteWord hend hplain hmode hne⟩
  · exact run_sayDeleteWord text.length hend hplain hmode le_rfl

/-- Words apart by a blank that would stop the deletion, a line break and a tab. -/
theorem run_deletesWords_layout :
    let events : List SessionEvent := [.authenticated true, .heard "Evoke, edit".toList,
      .heard "print\u00a0x line\u2003indent p1".toList]
    let s := (Session.start (.start Buffer.empty (FixedServices.mk [] none fun _ => .done)
      defaultThreshold)).run events
    s.engine.mode = .dictation ∧
      s.dispatcher.surface.text = "print x \n \t ( ".toList ∧
      (s.step sayDeleteWord).1 = some (.edit .deleteWord) ∧
      (s.step sayDeleteWord).2.dispatcher.surface.text.length < 14 ∧
      (s.run (List.replicate 14 sayDeleteWord)).dispatcher.surface.text = [] := by
  intro events s
  obtain ⟨-, hstep, hrun⟩ :=
    run_deletesWords (FixedServices.mk [] none fun _ => .done) defaultThreshold events
  have hmode : s.engine.mode = .dictation := by decide +kernel
  have htext : s.dispatcher.surface.text = "print x \n \t ( ".toList := by decide +kernel
  have hlength : s.dispatcher.surface.text.length = 14 := by
    rw [htext]
    decide
  have hne : s.dispatcher.surface.text ≠ [] := by
    rw [htext]
    decide
  obtain ⟨houtcome, hlt⟩ := hstep hmode hne
  exact ⟨hmode, htext, houtcome, hlength ▸ hlt, hlength ▸ hrun hmode⟩

end Session
end SpokenEditor
