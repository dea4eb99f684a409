import SpokenEditor.Session.Engine

/-! # What each mode answers

`Answers u mode o next` lists everything that an utterance `u` can lead to: one constructor for
each way through `Mode.respond`, with the condition under which it is taken.  Whatever holds of a
session at every step is read off this list and not off the grammars:

* `answers_respond`: the list is complete;
* `Answers.isAuthenticated_eq`: an utterance never crosses from one half of a session to the other;
* `Answers.isForm_of_not_isAuthenticated`, `Answers.isForm_of_isAuthenticated`: the commands of the
  login form belong to the first half and all others to the second;
* `Answers.mode_eq_of_ignored`: what is ignored leaves the mode alone. -/

namespace SpokenEditor
namespace Mode

/-- `Answers u mode o next`: in the mode, the utterance `u` leads to `o` and to the mode `next`. -/
inductive Answers (u : Utterance) : Mode → Outcome → Mode → Prop
  | blank (mode : Mode) (hu : u.isEmpty = true) : Answers u mode .ignored mode
  | unheard (hu : u.isEmpty = false) (h : formCommand? u.normalized = none) :
      Answers u awaitingField .ignored awaitingField
  | select (f : Field) (hu : u.isEmpty = false)
      (h : formCommand? u.normalized = some (.selectField f)) :
      Answers u awaitingField (.command (.selectField f)) (capturing f)
  | form (c : Command) (hu : u.isEmpty = false) (h : formCommand? u.normalized = some c)
      (hc : ∀ f, c ≠ .selectField f) : Answers u awaitingField (.command c) awaitingField
  | fill (f : Field) (hu : u.isEmpty = false) :
      Answers u (capturing f) (.command (.fillField f (f.capture u.raw))) awaitingField
  | unrecognized (hu : u.isEmpty = false) (h : Grammar.spoken.parse u.raw = .unrecognized) :
      Answers u commands .ignored commands
  | enter (hu : u.isEmpty = false) (h : Grammar.spoken.parse u.raw = .enterEdit) :
      Answers u commands (.command .enterEdit) dictation
  | spoken (c : Command) (hu : u.isEmpty = false) (h : Grammar.spoken.parse u.raw = c)
      (hc : c ≠ .unrecognized) (he : c ≠ .enterEdit) : Answers u commands (.command c) commands
  | exit (hu : u.isEmpty = false) (h : u.normalized = "quit".toList) :
      Answers u dictation (.command .exitEdit) commands
  | edit (e : Edit) (hu : u.isEmpty = false) (hq : u.normalized ≠ "quit".toList)
      (h : interpret u.raw = some e) : Answers u dictation (.edit e) dictation
  | dropped (hu : u.isEmpty = false) (hq : u.normalized ≠ "quit".toList)
      (h : interpret u.raw = none) : Answers u dictation .ignored dictation

/-! ### The list is complete -/

variable {u : Utterance}

theorem answers_respond_awaitingField (hu : u.isEmpty = false) :
    Answers u awaitingField (awaitingField.respond u).1 (awaitingField.respond u).2 := by
  unfold respond
  rw [if_neg (by simp [hu])]
  cases hf : formCommand? u.normalized with
  | none => exact .unheard hu hf
  | some c =>
      by_cases hc : ∃ f, c = .selectField f
      · obtain ⟨f, rfl⟩ := hc
        exact .select f hu hf
      · have hne : ∀ f, c ≠ .selectField f := fun f e => hc ⟨f, e⟩
        cases c with
        | selectField f => exact absurd rfl (hne f)
        | _ => exact .form _ hu hf hne

theorem answers_respond_commands (hu : u.isEmpty = false) :
    Answers u commands (commands.respond u).1 (commands.respond u).2 := by
  unfold respond
  rw [if_neg (by simp [hu])]
  dsimp only
  split
  · next h => exact .unrecognized hu h
  · next h => exact .enter hu h
  · next hn he => exact .spoken _ hu rfl hn he

theorem answers_respond_dictation (hu : u.isEmpty = false) :
    Answers u dictation (dictation.respond u).1 (dictation.respond u).2 := by
  unfold respond
  rw [if_neg (by simp [hu])]
  dsimp only
  split
  · next h => exact .exit hu h
  · next hq =>
    cases he : interpret u.raw with
    | none => exact .dropped hu hq he
    | some e => exact .edit e hu hq he

/-- **Every answer is one of the list.** -/
theorem answers_respond (mode : Mode) (u : Utterance) :
    Answers u mode (mode.respond u).1 (mode.respond u).2 := by
  cases hu : u.isEmpty with
  | true =>
      rw [respond_of_isEmpty hu]
      exact .blank mode hu
  | false =>
      cases mode with
      | awaitingField => exact answers_respond_awaitingField hu
      | capturing f =>
          have e : (capturing f).respond u =
              (.command (.fillField f (f.capture u.raw)), awaitingField) := by
            rw [respond.eq_def, if_neg (by simp [hu])]
          rw [e]
          exact .fill f hu
      | commands => exact answers_respond_commands hu
      | dictation => exact answers_respond_dictation hu

/-! ### Consequences -/

variable {mode next : Mode} {o : Outcome}

/-- An utterance stays in its half of the session. -/
theorem Answers.isAuthenticated_eq (h : Answers u mode o next) :
    next.isAuthenticated = mode.isAuthenticated := by
  cases h <;> rfl

/-- What is ignored leaves the mode alone. -/
theorem Answers.mode_eq_of_ignored (h : Answers u mode .ignored next) : next = mode := by
  cases h <;> rfl

/-- Before login everything that is not ignored is a command of the login form. -/
theorem Answers.isForm_of_not_isAuthenticated (h : Answers u mode o next)
    (hm : mode.isAuthenticated = false) : o = .ignored ∨ ∃ c, o = .command c ∧ c.isForm = true := by
  cases h with
  | blank => exact .inl rfl
  | unheard => exact .inl rfl
  | select f => exact .inr ⟨_, rfl, rfl⟩
  | form c _ hf =>
      refine .inr ⟨c, rfl, ?_⟩
      obtain ⟨f, rfl⟩ | ⟨login, rfl⟩ | rfl := formCommand?_cases hf
      all_goals rfl
  | fill f => exact .inr ⟨_, rfl, rfl⟩
  | unrecognized => cases hm
  | enter => cases hm
  | spoken => cases hm
  | exit => cases hm
  | edit => cases hm
  | dropped => cases hm

/-- After login no command is one of the login form. -/
theorem Answers.isForm_of_isAuthenticated {c : Command} (h : Answers u mode (.command c) next)
    (hm : mode.isAuthenticated = true) : c.isForm = false := by
  cases h with
  | select => cases hm
  | form => cases hm
  | fill => cases hm
  | enter => rfl
  | spoken _ _ hp => exact hp ▸ Grammar.isForm_parse u.raw
  | exit => rfl

/-- Only dictation edits. -/
theorem Answers.mode_of_edit {e : Edit} (h : Answers u mode (.edit e) next) : mode = dictation := by
  cases h
  rfl

/-- A field is filled in with what was captured, never with nothing. -/
theorem Answers.eq_capture {f : Field} {v : Text}
    (h : Answers u mode (.command (.fillField f v)) next) :
    u.isEmpty = false ∧ mode = capturing f ∧ v = f.capture u.raw := by
  cases h with
  | form _ _ hf =>
      obtain ⟨f, hc⟩ | ⟨login, hc⟩ | hc := formCommand?_cases hf
      all_goals cases hc
  | fill _ hu => exact ⟨hu, rfl, rfl⟩
  | spoken _ _ hp =>
      have hform := Grammar.isForm_parse u.raw
      rw [hp] at hform
      cases hform

/-- A command that is carried out was recognized. -/
theorem Answers.ne_unrecognized (h : Answers u mode o next) : o ≠ .command .unrecognized := by
  cases h with
  | form c _ hf =>
      obtain ⟨f, rfl⟩ | ⟨login, rfl⟩ | rfl := formCommand?_cases hf
      all_goals nofun
  | spoken c _ _ hc => exact fun e => hc (Outcome.command.inj e)
  | _ => nofun

end Mode
end SpokenEditor
