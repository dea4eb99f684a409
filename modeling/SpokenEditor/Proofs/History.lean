import Mathlib.Data.List.Induction
import SpokenEditor.Proofs.Halves

/-! # What a mode remembers

An engine keeps nothing of its past but its mode, and still no content ends up in the wrong field
and no edit outside dictation.  The reason is that the mode remembers just what matters of the past:
which field was selected last, if only blanks were heard since, and whether dictation was entered
and not left.  `Since P Q past` is the past-time operator behind both: at some step `Q` held, and
`P` at every step after it.

* `since_concat_iff`: how one more step changes what held since;
* `Engine.mode_step_eq_capturing_iff`, `Engine.mode_step_eq_dictation_iff`: one step;
* `Engine.mode_run_eq_capturing_iff`, `Engine.mode_run_eq_dictation_iff`: every run;
* `Engine.run_attributes`: so what is filled in and what is edited was asked for. -/

namespace SpokenEditor

/-! ### The past -/

section Since

variable {α : Type} {P Q : α → Prop} {past : List α} {a : α}

/-- Somewhere in the past, oldest first, `Q` held, and after that `P` held all the time. -/
def Since (P Q : α → Prop) (past : List α) : Prop :=
  ∃ earlier a between, past = earlier ++ a :: between ∧ Q a ∧ ∀ b ∈ between, P b

theorem not_since_nil : ¬Since P Q [] := by
  rintro ⟨earlier, a, between, h, -⟩
  simp at h

/-- One more step: it is `Q` itself, or it is `P` and `Q` held before it. -/
theorem since_concat_iff : Since P Q (past ++ [a]) ↔ Q a ∨ P a ∧ Since P Q past := by
  constructor
  · rintro ⟨earlier, b, between, h, hb, hbetween⟩
    obtain rfl | ⟨between, c, rfl⟩ := List.eq_nil_or_concat' between
    · obtain ⟨rfl, rfl⟩ := List.append_inj' h rfl |>.imp_right List.singleton_inj.1
      exact .inl hb
    · rw [← List.cons_append, ← List.append_assoc] at h
      obtain ⟨rfl, rfl⟩ := List.append_inj' h rfl |>.imp_right List.singleton_inj.1
      rw [List.forall_mem_append, List.forall_mem_singleton] at hbetween
      exact .inr ⟨hbetween.2, earlier, b, between, rfl, hb, hbetween.1⟩
  · rintro (ha | ⟨ha, earlier, b, between, rfl, hb, hbetween⟩)
    · exact ⟨past, a, [], rfl, ha, by simp⟩
    · refine ⟨earlier, b, between ++ [a], by simp, hb, ?_⟩
      rw [List.forall_mem_append, List.forall_mem_singleton]
      exact ⟨hbetween, ha⟩

end Since

namespace Engine

/-- One step of a run: the event, its outcome if it is a transcript, and the engine after it. -/
structure Step where
  event : SessionEvent
  outcome : Option Outcome
  next : Engine

/-- The steps of a run, oldest first. -/
def steps (e : Engine) : List SessionEvent → List Step
  | [] => []
  | event :: events =>
    ⟨event, (e.step event).1, (e.step event).2⟩ :: steps (e.step event).2 events

theorem run_append (e : Engine) (es fs : List SessionEvent) :
    e.run (es ++ fs) = (e.run es).run fs :=
  List.foldl_append

theorem steps_append (fs : List SessionEvent) : ∀ (es : List SessionEvent) (e : Engine),
    e.steps (es ++ fs) = e.steps es ++ (e.run es).steps fs
  | [], _ => rfl
  | event :: es, e => by
      rw [List.cons_append, steps, steps_append fs es, steps, List.cons_append]
      rfl

end Engine

/-- The event lets a field wait for its content: a blank is heard, or the status is off. -/
def SessionEvent.Waits : SessionEvent → Prop
  | heard t => ∀ c ∈ t, Text.isBlank c = true
  | authenticated status => status = false

theorem Utterance.isEmpty_ofText_iff {t : Text} :
    (ofText t).isEmpty = true ↔ ∀ c ∈ t, Text.isBlank c = true := by
  rw [isEmpty, List.isEmpty_iff, raw_ofText, Text.trim_eq_nil_iff]

/-! ### One step -/

namespace Mode

variable {u : Utterance} {mode next : Mode} {o : Outcome}

/-- An utterance leads to capturing by selecting a field, or by being blank. -/
theorem Answers.eq_capturing_iff (h : Answers u mode o next) (f : Field) :
    next = .capturing f ↔
      o = .command (.selectField f) ∨ u.isEmpty = true ∧ mode = .capturing f := by
  cases h with
  | blank _ hu => simp [hu]
  | form c _ _ hc => simp [hc f]
  | fill _ hu => simp [hu]
  | spoken c _ hp =>
      have hform : c.isForm = false := hp ▸ Grammar.isForm_parse u.raw
      have hc : c ≠ .selectField f := by
        rintro rfl
        cases hform
      simp [hc]
  | _ => simp

/-- A captured field is filled in with anything that is not blank. -/
theorem Answers.fills {f : Field} (h : Answers u (.capturing f) o next)
    (hu : u.isEmpty = false) : ∃ v, o = .command (.fillField f v) := by
  cases h with
  | blank _ hblank => simp [hu] at hblank
  | fill => exact ⟨_, rfl⟩

/-- An utterance leads to dictation by entering it, or by not leaving it. -/
theorem Answers.eq_dictation_iff (h : Answers u mode o next) :
    next = .dictation ↔
      o = .command .enterEdit ∨ o ≠ .command .exitEdit ∧ mode = .dictation := by
  cases h with
  | form c _ hf =>
      have hc : c ≠ .enterEdit := by
        obtain ⟨f, rfl⟩ | ⟨login, rfl⟩ | rfl := formCommand?_cases hf
        all_goals simp
      simp [hc]
  | spoken c _ _ _ he => simp [he]
  | _ => simp

end Mode

namespace Engine

variable (e : Engine)

theorem mode_setAuthenticated (b : Bool) :
    (e.setAuthenticated b).mode = if e.mode.isAuthenticated = b then e.mode else .entry b := by
  unfold setAuthenticated
  split
  · rfl
  · rw [mode_goTo]

theorem answers_step_heard (t : Text) : ∃ o, (e.step (.heard t)).1 = some o ∧
    Mode.Answers (.ofText t) e.mode o (e.step (.heard t)).2.mode := by
  refine ⟨(e.handle (.ofText t)).1, rfl, ?_⟩
  have h := Mode.answers_respond e.mode (.ofText t)
  rw [← mode_handle] at h
  exact h

/-- The mode captures a field just after it was selected, and then as long as the field waits. -/
theorem mode_step_eq_capturing_iff (event : SessionEvent) (f : Field) :
    (e.step event).2.mode = .capturing f ↔
      (e.step event).1 = some (.command (.selectField f)) ∨
        event.Waits ∧ e.mode = .capturing f := by
  cases event with
  | heard t =>
      obtain ⟨o, ho, h⟩ := e.answers_step_heard t
      rw [h.eq_capturing_iff, ho, Option.some_inj, Utterance.isEmpty_ofText_iff]
      rfl
  | authenticated b =>
      have hnext : (e.step (.authenticated b)).2.mode = _ := e.mode_setAuthenticated b
      have hnone : (e.step (.authenticated b)).1 = none := rfl
      rw [hnext, hnone]
      cases b <;> cases e.mode <;> simp [SessionEvent.Waits, Mode.entry, Mode.isAuthenticated]

/-- The mode is dictation just after it was entered, and then as long as it is not left. -/
theorem mode_step_eq_dictation_iff (event : SessionEvent) :
    (e.step event).2.mode = .dictation ↔
      (e.step event).1 = some (.command .enterEdit) ∨
        ((e.step event).1 ≠ some (.command .exitEdit) ∧ event ≠ .authenticated false) ∧
          e.mode = .dictation := by
  cases event with
  | heard t =>
      obtain ⟨o, ho, h⟩ := e.answers_step_heard t
      rw [h.eq_dictation_iff, ho]
      simp
  | authenticated b =>
      have hnext : (e.step (.authenticated b)).2.mode = _ := e.mode_setAuthenticated b
      have hnone : (e.step (.authenticated b)).1 = none := rfl
      rw [hnext, hnone]
      cases b <;> cases e.mode <;> simp [Mode.entry, Mode.isAuthenticated]

end Engine

/-! ### Every run -/

namespace Engine

/-- The step selects the field. -/
def Step.Selects (f : Field) (s : Step) : Prop :=
  s.outcome = some (.command (.selectField f))

/-- The step lets a field wait for its content. -/
def Step.Waits (s : Step) : Prop :=
  s.event.Waits

/-- The step enters dictation. -/
def Step.Enters (s : Step) : Prop :=
  s.outcome = some (.command .enterEdit)

/-- The step does not leave dictation. -/
def Step.Stays (s : Step) : Prop :=
  s.outcome ≠ some (.command .exitEdit) ∧ s.event ≠ .authenticated false

/-- What a run leaves in the mode, from what a step does to it, by induction on the run. -/
theorem mode_run_eq_iff {mode : Mode} {P Q : Step → Prop} (hstart : start.mode ≠ mode)
    (hstep : ∀ (e : Engine) (event : SessionEvent),
      (e.step event).2.mode = mode ↔
        Q ⟨event, (e.step event).1, (e.step event).2⟩ ∨
          P ⟨event, (e.step event).1, (e.step event).2⟩ ∧ e.mode = mode)
    (events : List SessionEvent) :
    (start.run events).mode = mode ↔ Since P Q (start.steps events) := by
  induction events using List.reverseRecOn with
  | nil => exact iff_of_false hstart not_since_nil
  | append_singleton events event ih =>
      have hsteps : start.steps (events ++ [event]) = start.steps events ++
          [⟨event, ((start.run events).step event).1, ((start.run events).step event).2⟩] :=
        steps_append [event] events start
      have hrun : start.run (events ++ [event]) = ((start.run events).step event).2 :=
        run_append start events [event]
      rw [hrun, hsteps, since_concat_iff, ← ih]
      exact hstep _ event

/-- **A field is captured** exactly if it was selected and nothing but blanks and reports that the
status is off came since. -/
theorem mode_run_eq_capturing_iff (f : Field) (events : List SessionEvent) :
    (start.run events).mode = .capturing f ↔
      Since Step.Waits (Step.Selects f) (start.steps events) := by
  have hstart : start.mode ≠ .capturing f := by simp [start]
  exact mode_run_eq_iff hstart (fun e event => e.mode_step_eq_capturing_iff event f) events

/-- **Dictation is on** exactly if it was entered and neither left nor cut off since. -/
theorem mode_run_eq_dictation_iff (events : List SessionEvent) :
    (start.run events).mode = .dictation ↔
      Since Step.Stays Step.Enters (start.steps events) := by
  have hstart : start.mode ≠ .dictation := by simp [start]
  exact mode_run_eq_iff hstart (fun e event => e.mode_step_eq_dictation_iff event) events

/-- **What is filled in and what is edited was asked for.**  Whatever the events of a run from the
beginning are, and whatever comes next: content is filled into a field only if this field was
selected before and nothing but blanks and reports that the status is off came between, and the
content is what was said, cleaned up if it is the login.  If a field waits like this, the next
transcript that is not blank is filled in, whatever it says.  And an edit is made only if dictation
was entered before and was neither left nor cut off by a report that the status is off. -/
theorem run_attributes (events : List SessionEvent) (event : SessionEvent) :
    let past := start.steps events
    let outcome := ((start.run events).step event).1
    (∀ f v, outcome = some (.command (.fillField f v)) →
      Since Step.Waits (Step.Selects f) past ∧
        ∃ t, event = .heard t ∧
          v = match f with
            | .login => cleanLogin (Text.trim t)
            | .password => Text.trim t) ∧
      (∀ f t, Since Step.Waits (Step.Selects f) past → event = .heard t →
        (∃ c ∈ t, Text.isBlank c = false) → ∃ v, outcome = some (.command (.fillField f v))) ∧
      ∀ e, outcome = some (.edit e) → Since Step.Stays Step.Enters past := by
  intro past outcome
  refine ⟨?_, ?_, ?_⟩
  · intro f v hfill
    cases event with
    | authenticated b => exact absurd (show none = some _ from hfill) (by simp)
    | heard t =>
        obtain ⟨o, ho, h⟩ := (start.run events).answers_step_heard t
        obtain rfl : o = .command (.fillField f v) := Option.some.inj (ho.symm.trans hfill)
        obtain ⟨-, hmode, rfl⟩ := h.eq_capture
        refine ⟨(mode_run_eq_capturing_iff f events).1 hmode, t, rfl, ?_⟩
        cases f <;> rfl
  · rintro f t hsince rfl ⟨c, hc, hblank⟩
    obtain ⟨o, ho, h⟩ := (start.run events).answers_step_heard t
    have hmode : (start.run events).mode = .capturing f :=
      (mode_run_eq_capturing_iff f events).2 hsince
    rw [hmode] at h
    have hu : (Utterance.ofText t).isEmpty = false := by
      rw [← Bool.not_eq_true, Utterance.isEmpty_ofText_iff]
      intro hall
      rw [hall c hc] at hblank
      cases hblank
    obtain ⟨v, rfl⟩ := h.fills hu
    exact ⟨v, ho⟩
  · intro e hedit
    cases event with
    | authenticated b => exact absurd (show none = some _ from hedit) (by simp)
    | heard t =>
        obtain ⟨o, ho, h⟩ := (start.run events).answers_step_heard t
        obtain rfl : o = .edit e := Option.some.inj (ho.symm.trans hedit)
        exact (mode_run_eq_dictation_iff events).1 h.mode_of_edit

/-- A login that is spoken after a blank and a report, and dictation after another report. -/
theorem run_attributes_login :
    let selected : List SessionEvent :=
      [.heard "Login".toList, .heard " ".toList, .authenticated false]
    let entered : List SessionEvent :=
      [.authenticated true, .heard "Evoke, edit".toList, .authenticated true]
    let name := "Submit dot Password".toList
    (((start.run selected).step (.heard name)).1 =
        some (.command (.fillField .login "submit.password".toList)) ∧
      Since Step.Waits (Step.Selects .login) (start.steps selected) ∧
      (∃ c ∈ name, Text.isBlank c = false) ∧
      ∃ v, ((start.run selected).step (.heard name)).1 = some (.command (.fillField .login v))) ∧
    ((start.run entered).step (.heard "delete word".toList)).1 = some (.edit .deleteWord) ∧
      Since Step.Stays Step.Enters (start.steps entered) := by
  intro selected entered name
  obtain ⟨hfill, hwait, -⟩ := run_attributes selected (.heard name)
  obtain ⟨-, -, hedit⟩ := run_attributes entered (.heard "delete word".toList)
  have hname : ((start.run selected).step (.heard name)).1 =
      some (.command (.fillField .login "submit.password".toList)) := by decide +kernel
  have hword : ((start.run entered).step (.heard "delete word".toList)).1 =
      some (.edit .deleteWord) := by decide +kernel
  have hsince := (hfill .login _ hname).1
  have hspoken : ∃ c ∈ name, Text.isBlank c = false := ⟨'S', .head _, rfl⟩
  exact ⟨⟨hname, hsince, hspoken, hwait .login name hsince rfl hspoken⟩, hword, hedit _ hword⟩

end Engine
end SpokenEditor
