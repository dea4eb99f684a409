import SpokenEditor.Proofs.History

/-! # What observers of the mode see

The engine holds the mode twice, once to answer by and once to show it.  Both change together: a
value is sent when a step changes the mode, it is the new mode, and nothing else is ever sent.
`Changes` lists the steps that change the mode.

* `Mode.Answers.changes_iff`: the outcomes that come with a change;
* `Engine.step_ne_iff_changes`: the steps that change the mode;
* `Engine.indicator_step`: one step sends one value or none;
* `Engine.indicator_run`: so the values that a run sends are the modes that it changes to;
* `Engine.run_showsChanges`: all of it at every step of every run. -/

namespace SpokenEditor

/-- The observers get values, one after the other. -/
def Watch.sendAll {α : Type} (as : List α) (w : Watch α) : Watch α :=
  as.foldl (fun w a => w.send a) w

/-- `Changes mode event outcome next`: the event changes the mode to `next`, and the outcome comes
with it. -/
inductive Mode.Changes : Mode → SessionEvent → Option Outcome → Mode → Prop
  | select (t : Text) (f : Field) :
      Changes .awaitingField (.heard t) (some (.command (.selectField f))) (.capturing f)
  | fill (t : Text) (f : Field) (v : Text) :
      Changes (.capturing f) (.heard t) (some (.command (.fillField f v))) .awaitingField
  | enter (t : Text) : Changes .commands (.heard t) (some (.command .enterEdit)) .dictation
  | leave (t : Text) : Changes .dictation (.heard t) (some (.command .exitEdit)) .commands
  | login {mode : Mode} (h : mode.isAuthenticated = false) :
      Changes mode (.authenticated true) none .commands
  | logout {mode : Mode} (h : mode.isAuthenticated = true) :
      Changes mode (.authenticated false) none .awaitingField

/-! ### One step -/

/-- The mode changes with four outcomes only, and with one of them not in every mode. -/
theorem Mode.Answers.changes_iff {t : Text} {mode next : Mode} {o : Outcome}
    (h : Answers (.ofText t) mode o next) :
    next ≠ mode ↔ Changes mode (.heard t) (some o) next := by
  constructor
  · intro hne
    cases h with
    | select f => exact .select t f
    | fill f => exact .fill t f _
    | enter => exact .enter t
    | exit => exact .leave t
    | _ => exact absurd rfl hne
  · rintro (_ | _ | _ | _)
    all_goals nofun

/-- A report of the status changes the mode when it crosses to the other half of the session. -/
theorem Mode.changes_authenticated_iff {mode next : Mode} {b : Bool} :
    Changes mode (.authenticated b) none next ↔ mode.isAuthenticated ≠ b ∧ next = .entry b := by
  constructor
  · rintro (_ | _ | _ | _ | hout | hin)
    · exact ⟨by simp [hout], rfl⟩
    · exact ⟨by simp [hin], rfl⟩
  · rintro ⟨hne, rfl⟩
    cases b with
    | false => exact .logout (Bool.not_eq_false _ ▸ hne)
    | true => exact .login (Bool.not_eq_true _ ▸ hne)

namespace Engine

variable (e : Engine)

/-- **The mode changes at the steps of the list** and at no others. -/
theorem step_ne_iff_changes (event : SessionEvent) :
    (e.step event).2.mode ≠ e.mode ↔
      e.mode.Changes event (e.step event).1 (e.step event).2.mode := by
  cases event with
  | heard t =>
      obtain ⟨o, ho, h⟩ := e.answers_step_heard t
      rw [ho]
      exact h.changes_iff
  | authenticated b =>
      have hnext : (e.step (.authenticated b)).2.mode = _ := e.mode_setAuthenticated b
      have hnone : (e.step (.authenticated b)).1 = none := rfl
      rw [hnext, hnone, Mode.changes_authenticated_iff]
      split
      · next h => simp [h]
      · next h =>
        have hne : Mode.entry b ≠ e.mode := fun heq => h (heq ▸ Mode.isAuthenticated_entry b)
        exact iff_of_true hne ⟨h, rfl⟩

theorem indicator_goTo (next : Mode) :
    (e.goTo next).indicator = if next = e.mode then e.indicator else e.indicator.send next := by
  rw [goTo]
  split
  · next h => rw [if_pos h.symm]
  · next h => rw [if_neg fun hn => h hn.symm]

/-- **A step sends the mode after it if it changed the mode**, and nothing otherwise. -/
theorem indicator_step (event : SessionEvent) :
    (e.step event).2.indicator =
      if (e.step event).2.mode = e.mode then e.indicator
      else e.indicator.send (e.step event).2.mode := by
  cases event with
  | heard t =>
      have hnext : (e.step (.heard t)).2 = e.goTo (e.mode.respond (.ofText t)).2 := rfl
      rw [hnext, mode_goTo, indicator_goTo]
  | authenticated b =>
      have hnext : (e.step (.authenticated b)).2 = e.setAuthenticated b := rfl
      rw [hnext, setAuthenticated]
      split
      · exact (if_pos rfl).symm
      · rw [mode_goTo, indicator_goTo]

/-! ### Every run -/

/-- The modes that a run changes to, in order. -/
def changes (e : Engine) : List SessionEvent → List Mode
  | [] => []
  | event :: events =>
    let next := (e.step event).2
    if next.mode = e.mode then next.changes events else next.mode :: next.changes events

/-- **A run sends the modes that it changes to**, by induction on its events. -/
theorem indicator_run : ∀ (events : List SessionEvent) (e : Engine),
    (e.run events).indicator = e.indicator.sendAll (e.changes events)
  | [], _ => rfl
  | event :: events, e => by
      have ih : (e.run (event :: events)).indicator = _ := indicator_run events (e.step event).2
      rw [ih, indicator_step, changes]
      split
      · rfl
      · rfl

/-- What is shown stays the mode. -/
theorem value_indicator_run {e : Engine} (h : e.indicator.value = e.mode)
    (events : List SessionEvent) : (e.run events).indicator.value = (e.run events).mode := by
  induction events generalizing e with
  | nil => exact h
  | cons event events ih =>
      refine ih (e := (e.step event).2) ?_
      rw [indicator_step]
      split
      · next hsame => rw [h, hsame]
      · rfl

/-- **Observers see every change of the mode once and nothing else.**  After any run from the
beginning the value shown is the mode, and the values sent so far are the modes that the run changed
to, in order.  Whatever event comes next, it sends the mode after it if that is another one than
before, and nothing otherwise; and the mode changes only when a field is selected, filled in, when
dictation is entered or left, and when a report of the status crosses to the other half of the
session. -/
theorem run_showsChanges (events : List SessionEvent) (event : SessionEvent) :
    let now := start.run events
    let next := (now.step event).2
    now.indicator.value = now.mode ∧
      now.indicator = (Watch.ofValue .awaitingField).sendAll (start.changes events) ∧
      next.indicator.value = next.mode ∧
      next.indicator =
        (if next.mode = now.mode then now.indicator else now.indicator.send next.mode) ∧
      next.indicator.sent = now.indicator.sent + (if next.mode = now.mode then 0 else 1) ∧
      (next.mode ≠ now.mode ↔ now.mode.Changes event (now.step event).1 next.mode) := by
  intro now next
  have hstep := now.indicator_step event
  have hnext : next = start.run (events ++ [event]) := (run_append start events [event]).symm
  refine ⟨value_indicator_run rfl events, indicator_run events start, ?_, hstep, ?_,
    now.step_ne_iff_changes event⟩
  · rw [hnext]
    exact value_indicator_run rfl (events ++ [event])
  · show (now.step event).2.indicator.sent = _
    rw [hstep, apply_ite Watch.sent, Watch.sent_send]
    split
    · rfl
    · rfl

end Engine
end SpokenEditor
