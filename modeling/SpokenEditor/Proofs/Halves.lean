import SpokenEditor.Proofs.Answer
import SpokenEditor.Proofs.Effects
import SpokenEditor.Service.Fixed
import SpokenEditor.Service.Outbox
import SpokenEditor.Session.Basic
import Mathlib.Data.List.Basic

/-! # The two halves of a session

Reporting the authentication status is the only way from one half of a session to the other, and
each half has its own commands and its own collaborators.

* `Engine.isAuthenticated_run`: the mode knows the last status that was reported;
* `Session.beforeLogin_step`, `Session.afterLogin_step`: what one step may do in each half;
* `Session.step_of_ignored`: a step whose outcome is ignored changes nothing at all;
* `Session.run_separates`: all of it at every step of every run. -/

namespace SpokenEditor

/-- The status that an event reports, if it reports one. -/
def SessionEvent.status? : SessionEvent → Option Bool
  | heard _ => none
  | authenticated status => some status

/-- The last status that was reported, `false` if none was. -/
def lastStatus (events : List SessionEvent) : Bool :=
  ((events.filterMap SessionEvent.status?).getLast?).getD false

/-! ### The mode follows the status -/

namespace Engine

@[simp] theorem isAuthenticated_setAuthenticated (b : Bool) (e : Engine) :
    (e.setAuthenticated b).mode.isAuthenticated = b := by
  unfold setAuthenticated
  split
  · next h => exact h
  · rw [mode_goTo, Mode.isAuthenticated_entry]

@[simp] theorem mode_handle (u : Utterance) (e : Engine) :
    (e.handle u).2.mode = (e.mode.respond u).2 := mode_goTo _ _

theorem isAuthenticated_handle (u : Utterance) (e : Engine) :
    (e.handle u).2.mode.isAuthenticated = e.mode.isAuthenticated := by
  rw [mode_handle]
  exact (Mode.answers_respond e.mode u).isAuthenticated_eq

/-- After a run the mode is in the half of the last status, or where it was if none was reported. -/
theorem isAuthenticated_run : ∀ (events : List SessionEvent) (e : Engine),
    (e.run events).mode.isAuthenticated =
      ((events.filterMap SessionEvent.status?).getLast?).getD e.mode.isAuthenticated
  | [], _ => rfl
  | .heard t :: events, e => by
      have ih := isAuthenticated_run events (e.handle (.ofText t)).2
      rw [isAuthenticated_handle] at ih
      exact ih
  | .authenticated b :: events, e => by
      have ih := isAuthenticated_run events (e.setAuthenticated b)
      rw [isAuthenticated_setAuthenticated] at ih
      have hstatus : (SessionEvent.authenticated b :: events).filterMap SessionEvent.status? =
          b :: events.filterMap SessionEvent.status? := rfl
      rw [hstatus, List.getLast?_cons]
      exact ih

end Engine

/-! ### One step -/

namespace Session

variable {β σ : Type}

/-- What a step before login may do: it is ignored or it is a command of the login form, the
surface is as it was, and the only effects are calls on the form. -/
structure BeforeLogin (outcome : Option Outcome) (s next : Session β σ) : Prop where
  outcome : ∀ o ∈ outcome, o = .ignored ∨ ∃ c, o = .command c ∧ c.isForm = true
  surface : next.dispatcher.surface = s.dispatcher.surface
  effects : s.dispatcher.AddsOnly (fun e => ∃ k, e = .call k ∧ k.isForm = true) next.dispatcher

/-- What a step after login may do: no command of the login form and no call on it, and edits only
in dictation. -/
structure AfterLogin (outcome : Option Outcome) (s next : Session β σ) : Prop where
  command : ∀ c, .command c ∈ outcome → c.isForm = false
  edit : ∀ e, .edit e ∈ outcome → s.engine.mode = .dictation
  effects : s.dispatcher.AddsOnly (fun e => ∀ k, e = .call k → k.isForm = false) next.dispatcher

variable [EditingSurface β] [Services σ]

/-- The engine, the outcome and the effects of a transcript, in terms of what the mode answers. -/
theorem answers_hear (s : Session β σ) (t : Text) :
    Mode.Answers (.ofText t) s.engine.mode (s.hear t).1 (s.hear t).2.engine.mode := by
  have h := Mode.answers_respond s.engine.mode (.ofText t)
  rw [← Engine.mode_handle] at h
  exact h

theorem dispatcher_hear (s : Session β σ) (t : Text) :
    (s.hear t).2.dispatcher = s.dispatcher.dispatch (s.hear t).1 := rfl

theorem beforeLogin_step {s : Session β σ} (hs : s.engine.mode.isAuthenticated = false)
    (event : SessionEvent) : BeforeLogin (s.step event).1 s (s.step event).2 := by
  cases event with
  | authenticated b => exact ⟨nofun, rfl, .refl _ _⟩
  | heard t =>
      obtain ⟨o, ho⟩ : ∃ o, (s.hear t).1 = o := ⟨_, rfl⟩
      have hadds := Dispatcher.trace_dispatch_causes o s.dispatcher
      have hform := (s.answers_hear t).isForm_of_not_isAuthenticated hs
      have hnext := s.dispatcher_hear t
      rw [ho] at hform hnext
      refine ⟨fun _ h => ?_, ?_, ?_⟩
      · obtain rfl : (s.hear t).1 = _ := Option.some.inj h
        exact ho ▸ hform
      · show (s.hear t).2.dispatcher.surface = _
        rw [hnext]
        obtain rfl | ⟨c, rfl, -⟩ := hform
        · rfl
        · exact Dispatcher.surface_dispatch_command c _
      · show Dispatcher.AddsOnly _ _ (s.hear t).2.dispatcher
        rw [hnext]
        obtain rfl | ⟨c, rfl, hc⟩ := hform
        · exact .refl _ _
        · refine hadds.mono fun e he => ?_
          obtain ⟨k, rfl⟩ := he.eq_call hc
          exact ⟨k, rfl, he.isForm_eq.trans hc⟩

theorem afterLogin_step {s : Session β σ} (hs : s.engine.mode.isAuthenticated = true)
    (event : SessionEvent) : AfterLogin (s.step event).1 s (s.step event).2 := by
  cases event with
  | authenticated b => exact ⟨nofun, nofun, .refl _ _⟩
  | heard t =>
      obtain ⟨o, ho⟩ : ∃ o, (s.hear t).1 = o := ⟨_, rfl⟩
      have hanswer := s.answers_hear t
      have hadds := Dispatcher.trace_dispatch_causes o s.dispatcher
      have hnext := s.dispatcher_hear t
      rw [ho] at hanswer hnext
      refine ⟨fun c h => ?_, fun e h => ?_, ?_⟩
      · obtain rfl : o = .command c := ho ▸ Option.some.inj h
        exact hanswer.isForm_of_isAuthenticated hs
      · obtain rfl : o = .edit e := ho ▸ Option.some.inj h
        exact hanswer.mode_of_edit
      · show Dispatcher.AddsOnly _ _ (s.hear t).2.dispatcher
        rw [hnext]
        refine hadds.mono fun e he k hk => ?_
        subst hk
        cases o with
        | command c => exact he.isForm_eq.trans (hanswer.isForm_of_isAuthenticated hs)
        | edit e => cases he
        | ignored => cases he

/-- A transcript that is ignored changes nothing: not the engine, nor any collaborator. -/
theorem hear_of_ignored {s : Session β σ} {t : Text} (h : (s.hear t).1 = .ignored) :
    (s.hear t).2 = s := by
  have hmode := s.answers_hear t
  rw [h] at hmode
  have hengine : (s.hear t).2.engine = s.engine := by
    have hm := hmode.mode_eq_of_ignored
    have hgo : (s.hear t).2.engine = s.engine.goTo (s.engine.mode.respond (.ofText t)).2 := rfl
    rw [hgo, Engine.mode_goTo] at hm
    rw [hgo, hm, Engine.goTo, if_pos rfl]
  have hdispatcher : (s.hear t).2.dispatcher = s.dispatcher := by
    rw [dispatcher_hear, h]
    rfl
  calc (s.hear t).2 = ⟨(s.hear t).2.engine, (s.hear t).2.dispatcher⟩ := rfl
    _ = s := by rw [hengine, hdispatcher]

/-- No command is `unrecognized`, and a step whose outcome is ignored changes nothing at all. -/
theorem step_of_ignored (s : Session β σ) (event : SessionEvent) :
    .command .unrecognized ∉ (s.step event).1 ∧
      (.ignored ∈ (s.step event).1 → (s.step event).2 = s) := by
  cases event with
  | authenticated b => exact ⟨nofun, nofun⟩
  | heard t =>
      refine ⟨fun h => ?_, fun h => hear_of_ignored (Option.some.inj h)⟩
      exact (s.answers_hear t).ne_unrecognized (Option.some.inj h)

/-! ### Every run -/

/-- **The status separates the two halves of a session.** After any run from the beginning, over any
collaborators, the mode is in the half of the last status that was reported.  Whatever event comes
next, before login it leads at most to a command and to calls of the login form, after login to
none of these and to edits only in dictation; what is ignored changes nothing, and no command is
`unrecognized`. -/
theorem run_separates (surface : β) (services : σ) (threshold : Binary64)
    (events : List SessionEvent) (event : SessionEvent) :
    let s := (Session.start (.start surface services threshold)).run events
    s.engine.mode.isAuthenticated = lastStatus events ∧
      (lastStatus events = false → BeforeLogin (s.step event).1 s (s.step event).2) ∧
      (lastStatus events = true → AfterLogin (s.step event).1 s (s.step event).2) ∧
      .command .unrecognized ∉ (s.step event).1 ∧
      (.ignored ∈ (s.step event).1 → (s.step event).2 = s) := by
  intro s
  have hs : s.engine.mode.isAuthenticated = lastStatus events := by
    rw [engine_run]
    exact Engine.isAuthenticated_run events _
  refine ⟨hs, fun h => ?_, fun h => ?_, s.step_of_ignored event⟩
  · exact beforeLogin_step (hs.trans h) event
  · exact afterLogin_step (hs.trans h) event

/-- A session that logged in and out again hears a field of the login form, or a blank, and one that
is logged in hears a command.  Their calls are only put in the queue of an outbox. -/
theorem run_separates_instance :
    let start := Session.start (.start (FixedSurface.mk ⟨1, 1⟩)
      (Outbox.start (FixedServices.mk [] none fun _ => .done)) defaultThreshold)
    let out := start.run [.authenticated true, .authenticated false]
    let logged := start.run [.authenticated true]
    let phrase := out.step (.heard "login".toList)
    let blank := out.step (.heard [])
    let command := logged.step (.heard "evoke run".toList)
    (lastStatus [.authenticated true, .authenticated false] = false ∧
      (BeforeLogin phrase.1 out phrase.2 ∧
        phrase.1 = some (.command (.selectField .login)) ∧
        phrase.2.dispatcher.worker.services.queue = [.call (.selectField .login)]) ∧
      BeforeLogin blank.1 out blank.2 ∧ .ignored ∈ blank.1 ∧ blank.2 = out) ∧
    lastStatus [.authenticated true] = true ∧
      AfterLogin command.1 logged command.2 ∧
      command.1 = some (.command .runCode) ∧
      command.2.dispatcher.worker.services.queue = [.call .run] := by
  intro start out logged phrase blank command
  have hphrase := run_separates (FixedSurface.mk ⟨1, 1⟩)
    (Outbox.start (FixedServices.mk [] none fun _ => .done)) defaultThreshold
    [.authenticated true, .authenticated false] (.heard "login".toList)
  have hblank := run_separates (FixedSurface.mk ⟨1, 1⟩)
    (Outbox.start (FixedServices.mk [] none fun _ => .done)) defaultThreshold
    [.authenticated true, .authenticated false] (.heard [])
  have hcommand := run_separates (FixedSurface.mk ⟨1, 1⟩)
    (Outbox.start (FixedServices.mk [] none fun _ => .done)) defaultThreshold
    [.authenticated true] (.heard "evoke run".toList)
  exact ⟨⟨rfl, ⟨hphrase.2.1 rfl, rfl, rfl⟩, hblank.2.1 rfl, rfl, hblank.2.2.2.2 rfl⟩, rfl,
    hcommand.2.2.1 rfl, rfl, rfl⟩

end Session
end SpokenEditor
