import Mathlib.Data.List.Forall2
import SpokenEditor.Proofs.History
import SpokenEditor.Proofs.LetterCase

/-! # Capital letters change nothing

A recognizer writes capital letters as it likes.  Two runs of an engine whose transcripts differ in
the case of ASCII letters only go the same way: the engines are equal after every step, and so are
the outcomes, but for the case of letters in what is taken as it was said, that is a password, the
name of a project, the path of a file and the name of a file to open.

Both runs are compared with the one in which every transcript is in lowercase.

* `Mode.respond_lowerLetters`: one utterance in lowercase;
* `Engine.step_alike`: one step of two runs;
* `Engine.run_ignoresCase`: all of them. -/

namespace SpokenEditor

/-! ### What may differ -/

/-- The commands are equal, but for the case of letters in an argument that is taken as it was
said. -/
inductive Command.Alike : Command → Command → Prop
  | refl (c : Command) : Alike c c
  | password {v v' : Text} (h : Text.sameLetters v v' = true) :
      Alike (.fillField .password v) (.fillField .password v')
  | createProject {n n' : Text} (h : Text.sameLetters n n' = true) :
      Alike (.createProject n) (.createProject n')
  | createFile {p p' : Text} (h : Text.sameLetters p p' = true) :
      Alike (.createFile p) (.createFile p')
  | openFile {q q' : Text} (h : Text.sameLetters q q' = true) :
      Alike (.openFile q) (.openFile q')

/-- The outcomes are equal, but for such a difference of their commands. -/
inductive Outcome.Alike : Outcome → Outcome → Prop
  | command {c c' : Command} (h : c.Alike c') : Alike (.command c) (.command c')
  | edit (e : Edit) : Alike (.edit e) (.edit e)
  | ignored : Alike .ignored .ignored

/-- The events are equal, but for the case of letters in a transcript. -/
inductive SessionEvent.Alike : SessionEvent → SessionEvent → Prop
  | heard {t t' : Text} (h : Text.sameLetters t t' = true) : Alike (.heard t) (.heard t')
  | authenticated (status : Bool) : Alike (.authenticated status) (.authenticated status)

/-- The steps lead to the same engine, and their outcomes are alike. -/
structure Engine.Step.Alike (s s' : Step) : Prop where
  next : s.next = s'.next
  outcome : Option.Rel Outcome.Alike s.outcome s'.outcome

/-! ### Everything in lowercase -/

/-- The outcome with the letters of its command in lowercase. -/
def Outcome.lowerLetters : Outcome → Outcome
  | command c => command c.lowerLetters
  | o => o

/-- The event with the letters of its transcript in lowercase. -/
def SessionEvent.lowerLetters : SessionEvent → SessionEvent
  | heard t => heard (Text.lowerLetters t)
  | e => e

theorem Command.alike_of_lowerLetters {c c' : Command} (h : c.lowerLetters = c'.lowerLetters) :
    c.Alike c' := by
  have hsame : ∀ {s t : Text}, s.lowerLetters = t.lowerLetters → Text.sameLetters s t = true :=
    Text.sameLetters_iff_lowerLetters.2
  cases c with
  | fillField f v =>
      cases c' with
      | fillField f' v' =>
          cases f <;> cases f' <;> simp only [lowerLetters, fillField.injEq] at h
          · exact h.2 ▸ .refl _
          · cases h.1
          · cases h.1
          · exact .password (hsame h.2)
      | _ => cases f <;> cases h
  | createProject n =>
      cases c' with
      | fillField f' v' => cases f' <;> cases h
      | createProject n' => exact .createProject (hsame (createProject.inj h))
      | _ => cases h
  | createFile p =>
      cases c' with
      | fillField f' v' => cases f' <;> cases h
      | createFile p' => exact .createFile (hsame (createFile.inj h))
      | _ => cases h
  | openFile q =>
      cases c' with
      | fillField f' v' => cases f' <;> cases h
      | openFile q' => exact .openFile (hsame (openFile.inj h))
      | _ => cases h
  | _ =>
      cases c' with
      | fillField f' v' => cases f' <;> cases h
      | _ => cases h <;> exact .refl _

theorem Outcome.alike_of_lowerLetters {o o' : Outcome} (h : o.lowerLetters = o'.lowerLetters) :
    o.Alike o' := by
  cases o with
  | command c =>
      cases o' with
      | command c' => exact .command (Command.alike_of_lowerLetters (Outcome.command.inj h))
      | _ => cases h
  | edit e =>
      cases o' with
      | edit e' => exact Outcome.edit.inj h ▸ .edit e
      | _ => cases h
  | ignored =>
      cases o' with
      | ignored => exact .ignored
      | _ => cases h

theorem SessionEvent.Alike.lowerLetters_eq {ev ev' : SessionEvent} (h : ev.Alike ev') :
    ev.lowerLetters = ev'.lowerLetters := by
  cases h with
  | heard h => exact congrArg SessionEvent.heard (Text.sameLetters_iff_lowerLetters.1 h)
  | authenticated status => rfl

/-- **A mode answers an utterance in lowercase as it answers the utterance.** -/
theorem Mode.respond_lowerLetters (mode : Mode) (t : Text) :
    mode.respond (.ofText (Text.lowerLetters t)) =
      ((mode.respond (.ofText t)).1.lowerLetters, (mode.respond (.ofText t)).2) := by
  have hraw : (Utterance.ofText (Text.lowerLetters t)).raw =
      Text.lowerLetters (Utterance.ofText t).raw := Text.trim_lowerLetters t
  have hnormalized : (Utterance.ofText (Text.lowerLetters t)).normalized =
      (Utterance.ofText t).normalized := by
    simp only [Utterance.normalized_ofText, Text.trim_lowerLetters, Text.lowercase_lowerLetters]
  have hempty : (Utterance.ofText (Text.lowerLetters t)).isEmpty = (Utterance.ofText t).isEmpty := by
    rw [Utterance.isEmpty, hraw]
    exact List.isEmpty_map
  generalize Utterance.ofText (Text.lowerLetters t) = v at hraw hnormalized hempty
  generalize Utterance.ofText t = u at hraw hnormalized hempty
  unfold respond
  rw [hempty]
  split
  · rfl
  cases mode with
  | awaitingField =>
      dsimp only
      rw [hnormalized]
      cases hc : formCommand? u.normalized with
      | none => rfl
      | some c =>
          obtain ⟨f, rfl⟩ | ⟨login, rfl⟩ | rfl := formCommand?_cases hc
          all_goals rfl
  | capturing f =>
      dsimp only
      rw [hraw]
      cases f with
      | login => rw [Field.capture, cleanLogin_lowerLetters]; rfl
      | password => rfl
  | commands =>
      dsimp only
      rw [hraw, Grammar.parse_lowerLetters]
      cases Grammar.spoken.parse u.raw with
      | fillField f value => cases f <;> rfl
      | _ => rfl
  | dictation =>
      dsimp only
      rw [hraw, hnormalized, interpret_lowerLetters]
      split
      · rfl
      · cases interpret u.raw <;> rfl

namespace Engine

theorem step_lowerLetters (e : Engine) (event : SessionEvent) :
    e.step event.lowerLetters =
      ((e.step event).1.map Outcome.lowerLetters, (e.step event).2) := by
  cases event with
  | authenticated b => rfl
  | heard t =>
      have h := e.mode.respond_lowerLetters t
      show (some (e.mode.respond (.ofText (Text.lowerLetters t))).1,
        e.goTo (e.mode.respond (.ofText (Text.lowerLetters t))).2) = _
      rw [h]
      rfl

/-- One step of two runs. -/
theorem step_alike (e : Engine) {event event' : SessionEvent} (h : event.Alike event') :
    Step.Alike ⟨event, (e.step event).1, (e.step event).2⟩
      ⟨event', (e.step event').1, (e.step event').2⟩ := by
  have hstep := e.step_lowerLetters event
  rw [h.lowerLetters_eq, e.step_lowerLetters event', Prod.mk.injEq] at hstep
  obtain ⟨houtcome, hnext⟩ := hstep
  refine ⟨hnext.symm, ?_⟩
  show Option.Rel Outcome.Alike (e.step event).1 (e.step event').1
  cases ho : (e.step event).1 with
  | none =>
      rw [ho, Option.map_none, Option.map_eq_none_iff] at houtcome
      rw [houtcome]
      exact .none
  | some o =>
      rw [ho, Option.map_some, Option.map_eq_some_iff] at houtcome
      obtain ⟨o', ho', heq⟩ := houtcome
      rw [ho']
      exact .some (Outcome.alike_of_lowerLetters heq.symm)

/-- Two runs from one engine, by induction on their events. -/
theorem steps_alike {events events' : List SessionEvent}
    (h : List.Forall₂ SessionEvent.Alike events events') (e : Engine) :
    List.Forall₂ Step.Alike (e.steps events) (e.steps events') := by
  induction h generalizing e with
  | nil => exact .nil
  | cons hevent _ ih =>
      have hstep := e.step_alike hevent
      have hnext := hstep.next
      refine .cons hstep ?_
      dsimp only at hnext
      rw [hnext]
      exact ih _

/-- **The case of letters never changes what happens.**  Take two runs from the beginning whose
events are equal, but for the case of ASCII letters in the transcripts.  After every step the two
engines are equal, so they are in the same mode, and both steps have an outcome of the same kind.
The outcomes are equal even, but for the case of letters in a password, in the name of a project, in
the path of a file that is created and in the name of a file that is opened. -/
theorem run_ignoresCase {events events' : List SessionEvent}
    (h : List.Forall₂ SessionEvent.Alike events events') :
    List.Forall₂ Step.Alike (start.steps events) (start.steps events') :=
  steps_alike h start

/-- A run in which everything is said in lowercase, and the same run as another recognizer writes
it. -/
theorem run_ignoresCase_capitals :
    let events : List SessionEvent :=
      [.heard "login".toList, .heard "john dot doe".toList, .heard "password".toList,
        .heard "hunter".toList, .authenticated true, .heard "evoke create file main dot py".toList,
        .heard "evoke edit".toList, .heard "delete word".toList]
    let events' : List SessionEvent :=
      [.heard "Login".toList, .heard "John Dot Doe".toList, .heard "PASSWORD".toList,
        .heard "Hunter".toList, .authenticated true, .heard "Evoke Create File Main DOT Py".toList,
        .heard "EVOKE Edit".toList, .heard "Delete Word".toList]
    List.Forall₂ SessionEvent.Alike events events' ∧
      List.Forall₂ Step.Alike (start.steps events) (start.steps events') ∧
      (start.steps events').filterMap Step.outcome =
        [.command (.selectField .login), .command (.fillField .login "john.doe".toList),
          .command (.selectField .password), .command (.fillField .password "Hunter".toList),
          .command (.createFile "Main._Py".toList), .command .enterEdit, .edit .deleteWord] := by
  intro events events'
  have halike : List.Forall₂ SessionEvent.Alike events events' := by
    refine .cons (.heard rfl) <| .cons (.heard rfl) <| .cons (.heard rfl) <| .cons (.heard rfl) ?_
    refine .cons (.authenticated true) ?_
    exact .cons (.heard rfl) <| .cons (.heard rfl) <| .cons (.heard rfl) .nil
  exact ⟨halike, run_ignoresCase halike, by decide +kernel⟩

end Engine
end SpokenEditor
