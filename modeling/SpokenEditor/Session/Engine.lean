import SpokenEditor.Command.FormPhrase
import SpokenEditor.Command.Grammar
import SpokenEditor.Dictation.Interpret
import SpokenEditor.Session.Mode
import SpokenEditor.Session.Watch
import SpokenEditor.Utterance

/-!
# The engine

Each utterance is answered according to the mode, and may change it. The engine holds the mode and
shows every change of it to observers. Apart from utterances only the authentication status changes
the mode.

* `indicator_send_iff`: a value is sent exactly when the mode changes.
* `respond_of_isEmpty`: an utterance of blanks changes nothing.
-/

namespace SpokenEditor

/-- What an utterance led to. -/
inductive Outcome where
  | command (c : Command)
  | edit (e : Edit)
  | ignored
  deriving DecidableEq, Repr

/-- The content of a field as it is taken from what was said. -/
def Field.capture (raw : Text) : Field → Text
  | login => cleanLogin raw
  | password => raw

namespace Mode

/-- What an utterance leads to in a mode, and the mode after it. -/
def respond (mode : Mode) (u : Utterance) : Outcome × Mode :=
  if u.isEmpty then (.ignored, mode)
  else
    match mode with
    | awaitingField =>
      match formCommand? u.normalized with
      | none => (.ignored, mode)
      | some (.selectField f) => (.command (.selectField f), capturing f)
      | some c => (.command c, mode)
    | capturing f => (.command (.fillField f (f.capture u.raw)), awaitingField)
    | commands =>
      match Grammar.spoken.parse u.raw with
      | .unrecognized => (.ignored, mode)
      | .enterEdit => (.command .enterEdit, dictation)
      | c => (.command c, mode)
    | dictation =>
      if u.normalized = "quit".toList then (.command .exitEdit, commands)
      else
        match interpret u.raw with
        | some e => (.edit e, mode)
        | none => (.ignored, mode)

/-- An utterance of blanks changes nothing. -/
theorem respond_of_isEmpty {mode : Mode} {u : Utterance} (h : u.isEmpty = true) :
    mode.respond u = (.ignored, mode) := by
  rw [respond.eq_def, if_pos h]

end Mode

/-- The mode, and the mode as observers see it. -/
structure Engine where
  mode : Mode
  indicator : Watch Mode
  deriving DecidableEq, Repr

namespace Engine

/-- The engine before login. -/
def start : Engine where
  mode := .awaitingField
  indicator := .ofValue .awaitingField

/-- The engine in the given mode; a change is shown to observers. -/
def goTo (next : Mode) (e : Engine) : Engine :=
  if e.mode = next then e else { mode := next, indicator := e.indicator.send next }

@[simp] theorem mode_goTo (next : Mode) (e : Engine) : (e.goTo next).mode = next := by
  rw [goTo]
  split <;> simp_all

/-- A value is sent exactly when the mode changes. -/
theorem indicator_send_iff (next : Mode) (e : Engine) :
    (e.goTo next).indicator.sent = e.indicator.sent + (if e.mode = next then 0 else 1) := by
  rw [goTo]
  split <;> simp

/-- The engine after the authentication status was reported. -/
def setAuthenticated (authenticated : Bool) (e : Engine) : Engine :=
  if e.mode.isAuthenticated = authenticated then e else e.goTo (.entry authenticated)

/-- What an utterance leads to, and the engine after it. -/
def handle (u : Utterance) (e : Engine) : Outcome × Engine :=
  let (outcome, next) := e.mode.respond u
  (outcome, e.goTo next)

end Engine

/-- What reaches a session from outside. -/
inductive SessionEvent where
  /-- A transcript from the recognizer. -/
  | heard (transcript : Text)
  /-- The authentication status. -/
  | authenticated (status : Bool)
  deriving DecidableEq, Repr

namespace Engine

/-- The outcome of an event, if it is a transcript, and the engine after it. -/
def step (e : Engine) : SessionEvent → Option Outcome × Engine
  | .heard t =>
    let (outcome, next) := e.handle (.ofText t)
    (some outcome, next)
  | .authenticated b => (none, e.setAuthenticated b)

/-- The engine after a run of events. -/
def run (e : Engine) (events : List SessionEvent) : Engine :=
  events.foldl (fun e ev => (e.step ev).2) e

end Engine

end SpokenEditor
