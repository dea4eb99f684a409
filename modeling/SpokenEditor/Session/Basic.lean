import SpokenEditor.Session.Dispatcher

/-!
# Sessions

A session is an engine together with a dispatcher that carries out what the engine answers.

* `run_append`: a run of events can be cut anywhere.
-/

namespace SpokenEditor

/-- An engine with a dispatcher. -/
structure Session (β σ : Type) where
  engine : Engine
  dispatcher : Dispatcher β σ

namespace Session

variable {β σ : Type}

/-- A session before login. -/
def start (d : Dispatcher β σ) : Session β σ :=
  ⟨.start, d⟩

/-- The session after the authentication status was reported. -/
def setAuthenticated (authenticated : Bool) (s : Session β σ) : Session β σ :=
  { s with engine := s.engine.setAuthenticated authenticated }

variable [EditingSurface β] [Services σ]

/-- What a transcript leads to, and the session after it was carried out. -/
def hear (transcript : Text) (s : Session β σ) : Outcome × Session β σ :=
  let (outcome, engine) := s.engine.handle (.ofText transcript)
  (outcome, ⟨engine, s.dispatcher.dispatch outcome⟩)

/-- The outcome of an event, if it is a transcript, and the session after it. -/
def step (s : Session β σ) : SessionEvent → Option Outcome × Session β σ
  | .heard t =>
    let (outcome, next) := s.hear t
    (some outcome, next)
  | .authenticated b => (none, s.setAuthenticated b)

/-- The session after a run of events. -/
def run (s : Session β σ) (events : List SessionEvent) : Session β σ :=
  events.foldl (fun s e => (s.step e).2) s

/-- A run of events can be cut anywhere. -/
theorem run_append (s : Session β σ) (es fs : List SessionEvent) :
    s.run (es ++ fs) = (s.run es).run fs :=
  List.foldl_append

/-- The engine of a session does not depend on the collaborators. -/
theorem engine_run : ∀ (events : List SessionEvent) (s : Session β σ),
    (s.run events).engine = s.engine.run events
  | [], _ => rfl
  | .heard _ :: events, _ => engine_run events _
  | .authenticated _ :: events, _ => engine_run events _

end Session

end SpokenEditor
