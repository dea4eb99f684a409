import SpokenEditor.Listening.Listener

/-!
# Scripts

What happens around a listener comes in batches. The actions of a batch happen while the listener
waits, and then it runs until it waits again. A script is a list of batches.

* `run_append`: a script can be cut anywhere.
* `accepted_append`: what the channels took is counted batch by batch.
-/

namespace SpokenEditor

/-- Something that happens while the listener waits. -/
inductive Action where
  /-- A transcript is sent. -/
  | send (transcript : Text)
  /-- The authentication status is reported. -/
  | report (status : Bool)
  /-- The recognition session ends. -/
  | endSession
  /-- No further status will be reported. -/
  | closeAuth
  /-- The listener is told to stop. -/
  | stop
  /-- The listener is given up. -/
  | drop
  deriving DecidableEq, Repr

/-- How an action ends. -/
inductive Reaction where
  | delivery (d : Delivery)
  /-- The status is on its way. -/
  | reported
  /-- The feed of the status is closed. -/
  | unreported
  | ended
  | authClosed
  | stopped
  | dropped
  deriving DecidableEq, Repr

namespace Listener

variable {β σ : Type}

/-- Send a transcript on the channel, if there is one. -/
def send (t : Text) (l : Listener β σ) : Delivery × Listener β σ :=
  match l.phase with
  | .listening channel =>
    let (delivery, next) := channel.send t
    (delivery, { l with phase := .listening next })
  | _ => (.closed, l)

/-- End the recognition session, if there is one. -/
def endSession (l : Listener β σ) : Listener β σ :=
  match l.phase with
  | .listening channel => { l with phase := .listening channel.close }
  | _ => l

/-- Ask the listener to do something; a listener that was given up stays so. -/
def ask (c : Control) (l : Listener β σ) : Listener β σ :=
  match l.control with
  | .dropped => l
  | _ => { l with control := c }

/-- Let an action happen. -/
def act (a : Action) (l : Listener β σ) : Reaction × Listener β σ :=
  match a with
  | .send t =>
    let (delivery, next) := l.send t
    (.delivery delivery, next)
  | .report status =>
    (if l.auth.isOpen then .reported else .unreported, { l with auth := l.auth.report status })
  | .endSession => (.ended, l.endSession)
  | .closeAuth => (.authClosed, { l with auth := l.auth.close })
  | .stop => (.stopped, l.ask .stopped)
  | .drop => (.dropped, l.ask .dropped)

/-- Let actions happen, one after the other. -/
def actAll : List Action → Listener β σ → List Reaction × Listener β σ
  | [], l => ([], l)
  | a :: rest, l =>
    let (reaction, l) := l.act a
    let (reactions, l) := actAll rest l
    (reaction :: reactions, l)

variable [EditingSurface β] [Services σ]

/-- Let the actions of a batch happen, and then run the listener. -/
def batch (actions : List Action) (l : Listener β σ) : List Reaction × Listener β σ :=
  let (reactions, l) := l.actAll actions
  (reactions, l.settle)

/-- The listener after the batches of a script. -/
def run (script : List (List Action)) (l : Listener β σ) : Listener β σ :=
  script.foldl (fun l actions => (l.batch actions).2) l

/-- A script can be cut anywhere. -/
theorem run_append (ss ts : List (List Action)) (l : Listener β σ) :
    l.run (ss ++ ts) = (l.run ss).run ts :=
  List.foldl_append

/-- The transcripts that the channels took in the course of a script. -/
def accepted : List (List Action) → Listener β σ → List Text
  | [], _ => []
  | actions :: script, l =>
    taken actions (l.batch actions).1 ++ accepted script (l.batch actions).2
where
  /-- The transcripts that were sent and taken. -/
  taken : List Action → List Reaction → List Text
    | .send t :: actions, .delivery .sent :: reactions => t :: taken actions reactions
    | _ :: actions, _ :: reactions => taken actions reactions
    | _, _ => []

/-- What the channels took is counted batch by batch. -/
theorem accepted_append : ∀ (ss ts : List (List Action)) (l : Listener β σ),
    l.accepted (ss ++ ts) = l.accepted ss ++ (l.run ss).accepted ts
  | [], _, _ => rfl
  | actions :: ss, ts, l => by
    rw [List.cons_append, accepted, accepted, accepted_append ss ts, List.append_assoc]
    rfl

/-- The listener at the end of a script: the session ends and the listener is told to stop. -/
def close (l : Listener β σ) : Listener β σ :=
  (l.batch [.endSession, .stop]).2

end Listener

end SpokenEditor
