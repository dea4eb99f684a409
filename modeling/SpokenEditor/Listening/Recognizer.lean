import SpokenEditor.Listening.Channel
import SpokenEditor.Listening.Error
import SpokenEditor.Listening.Lines

/-!
# Recognizers

A recognizer begins recognition sessions on demand, one after the other, and each session hands its
transcripts over on a channel. When its sessions are used up, it fails to begin another, with the
same error each time. It panics when it is asked for a larger channel than there may be.

* `Source.channel?_eq`: a session begins exactly if the places that it asks for are not too many.
* `start_of_nil`: a recognizer without sessions stays without sessions.
-/

namespace SpokenEditor

/-- Where the transcripts of a session come from. -/
inductive Source where
  /-- All of them are there when the session begins, on a channel with places for them. -/
  | recorded (transcripts : List Text)
  /-- A reader hands them over while the session is open. It waits for a place, so nothing is said
  of when each of them comes: they are taken to be there when the session begins. -/
  | lines (transcripts : List Text)
  /-- They are sent while the session is open. -/
  | live
  deriving DecidableEq, Repr

namespace Source

/-- The channel of a session that begins; the capacity is what the listener asks for. The session
does not begin when one of its recorded transcripts is refused. If there is no channel of that
capacity, asking for it is a panic. -/
def channel? (capacity : Nat) : Source → Option (Except SpeechError Channel)
  | recorded transcripts =>
    (Channel.recorded? transcripts capacity).map fun (delivery, channel) =>
      match delivery.refusal? with
      | none => .ok channel
      | some reason => .error (.startFailed reason)
  | lines transcripts =>
    (Channel.ofCapacity? capacity).map fun channel =>
      .ok { channel with unread := transcripts, isOpen := false }
  | live => (Channel.ofCapacity? capacity).map .ok

/-- The transcripts that are there when the session begins. -/
def transcripts : Source → List Text
  | recorded ts | lines ts => ts
  | live => []

/-- Whether more transcripts may come while the session is open. -/
def isLive : Source → Bool
  | recorded _ | lines _ => false
  | live => true

/-- How many places the session asks for. -/
def places (capacity : Nat) : Source → Nat
  | recorded ts => max (max 1 capacity) ts.length
  | lines _ | live => max 1 capacity

/-- No recorded transcript is refused: a session begins exactly if the places that it asks for are
not too many. -/
theorem channel?_eq (capacity : Nat) (s : Source) :
    s.channel? capacity =
      if s.places capacity ≤ Channel.maxCapacity then
        some (.ok ⟨s.transcripts, s.places capacity, s.isLive⟩)
      else none := by
  cases s with
  | recorded ts =>
    rw [channel?, Channel.recorded?_eq, places]
    split <;> rfl
  | lines ts =>
    rw [channel?, Channel.ofCapacity?, Channel.open?_of_pos (Nat.le_max_left 1 capacity), places]
    split <;> rfl
  | live =>
    rw [channel?, Channel.ofCapacity?, Channel.open?_of_pos (Nat.le_max_left 1 capacity), places]
    split <;> rfl

/-- A bound on the turns that a listener spends on sessions. -/
def turns : List Source → Nat
  | [] => 0
  | s :: rest => s.transcripts.length + 2 + turns rest

end Source

/-- A recognizer. -/
structure Recognizer where
  /-- The sessions that are left. -/
  sessions : List Source
  /-- The reason why none begins after them. -/
  ending : SpeechError
  deriving DecidableEq, Repr

namespace Recognizer

/-- A recognizer that replays sessions. -/
def replaying (sessions : List (List Text)) (ending : SpeechError) : Recognizer :=
  ⟨sessions.map .recorded, ending⟩

/-- A recognizer with one session, the lines of a byte stream. -/
def ofLines (bytes : List UInt8) : Recognizer :=
  ⟨[.lines (Text.textLines bytes)], .exhausted⟩

/-- A recognizer with so many live sessions. -/
def ofLive (sessions : Nat) (ending : SpeechError) : Recognizer :=
  ⟨List.replicate sessions .live, ending⟩

/-- Begin a session, or panic. -/
def start (capacity : Nat) (r : Recognizer) : Option (Except SpeechError Channel) × Recognizer :=
  match r.sessions with
  | [] => (some (.error r.ending), r)
  | s :: rest => (s.channel? capacity, { r with sessions := rest })

/-- A recognizer without sessions stays without sessions. -/
theorem start_of_nil {r : Recognizer} (h : r.sessions = []) (capacity : Nat) :
    r.start capacity = (some (.error r.ending), r) := by
  rw [start, h]

/-- What is received when a session is begun `n` times and all its transcripts are read, unless the
recognizer panics. -/
def receive? (capacity : Nat) :
    Nat → Recognizer → Option (List (Except SpeechError (List Text)))
  | 0, _ => some []
  | n + 1, r =>
    match r.start capacity with
    | (none, _) => none
    | (some begun, rest) => (receive? capacity n rest).map (begun.map Channel.unread :: ·)

end Recognizer

end SpokenEditor
