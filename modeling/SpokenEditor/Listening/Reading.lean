import SpokenEditor.Listening.Script

/-!
# Reading while listening

The lines of a byte stream are read by a thread of its own, while the listener already hears the
first of them.  `Recognizer.ofLines` says what is read in all; here every line is handed over by
itself, on a channel of the capacity that the settings ask for.

* **The reader.**  It hands one line after the other over and waits while the channel is full.  It
  ends behind the last line, or at the first line that is no text, and its end closes the channel.
* **The listener.**  Its recognizer has one session, and the lines come in while it is open.  If
  there is no channel of that capacity, the listener panics and the reader never runs.
* **Left out.**  The listener is not stopped, so the reader never finds its channel given up; and a
  line that is waited for and never comes.

`Moves` is one step of one of the two, and which of them steps is left open. -/

namespace SpokenEditor

/-- A listener and the reader of its lines. -/
structure Reading (β σ : Type) where
  listener : Listener β σ
  /-- The lines that were not handed over; none when the reader has ended. -/
  lines : Option (List (List UInt8))

namespace Reading

variable {β σ : Type}

/-- The listener before it begins its session, and nothing read. -/
def start (session : Session β σ) (bytes : List UInt8) (settings : SpeechSettings)
    (status : Bool) : Reading β σ :=
  ⟨.initial session (.ofLive 1 .exhausted) settings status, some (Text.byteLines bytes)⟩

variable [EditingSurface β] [Services σ]

/-- A step of the listener or of the reader. -/
inductive Moves : Reading β σ → Reading β σ → Prop
  | turn {l next : Listener β σ} {lines : Option (List (List UInt8))}
      (hturn : l.turn = some next) : Moves ⟨l, lines⟩ ⟨next, lines⟩
  | handOver {l next : Listener β σ} {line : List UInt8} {lines : List (List UInt8)} {t : Text}
      (hline : Text.decode line = some t) (hsend : l.send t = (.sent, next)) :
      Moves ⟨l, some (line :: lines)⟩ ⟨next, some lines⟩
  /-- A line is no text. -/
  | giveUp {l : Listener β σ} {channel : Channel} {line : List UInt8}
      {lines : List (List UInt8)} (hphase : l.phase = .listening channel)
      (hline : Text.decode line = none) : Moves ⟨l, some (line :: lines)⟩ ⟨l.endSession, none⟩
  | finish {l : Listener β σ} {channel : Channel} (hphase : l.phase = .listening channel) :
      Moves ⟨l, some []⟩ ⟨l.endSession, none⟩

end Reading

end SpokenEditor
