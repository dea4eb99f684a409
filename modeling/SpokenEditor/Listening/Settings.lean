/-!
# Settings of listening

Whether recognition goes on with another session when one ends, how often it may, and how many
transcripts may wait to be read.
-/

namespace SpokenEditor

/-- The settings of listening. -/
structure SpeechSettings where
  /-- Whether another session follows one that ended. -/
  autoRestart : Bool
  /-- How many sessions may follow the first; zero for no limit. -/
  maxRestarts : UInt32
  /-- How many transcripts may be unread. -/
  channelCapacity : Nat
  deriving DecidableEq, Repr

namespace SpeechSettings

/-- Recognition without an end and room for 32 transcripts. -/
def standard : SpeechSettings :=
  ⟨true, 0, 32⟩

/-- Whether another session may follow after so many restarts. -/
def mayRestart (restarts : UInt32) (s : SpeechSettings) : Bool :=
  s.autoRestart && !(0 < s.maxRestarts && s.maxRestarts ≤ restarts)

end SpeechSettings

end SpokenEditor
