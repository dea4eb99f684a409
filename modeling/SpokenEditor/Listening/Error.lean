import SpokenEditor.Text.Basic

/-!
# Failures of recognition

Why a recognizer does not begin a session.
-/

namespace SpokenEditor

/-- The reason why no session begins. -/
inductive SpeechError where
  /-- The platform has no continuous recognition. -/
  | unsupported
  /-- The microphone or the recognizer was refused. -/
  | permissionDenied
  /-- There are no further sessions. -/
  | exhausted
  /-- The recognizer failed. -/
  | startFailed (reason : Text)
  deriving DecidableEq, Repr

/-- The wording of a failure. -/
def SpeechError.message : SpeechError → Text
  | unsupported => "continuous speech recognition is not supported".toList
  | permissionDenied => "speech recognition permission denied".toList
  | exhausted => "speech source exhausted".toList
  | startFailed reason => "failed to start recognition: ".toList ++ reason

end SpokenEditor
