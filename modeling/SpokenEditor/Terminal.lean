import SpokenEditor.Listening.Script
import SpokenEditor.Local.Desk
import SpokenEditor.Settings.Load
import SpokenEditor.Text.Quoted

/-!
# The terminal

The program on a terminal: every line of the input is a transcript for a session over an empty
buffer and the services in memory. Before it listens it loads the settings, opens the log and greets
the speaker; it does not listen if the settings are wrong. At the end it shows the text, the mode and
the files of the project, unless the listener panicked: settings that ask for a larger channel than
there may be are loaded all the same.
-/

namespace SpokenEditor.Terminal

/-! ### Before listening -/

/-- The line printed when the settings are loaded. -/
def loaded : Text :=
  "✓ Config loaded from ~/.voice-ide.toml".toList

/-- The lines printed before the program listens. -/
def greeting : List Text :=
  ["".toList,
    "Voice IDE is listening. Enter one transcript per line.".toList,
    "Press Ctrl+D to end the session or Ctrl+C to exit.".toList,
    "".toList]

/-- The line printed as an error when the settings cannot be used. -/
def errorLine (e : SettingsError) : Text :=
  "Error: ".toList ++ e.message

/-- The first line of the log. -/
def logLine : Text :=
  "listening\n".toList

/-- Load the settings, open the log and greet: the lines printed meanwhile, and the settings. -/
def prepare {m : Type → Type} [Monad m] [FileStore m] (home : Option Text) :
    m (List Text × Except SettingsError Settings) := do
  match ← Settings.load home with
  | .error e => pure ([], .error e)
  | .ok s =>
    match ← Settings.openLog home logLine s.log with
    | .error e => pure ([loaded], .error e)
    | .ok () => pure (loaded :: greeting, .ok s)

/-! ### Listening -/

/-- The listener of the program, over one live session. -/
abbrev Host := Listener Buffer Desk

/-- The program when it begins to listen. -/
def start (s : Settings) : Host :=
  .start (LocalSession.start [] .empty s.threshold) (.ofLive 1 .exhausted) s.speech false

/-- The program after a line of input: the transcript is handled, and then the status that the login
form has is reported. -/
def say (h : Host) (transcript : Text) : Host :=
  let h := (h.batch [.send transcript]).2
  (h.batch [.report (LocalSession.desk h.session).form.status.value]).2

/-- The program after the lines of the input. -/
def sayAll (h : Host) (bytes : List UInt8) : Host :=
  (Text.textLines bytes).foldl say h

/-- The line printed when the mode has changed. -/
def modeLine (h : Host) : Text :=
  "[mode] ".toList ++ h.session.engine.mode.toText

/-! ### After listening -/

/-- The line printed about the project, if there is one. -/
def projectLine (w : Workspace) : List Text :=
  match w.project with
  | none => []
  | some name =>
    ["--- project ".toList ++ name ++ ": ".toList ++ Text.quotedList w.files ++ " ---".toList]

/-- The lines printed at the end about the session. -/
def block (s : LocalSession) : List Text :=
  ["".toList, "--- buffer ---".toList]
    ++ Text.lines s.dispatcher.surface.text
    ++ ["--- mode: ".toList ++ s.engine.mode.toText ++ " ---".toList]
    ++ projectLine (LocalSession.desk s).workspace

/-- The lines printed as errors when the listener panicked, below the empty line with which the
report of the panic begins. -/
def panicLines : List Text :=
  ["".toList, "Error: speech subscription failed".toList]

/-- The lines printed when the input has ended: about the session that the listener gives back, or as
errors if it gives none back. -/
def closing (h : Host) : Except (List Text) (List Text) :=
  match (h.batch [.endSession]).2.join? with
  | some s => .ok (block s)
  | none => .error panicLines

end SpokenEditor.Terminal
