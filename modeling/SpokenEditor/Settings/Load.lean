import SpokenEditor.Settings.Basic
import SpokenEditor.Store.Basic
import SpokenEditor.Store.Path
import SpokenEditor.Text.Utf8

/-!
# Loading settings

The settings file stands in the home directory; where it is missing it is made with the standard
settings. The log, if there is one, is opened before anything else is done.
-/

namespace SpokenEditor.Settings

variable {m : Type → Type} [Monad m] [FileStore m]

/-- The path of the settings file. -/
def path (home : Text) : Text :=
  Path.join home ".voice-ide.toml".toList

/-- The settings in a file. -/
def ofContents : Contents → Except SettingsError Settings
  | .file bytes =>
    match Text.decode bytes with
    | some t => parse t
    | none => .error .notRead
  | _ => .error .notRead

/-- Load the settings from the home directory. -/
def load (home : Option Text) : m (Except SettingsError Settings) :=
  match home with
  | none => pure (.error .noHome)
  | some home => do
    match ← FileStore.contents (path home) with
    | .missing =>
      let made ← FileStore.write (path home) (Text.encode standardText)
      if made then ofContents <$> FileStore.contents (path home)
      else pure (.error .notCreated)
    | found => pure (ofContents found)

/-- Open the log under a path with a first line; the directory that it stands in is made. -/
def openLogAt (path line : Text) : m (Except SettingsError Unit) := do
  let ready ←
    match Path.parent? path with
    | some directory => FileStore.makeDirectory directory
    | none => pure true
  if ready then
    let opened ← FileStore.append path (Text.encode line)
    pure (if opened then .ok () else .error .noLogFile)
  else pure (.error .noLogDirectory)

/-- Open the log, if there is one. -/
def openLog (home : Option Text) (line : Text) (s : LogSettings) : m (Except SettingsError Unit) :=
  if s.enabled then
    match Path.expand home s.path with
    | some path => openLogAt path line
    | none => pure (.error .noHome)
  else pure (.ok ())

end SpokenEditor.Settings
