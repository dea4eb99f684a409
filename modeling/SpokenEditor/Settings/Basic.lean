import SpokenEditor.Files.Resolve
import SpokenEditor.Listening.Settings
import SpokenEditor.Number.Shortest
import SpokenEditor.Toml.Document

/-!
# Settings

The settings are read from a file with a section for each of their parts. A missing section has its
standard values; a section that is there has to have all its fields. Other keys are ignored. A
section may also be written as an array, which lists its fields in order.

* `check_eq_ok_iff`: which settings are accepted.
-/

namespace SpokenEditor

/-- Whether there is a log, and where. -/
structure LogSettings where
  enabled : Bool
  path : Text
  deriving DecidableEq, Repr

/-- The settings. -/
structure Settings where
  /-- The score above which a file counts as meant. -/
  threshold : Binary64
  speech : SpeechSettings
  log : LogSettings
  deriving DecidableEq, Repr

/-- Why there are no settings, or no log. -/
inductive SettingsError where
  /-- No home directory is known. -/
  | noHome
  /-- The settings file was missing and could not be made. -/
  | notCreated
  | notRead
  /-- The settings file does not hold settings. -/
  | malformed
  | thresholdOutOfRange (threshold : Binary64)
  | noCapacity
  | noLogDirectory
  | noLogFile
  deriving DecidableEq, Repr

/-- The wording of an error. -/
def SettingsError.message : SettingsError → Text
  | noHome => "HOME environment variable not set".toList
  | notCreated => "failed to create default config".toList
  | notRead => "failed to read config file".toList
  | malformed => "failed to parse config TOML".toList
  | thresholdOutOfRange threshold =>
    "resolver.threshold must be within 0.0..=1.0, got ".toList ++ threshold.toText
  | noCapacity => "speech.channel_capacity must be > 0".toList
  | noLogDirectory => "failed to create log directory".toList
  | noLogFile => "failed to open log file".toList

namespace LogSettings

/-- No log. -/
def standard : LogSettings :=
  ⟨false, "~/.voice-ide/voice-ide.log".toList⟩

end LogSettings

namespace Settings

/-- The standard settings. -/
def standard : Settings :=
  ⟨defaultThreshold, .standard, .standard⟩

/-- The settings file that is made where there is none. -/
def standardText : Text :=
  "[resolver]
threshold = 0.5

[speech]
auto_restart = true
max_restarts = 0
channel_capacity = 32

[telemetry]
enabled = false
log_path = \"~/.voice-ide/voice-ide.log\"
".toList

end Settings

/-! ### Fields -/

namespace Toml.Value

/-- The value as a number; a whole number is one if it fits a word of 64 bits. -/
def number? : Value → Option Binary64
  | float x => some x
  | integer n => if -(Nat.pow 2 63 : Int) ≤ n ∧ n < Nat.pow 2 64 then some (.ofInt n) else none
  | _ => none

/-- The value as a whole number below a bound. -/
def below? (bound : Nat) : Value → Option Nat
  | integer n => if 0 ≤ n ∧ n < bound then some n.toNat else none
  | _ => none

/-- The value as a truth value. -/
def boolean? : Value → Option Bool
  | boolean b => some b
  | _ => none

/-- The value as a text. -/
def text? : Value → Option Text
  | text t => some t
  | _ => none

/-- The values of a section's fields, in the order of the names. -/
def fields? (names : List Text) : Value → Option (List Value)
  | table _ es =>
    let others := es.filter fun e => !names.contains e.1
    if entriesAreReadable others then names.mapM fun n => es.lookup n else none
  | array vs => if names.length ≤ vs.length then some (vs.take names.length) else none
  | _ => none

end Toml.Value

namespace Settings

/-- The names of the sections. -/
def sectionNames : List Text :=
  ["resolver".toList, "speech".toList, "telemetry".toList]

/-- The threshold in a section. -/
def threshold? (v : Toml.Value) : Option Binary64 :=
  match v.fields? ["threshold".toList] with
  | some [t] => t.number?
  | _ => none

/-- The settings of listening in a section. -/
def speech? (v : Toml.Value) : Option SpeechSettings :=
  match v.fields? ["auto_restart".toList, "max_restarts".toList, "channel_capacity".toList] with
  | some [restart, restarts, capacity] =>
    restart.boolean?.bind fun restart =>
      (restarts.below? UInt32.size).bind fun restarts =>
        (capacity.below? UInt64.size).map fun capacity => ⟨restart, .ofNat restarts, capacity⟩
  | _ => none

/-- The settings of the log in a section. -/
def log? (v : Toml.Value) : Option LogSettings :=
  match v.fields? ["enabled".toList, "log_path".toList] with
  | some [enabled, path] => enabled.boolean?.bind fun enabled => path.text?.map (⟨enabled, ·⟩)
  | _ => none

/-- What `read` finds in a section, or the standard where there is no such section. -/
def sectionOr {α : Type} (standard : α) (read : Toml.Value → Option α) (name : Text)
    (es : Toml.Entries) : Option α :=
  match es.lookup name with
  | some v => read v
  | none => some standard

/-- The settings in the table of a document. -/
def ofEntries? (es : Toml.Entries) : Option Settings :=
  if Toml.entriesAreReadable (es.filter fun e => !sectionNames.contains e.1) then
    (sectionOr standard.threshold threshold? "resolver".toList es).bind fun threshold =>
      (sectionOr standard.speech speech? "speech".toList es).bind fun speech =>
        (sectionOr standard.log log? "telemetry".toList es).map fun log =>
          ⟨threshold, speech, log⟩
  else none

/-- The settings, if they are acceptable. -/
def check (s : Settings) : Except SettingsError Settings :=
  if s.threshold.inUnitInterval = false then .error (.thresholdOutOfRange s.threshold)
  else if s.speech.channelCapacity = 0 then .error .noCapacity
  else .ok s

/-- The settings that a text spells. -/
def parse (t : Text) : Except SettingsError Settings :=
  match (Toml.parse t).bind ofEntries? with
  | some s => s.check
  | none => .error .malformed

/-- Settings are accepted if the threshold lies between zero and one and transcripts may wait. -/
theorem check_eq_ok_iff {s s' : Settings} :
    s.check = .ok s' ↔
      s.threshold.inUnitInterval = true ∧ s.speech.channelCapacity ≠ 0 ∧ s' = s := by
  rw [check]
  split
  · next h => exact ⟨nofun, fun ⟨ht, _⟩ => absurd (h.symm.trans ht) nofun⟩
  · next h =>
    rw [Bool.not_eq_false] at h
    split
    · next hc => exact ⟨nofun, fun ⟨_, hn, _⟩ => absurd hc hn⟩
    · next hc => exact ⟨fun e => ⟨h, hc, (Except.ok.inj e).symm⟩, fun ⟨_, _, e⟩ => by rw [e]⟩

end Settings

end SpokenEditor
