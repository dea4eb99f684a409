import SpokenEditor.Command.Basic

/-!
# Modes

A voice session is in one of four modes, two of them before login and two after it.
-/

namespace SpokenEditor

/-- What the next phrase will be taken for. -/
inductive Mode where
  /-- Before login: a phrase of the login form. -/
  | awaitingField
  /-- Before login: the content of the field. -/
  | capturing (field : Field)
  /-- After login: a command. -/
  | commands
  /-- After login: text to type. -/
  | dictation
  deriving DecidableEq, Repr

namespace Mode

/-- Whether the mode is one of those after login. -/
def isAuthenticated : Mode → Bool
  | commands | dictation => true
  | awaitingField | capturing _ => false

/-- The mode in which each half of a session begins. -/
def entry (authenticated : Bool) : Mode :=
  if authenticated then commands else awaitingField

@[simp] theorem isAuthenticated_entry (b : Bool) : (entry b).isAuthenticated = b := by
  cases b <;> rfl

/-- The mode's name. -/
def toText : Mode → Text
  | awaitingField => "AwaitingField".toList
  | capturing field => "CapturingField(".toList ++ field.toText ++ [')']
  | commands => "CommandMode".toList
  | dictation => "DictationMode".toList

end Mode

end SpokenEditor
