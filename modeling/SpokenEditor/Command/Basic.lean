import SpokenEditor.Text.Basic

/-!
# Commands

What a spoken phrase can ask the application to do, apart from typing text. Before login these are
the four commands of the login form; afterwards the commands that follow a wake word.
-/

namespace SpokenEditor

/-- A field of the login form. -/
inductive Field where
  | login
  | password
  deriving DecidableEq, Repr

/-- The field's name. -/
def Field.toText : Field → Text
  | login => "login".toList
  | password => "password".toList

/-- A command recognized in speech. -/
inductive Command where
  /-- The next phrase is the content of this field. -/
  | selectField (field : Field)
  /-- The content of a field. -/
  | fillField (field : Field) (value : Text)
  /-- Show the form for login, or else the one for creating an account. -/
  | switchForm (login : Bool)
  | submitForm
  | createProject (name : Text)
  | createFile (path : Text)
  | enterEdit
  | exitEdit
  | runCode
  /-- Open the file whose name is most like the query. -/
  | openFile (query : Text)
  | saveFile
  | logOut
  /-- No form of command matches. -/
  | unrecognized
  deriving DecidableEq, Repr

/-- Whether the command is one of the login form. -/
def Command.isForm : Command → Bool
  | selectField _ | fillField _ _ | switchForm _ | submitForm => true
  | _ => false

/-- Whether a form of command matched. -/
def Command.isRecognized : Command → Bool
  | unrecognized => false
  | _ => true

theorem Command.isRecognized_iff {c : Command} : c.isRecognized = true ↔ c ≠ unrecognized := by
  cases c <;> simp [isRecognized]

end SpokenEditor
