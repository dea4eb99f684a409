import SpokenEditor.Buffer.Position
import SpokenEditor.Command.Basic
import SpokenEditor.Dictation.Edit
import SpokenEditor.Files.Resolve
import SpokenEditor.Service.Error

/-!
# Collaborators

A session works on two collaborators. The editing surface holds the text. The services know the
files shown and the file that is open, and carry out calls, one at a time, each with a reply. Both
are types with operations, so a session runs over any of them.
-/

namespace SpokenEditor

/-- A call to the services. -/
inductive Call where
  | createProject (name : Text)
  | createFile (path : Text)
  | openFile (file : FileHandle)
  | saveFile (file : FileHandle)
  | selectField (field : Field)
  | fillField (field : Field) (value : Text)
  | setLoginMode (login : Bool)
  | submitLogin
  | logOut
  | run
  deriving DecidableEq, Repr

/-- What a call asks for, its arguments aside. -/
inductive Method where
  | createProject
  | createFile
  | openFile
  | saveFile
  | selectField
  | fillField
  | setLoginMode
  | submitLogin
  | logOut
  | run
  deriving DecidableEq, Repr

/-- The method of a call. -/
def Call.method : Call → Method
  | createProject _ => .createProject
  | createFile _ => .createFile
  | openFile _ => .openFile
  | saveFile _ => .saveFile
  | selectField _ => .selectField
  | fillField _ _ => .fillField
  | setLoginMode _ => .setLoginMode
  | submitLogin => .submitLogin
  | logOut => .logOut
  | run => .run

/-- Whether the call works on the login form. -/
def Call.isForm : Call → Bool
  | selectField _ | fillField _ _ | setLoginMode _ | submitLogin => true
  | _ => false

/-- How a call ends. -/
inductive Reply where
  | done
  | failed (error : ServiceError)
  /-- The service broke down in the middle of the call. -/
  | broken
  deriving DecidableEq, Repr

/-- A place where text is edited. -/
class EditingSurface (β : Type) where
  cursor : β → Position
  applyEdit : Position → Edit → β → β
  focus : β → β

/-- The files and the services behind the calls. -/
class Services (σ : Type) where
  /-- The files shown, in order. -/
  candidates : σ → List Candidate
  /-- The file that is open. -/
  currentFile : σ → Option FileHandle
  /-- Carry out a call. -/
  perform : Call → σ → Reply × σ

end SpokenEditor
