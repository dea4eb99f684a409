import SpokenEditor.Buffer.Surface
import SpokenEditor.Local.LoginForm
import SpokenEditor.Local.Workspace
import SpokenEditor.Session.Basic

/-!
# Sessions in memory

The workspace and the login form together are services, so that a session over a text buffer needs
nothing from outside. The form's own status is what tells the session whether the user is logged
in.
-/

namespace SpokenEditor

/-- The services in memory. -/
structure Desk where
  workspace : Workspace
  form : LoginForm
  deriving DecidableEq, Repr

namespace Desk

/-- The desk with the workspace that a call leaves, or the failure of the call. -/
def withWorkspace (d : Desk) : Except ServiceError Workspace → Reply × Desk
  | .ok w => (.done, { d with workspace := w })
  | .error e => (.failed e, d)

/-- The desk with the form that a call leaves, or the failure of the call. -/
def withForm (d : Desk) : Except ServiceError LoginForm → Reply × Desk
  | .ok f => (.done, { d with form := f })
  | .error e => (.failed e, d)

/-- Carry out a call. Running code is only noted. -/
def perform (c : Call) (d : Desk) : Reply × Desk :=
  match c with
  | .createProject name => d.withWorkspace (.ok (d.workspace.createProject name))
  | .createFile path => d.withWorkspace (d.workspace.createFile path)
  | .openFile file => d.withWorkspace (d.workspace.openFile file)
  | .saveFile file => d.withWorkspace (d.workspace.saveFile file)
  | .selectField f => d.withForm (.ok (d.form.select f))
  | .fillField f value => d.withForm (.ok (d.form.fill f value))
  | .setLoginMode login => d.withForm (.ok (d.form.setLoginMode login))
  | .submitLogin => d.withForm d.form.submit
  | .logOut => d.withForm (.ok d.form.logOut)
  | .run => (.done, d)

end Desk

instance : Services Desk where
  candidates d := d.workspace.candidates
  currentFile d := d.workspace.selected
  perform := Desk.perform

/-- A session over a buffer and the services in memory. -/
abbrev LocalSession := Session Buffer Desk

namespace LocalSession

/-- The session before login over the given text and workspace. -/
def start (text : Text) (workspace : Workspace) (threshold : Binary64) : LocalSession :=
  Session.start (.start (.ofText text) ⟨workspace, .blank⟩ threshold)

variable {β : Type}

/-- The services of a session, whatever surface it edits. -/
def desk (s : Session β Desk) : Desk :=
  s.dispatcher.worker.services

/-- The session once the form's own status is reported to it. -/
def syncStatus (s : Session β Desk) : Session β Desk :=
  s.setAuthenticated (desk s).form.status.value

variable [EditingSurface β]

/-- The session after a transcript was carried out and the form's status reported. -/
def say (s : Session β Desk) (transcript : Text) : Session β Desk :=
  syncStatus (s.hear transcript).2

/-- The session after the transcripts, one after the other. -/
def sayAll (s : Session β Desk) (transcripts : List Text) : Session β Desk :=
  transcripts.foldl say s

end LocalSession

end SpokenEditor
