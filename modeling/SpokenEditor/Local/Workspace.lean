import SpokenEditor.Files.Resolve
import SpokenEditor.Service.Error

/-!
# The workspace in memory

A project with its files, in the order of their creation, and the file that is open.

* `createFile_eq_ok_iff`: when a file is created, and what that leaves.
* `openFile_eq_ok_iff`: when a file is opened, and what that leaves.
-/

namespace SpokenEditor

/-- A project, its files and the file that is open. -/
structure Workspace where
  project : Option Text
  files : List Text
  selected : Option FileHandle
  deriving DecidableEq, Repr

namespace Workspace

/-- A workspace without a project. -/
def empty : Workspace :=
  ⟨none, [], none⟩

/-- A workspace with an open project. -/
def ofFiles (project : Text) (files : List Text) : Workspace :=
  ⟨some project, files, none⟩

/-- The name of a file, its path without the directories. -/
def fileName (path : Text) : Text :=
  Text.takeEndWhile (fun c => c != '/') path

/-- The files as the tree shows them: by name, and opened by path. -/
def candidates (w : Workspace) : List Candidate :=
  w.files.map fun path => ⟨fileName path, ⟨path⟩⟩

/-- Begin a project; it has no files and none is open. -/
def createProject (name : Text) (_ : Workspace) : Workspace :=
  ofFiles name []

/-- Add a file to the project. -/
def createFile (path : Text) (w : Workspace) : Except ServiceError Workspace :=
  if w.project.isNone then .error (.rejected "no project open".toList)
  else if path ∈ w.files then .error (.rejected ("file already exists: ".toList ++ path))
  else .ok { w with files := w.files ++ [path] }

/-- The refusal to work on a file that is not there. -/
def noSuchFile (file : FileHandle) : ServiceError :=
  .rejected ("no such file: ".toList ++ file.name)

/-- Open a file of the project. -/
def openFile (file : FileHandle) (w : Workspace) : Except ServiceError Workspace :=
  if file.name ∈ w.files then .ok { w with selected := some file } else .error (noSuchFile file)

/-- Save a file of the project. -/
def saveFile (file : FileHandle) (w : Workspace) : Except ServiceError Workspace :=
  if file.name ∈ w.files then .ok w else .error (noSuchFile file)

/-- A file is created in an open project without a file of that path, at the end. -/
theorem createFile_eq_ok_iff {path : Text} {w w' : Workspace} :
    w.createFile path = .ok w' ↔ w.project ≠ none ∧ path ∉ w.files ∧
      w' = { w with files := w.files ++ [path] } := by
  rw [createFile]
  split
  · next h => exact ⟨nofun, fun ⟨hp, _⟩ => absurd (Option.isNone_iff_eq_none.1 h) hp⟩
  · next h =>
    have hp : w.project ≠ none := fun e => h (Option.isNone_iff_eq_none.2 e)
    split
    · next h' => exact ⟨nofun, fun ⟨_, hn, _⟩ => absurd h' hn⟩
    · next h' => exact ⟨fun e => ⟨hp, h', (Except.ok.inj e).symm⟩, fun ⟨_, _, e⟩ => by rw [e]⟩

/-- A file is opened if the project has it. -/
theorem openFile_eq_ok_iff {file : FileHandle} {w w' : Workspace} :
    w.openFile file = .ok w' ↔ file.name ∈ w.files ∧ w' = { w with selected := some file } := by
  rw [openFile]
  split
  · next h => exact ⟨fun e => ⟨h, (Except.ok.inj e).symm⟩, fun ⟨_, e⟩ => by rw [e]⟩
  · next h => exact ⟨nofun, fun ⟨hm, _⟩ => absurd hm h⟩

end Workspace

end SpokenEditor
