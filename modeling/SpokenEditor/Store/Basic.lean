import SpokenEditor.Text.Basic

/-!
# File stores

What the program needs of a file system, as operations in a monad, so that it runs on the files of
a machine as well as on a file system in memory.
-/

namespace SpokenEditor

/-- What is found under a path. -/
inductive Contents where
  /-- There is nothing. -/
  | missing
  /-- What is there is no file that can be read. -/
  | unreadable
  | file (bytes : List UInt8)
  deriving DecidableEq, Repr

/-- A file system; an operation that changes it tells whether it succeeded. -/
class FileStore (m : Type → Type) where
  contents : Text → m Contents
  /-- Write a file, in place of what it held. -/
  write : Text → List UInt8 → m Bool
  /-- Make a directory and those above it, where they are missing. -/
  makeDirectory : Text → m Bool
  /-- Write at the end of a file, which is made if it is missing. -/
  append : Text → List UInt8 → m Bool

end SpokenEditor
