import SpokenEditor.Store.Basic
import SpokenEditor.Store.Path
import SpokenEditor.Text.Utf8

/-!
# A file system in memory

A file system is a list of entries, each with its name and the directory that it stands in. A place
is given by a number: the root is zero, and the entry at an index is one more than the index. A step
upwards leads out of the directory reached so far, so it is taken only where the steps before it
lead to a directory.

* `node?_add_last`: what is added to a directory stands at the place after all others.
-/

namespace SpokenEditor

/-- The number of a place in the file system. -/
abbrev Place := Nat

/-- What may stand at a place. -/
inductive Node where
  | directory
  | file (bytes : List UInt8)
  deriving DecidableEq, Repr

/-- What stands in a directory under a name. -/
structure DirectoryEntry where
  parent : Place
  name : Text
  node : Node
  deriving DecidableEq, Repr

/-- A file system with a working directory. -/
structure Disk where
  working : Place
  entries : List DirectoryEntry
  deriving Repr

/-- Where a path leads: to what is there, or to a name in a directory that has no such entry. -/
inductive Spot where
  | taken (p : Place)
  | free (directory : Place) (name : Text)
  deriving DecidableEq, Repr

namespace Disk

/-- A file system without entries. -/
def empty : Disk :=
  ⟨0, []⟩

/-- What stands at a place; the root is a directory. -/
def node? (d : Disk) : Place → Option Node
  | 0 => some .directory
  | i + 1 => (d.entries[i]?).map (·.node)

/-- Whether a directory stands at the place. -/
def hasDirectory (d : Disk) (p : Place) : Bool :=
  d.node? p == some .directory

/-- The directory in which the place stands; the root stands in itself. -/
def above (d : Disk) : Place → Place
  | 0 => 0
  | i + 1 => ((d.entries[i]?).map (·.parent)).getD 0

/-- The place with the name in a directory. -/
def child? (d : Disk) (directory : Place) (name : Text) : Option Place :=
  (d.entries.findIdx? fun e => e.parent == directory && e.name == name).map (· + 1)

/-- Add an entry to a directory. -/
def add (d : Disk) (directory : Place) (name : Text) (n : Node) : Disk :=
  { d with entries := d.entries ++ [⟨directory, name, n⟩] }

/-- What is added to a directory stands at the place after all others. -/
theorem node?_add_last (d : Disk) (p : Place) (s : Text) (n : Node) :
    (d.add p s n).node? (d.entries.length + 1) = some n := by
  simp [node?, add]

/-- Put something else at a place. -/
def replace (d : Disk) (n : Node) : Place → Disk
  | 0 => d
  | i + 1 => { d with entries := d.entries.modify i fun e => { e with node := n } }

/-- A name that the file system takes: at most 255 bytes, none of them zero. -/
def isName (s : Text) : Bool :=
  !s.contains '\x00' && (Text.encode s).length ≤ 255

/-- Where a step leads, if it starts in a directory. -/
def step (d : Disk) (s : Text) : Spot → Option Spot
  | .free _ _ => none
  | .taken p =>
    if d.hasDirectory p && isName s then
      if s = ['.', '.'] then some (.taken (d.above p))
      else
        match d.child? p s with
        | some q => some (.taken q)
        | none => some (.free p s)
    else none

/-- The place where a path begins. -/
def origin (d : Disk) (p : Text) : Place :=
  if Path.isAbsolute p then 0 else d.working

/-- Where a path leads. -/
def locate (p : Text) (d : Disk) : Option Spot :=
  if Path.fits p then
    (Path.steps p).foldlM (fun spot s => d.step s spot) (.taken (d.origin p))
  else none

/-- What is found under a path. -/
def contents (p : Text) (d : Disk) : Contents :=
  match d.locate p with
  | some (.taken q) =>
    match d.node? q with
    | some (.file bytes) => if Path.meansDirectory p then .missing else .file bytes
    | some .directory => .unreadable
    | none => .missing
  | _ => .missing

/-- Change the file under a path; `f` tells its bytes from those before. -/
def change (p : Text) (f : List UInt8 → List UInt8) (d : Disk) : Bool × Disk :=
  if Path.meansDirectory p then (false, d)
  else
    match d.locate p with
    | some (.free directory name) => (true, d.add directory name (.file (f [])))
    | some (.taken q) =>
      match d.node? q with
      | some (.file bytes) => (true, d.replace (.file (f bytes)) q)
      | _ => (false, d)
    | none => (false, d)

/-- Take the steps from a place, making directories where there is nothing. -/
def makeSteps : List Text → Place → Disk → Bool × Disk
  | [], p, d => (d.hasDirectory p, d)
  | s :: rest, p, d =>
    match d.step s (.taken p) with
    | some (.taken q) => makeSteps rest q d
    | some (.free directory name) =>
      makeSteps rest (d.entries.length + 1) (d.add directory name .directory)
    | none => (false, d)

/-- Make the directory under a path and those above it. -/
def makeDirectory (p : Text) (d : Disk) : Bool × Disk :=
  if Path.fits p then makeSteps (Path.steps p) (d.origin p) d else (false, d)

/-- A file system with the directory, which is the working directory. -/
def withHome (home : Text) : Disk :=
  let d := (empty.makeDirectory home).2
  match d.locate home with
  | some (.taken p) => { d with working := p }
  | _ => d

end Disk

instance : FileStore (StateM Disk) where
  contents p := fun d => (d.contents p, d)
  write p bytes := fun d => d.change p fun _ => bytes
  makeDirectory p := fun d => d.makeDirectory p
  append p bytes := fun d => d.change p fun old => old ++ bytes

end SpokenEditor
