import SpokenEditor.Text.Utf8

/-!
# Paths

A path is a text in which slashes separate names. Joining adds a slash where one is missing; a path
that begins with a slash is absolute and replaces what it is joined to.

* `join_of_absolute`: an absolute path is not changed by joining.
-/

namespace SpokenEditor.Path

/-- Whether the path begins at the root. -/
def isAbsolute (p : Text) : Bool :=
  p.head? == some '/'

/-- The path `q` as seen from the directory `p`. -/
def join (p q : Text) : Text :=
  if isAbsolute q then q
  else if p.isEmpty || p.getLast? == some '/' then p ++ q
  else p ++ '/' :: q

/-- An absolute path is not changed by joining. -/
theorem join_of_absolute {q : Text} (h : isAbsolute q = true) (p : Text) : join p q = q :=
  if_pos h

/-- The parts of a path between slashes; two slashes in a row have an empty part between them. -/
def parts : Text → List Text
  | [] => [[]]
  | c :: t =>
    if c = '/' then [] :: parts t
    else
      match parts t with
      | [] => [[c]]
      | p :: ps => (c :: p) :: ps

/-- Whether the part tells nothing about where a path leads. -/
def isIdle (part : Text) : Bool :=
  part == [] || part == ['.']

/-- The steps of a path: its parts but for the idle ones. -/
def steps (p : Text) : List Text :=
  (parts p).filter (!isIdle ·)

/-- Whether the path can only mean a directory: it is empty, or ends with a slash or with dots. -/
def meansDirectory (p : Text) : Bool :=
  match (parts p).getLast? with
  | some s => isIdle s || s == ['.', '.']
  | none => true

/-- The parts without the idle ones at their end. -/
def dropIdle (ps : List Text) : List Text :=
  (ps.reverse.dropWhile isIdle).reverse

/-- The path of the directory in which the last step of the path stands; the empty path and the root
stand in none. The parts before that step are left as they are written. -/
def parent? (p : Text) : Option Text :=
  match parts p with
  | [] => none
  | first :: rest =>
    match dropIdle rest with
    | [] => if first.isEmpty then none else some []
    | ps =>
      let above := ['/'].intercalate (first :: dropIdle ps.dropLast)
      some (if isAbsolute p && above.isEmpty then ['/'] else above)

/-- The greatest number of bytes of a path that the file system takes. -/
def maxLength : Nat := 4095

/-- Whether the file system takes a path of that length. -/
def fits (p : Text) : Bool :=
  (Text.encode p).length ≤ maxLength

/-- The path with a tilde at its start replaced by the home directory; `none` if there is none. -/
def expand (home : Option Text) : Text → Option Text
  | '~' :: '/' :: rest => home.map fun h => join h rest
  | p => some p

end SpokenEditor.Path
