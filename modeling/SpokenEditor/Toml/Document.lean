import SpokenEditor.Toml.Literal
import SpokenEditor.Toml.Moment
import SpokenEditor.Toml.Numeral

/-!
# Settings files as documents

A document is read in two steps. First its lines are recognized: entries, which write a value under
a dotted key, and headers. Then the values are written into the table of the document, the entries
below a header into the table that it begins.

* `Toml.parse`: the entries of the document's table.
-/

namespace SpokenEditor.Toml

/-! ### Between tokens -/

/-- The text after the spaces and tabs at its start. -/
def skipSpace (t : Text) : Text :=
  t.dropWhile isSpace

/-- The text after the blanks, line breaks and comments at its start; `inComment` tells that it
begins inside a comment, which ends before the first character that cannot stand within a line. -/
def skipFiller : (inComment : Bool) → Text → Text
  | _, [] => []
  | _, '\n' :: t => skipFiller false t
  | _, '\r' :: '\n' :: t => skipFiller false t
  | true, c :: t => if isPlain c then skipFiller true t else c :: t
  | false, c :: t =>
    if c = '#' then skipFiller true t
    else if isSpace c then skipFiller false t
    else c :: t

/-- The text after the rest of the line, which holds nothing but a comment. -/
def endLine (t : Text) : Option Text :=
  let line := skipSpace t
  let rest := if line.head? = some '#' then line.dropWhile isPlain else line
  match rest with
  | [] => some []
  | '\n' :: rest => some rest
  | '\r' :: '\n' :: rest => some rest
  | _ => none

/-! ### Keys -/

/-- A character of a key without quotes. -/
def isKeyChar (c : Char) : Bool :=
  c.isAlphanum || c == '_' || c == '-'

/-- The key at the start of the text, and what follows it. -/
def key? (t : Text) : Option (Text × Text) :=
  match t.takeWhile isKeyChar with
  | [] => lineString? t
  | k => some (k, t.drop k.length)

/-- The keys at the start of the text, at most `limit`, with a point between each two, and what
follows them and the blanks after them. -/
def keys? : (limit : Nat) → Text → Option (List Text × Text)
  | 0, _ => none
  | limit + 1, t =>
    (key? (skipSpace t)).bind fun (k, rest) =>
      match skipSpace rest with
      | '.' :: rest => (keys? limit rest).map fun (ks, rest) => (k :: ks, rest)
      | rest => some ([k], rest)

/-- How deep arrays and tables may be nested, and how many keys a dotted key may have. -/
def nesting : Nat := 80

/-- The dotted key at the start of the text, and what follows it and the blanks after it. -/
def path? (t : Text) : Option (List Text × Text) :=
  keys? nesting t

/-! ### Values -/

/-- The items at the start of the text, a comma between each two and perhaps one after the last, up
to the closing character, and what follows it. -/
def items {α : Type} (item : Text → Option (α × Text)) (close : Char) (t : Text) :
    Option (List α × Text) :=
  match skipFiller false t with
  | [] => none
  | c :: rest =>
    if c = close then some ([], rest)
    else
      match item (c :: rest) with
      | none => none
      | some (a, rest) =>
        match skipFiller false rest with
        | [] => none
        | c :: rest =>
          if c = close then some ([a], rest)
          else if c = ',' ∧ rest.length < t.length then
            (items item close rest).map fun (as, rest) => (a :: as, rest)
          else none
termination_by t.length
decreasing_by next h => exact h.2

/-- The entry at the start of the text: a dotted key and a value. On both sides of the sign between
them stands what `skip` passes over. -/
def keyValue? (skip : Text → Text) (value : Text → Option (Value × Text)) (t : Text) :
    Option ((List Text × Value) × Text) :=
  (path? t).bind fun (path, rest) =>
    match skip rest with
    | '=' :: rest => (value (skip rest)).map fun (v, rest) => ((path, v), rest)
    | _ => none

/-- A character of a value that is neither a string, an array nor a table. A quote is one, too, but
for the first character of the value. -/
def isAtomChar (c : Char) : Bool :=
  !isSpace c && c ∉ ['\n', '\r', '=', ',', '[', ']', '\x7b', '\x7d', '#']

/-- The value that an atom spells. -/
def atom? (t : Text) : Option Value :=
  if t = "true".toList then some (.boolean true)
  else if t = "false".toList then some (.boolean false)
  else if isMoment t then some .moment
  else number? t

/-- The atom at the start of the text, and what follows it. A date and a time of day may have one
space between them. -/
def scanAtom (t : Text) : Text × Text :=
  let word := t.takeWhile isAtomChar
  let rest := t.drop word.length
  match rest with
  | ' ' :: c :: more =>
    if isDate word && c.isDigit then
      let time := (c :: more).takeWhile isAtomChar
      (word ++ ' ' :: time, (c :: more).drop time.length)
    else (word, rest)
  | _ => (word, rest)

/-- The value at the start of the text, with arrays and tables nested at most `depth` times, and
what follows it. -/
def value? : (depth : Nat) → Text → Option (Value × Text)
  | 0, '[' :: _ => none
  | 0, '\x7b' :: _ => none
  | depth + 1, '[' :: t => (items (value? depth) ']' t).map fun (vs, rest) => (.array vs, rest)
  | depth + 1, '\x7b' :: t =>
    (items (keyValue? (skipFiller false) (value? depth)) '\x7d' t).bind fun (es, rest) =>
      (Entries.putAll es []).map fun es => (.table .inline es, rest)
  | _, '\x22' :: t => (string? ('\x22' :: t)).map fun (s, rest) => (.text s, rest)
  | _, '\x27' :: t => (string? ('\x27' :: t)).map fun (s, rest) => (.text s, rest)
  | _, t =>
    let (atom, rest) := scanAtom t
    (atom? atom).map (·, rest)

/-! ### Lines -/

/-- A line that is not blank. -/
inductive Line where
  | entry (path : List Text) (v : Value)
  /-- A header; `repeated` if it stands between double brackets. -/
  | header (repeated : Bool) (path : List Text)

/-- The line at the start of the text, and what follows it. -/
def line? : Text → Option (Line × Text)
  | '[' :: '[' :: t =>
    match path? t with
    | some (path, ']' :: ']' :: rest) => (endLine rest).map (.header true path, ·)
    | _ => none
  | '[' :: t =>
    match path? t with
    | some (path, ']' :: rest) => (endLine rest).map (.header false path, ·)
    | _ => none
  | t =>
    (keyValue? skipSpace (value? nesting) t).bind fun ((path, v), rest) =>
      (endLine rest).map (.entry path v, ·)

/-- The lines of the text. -/
def lines? (t : Text) : Option (List Line) :=
  match skipFiller false t with
  | [] => some []
  | c :: rest =>
    match line? (c :: rest) with
    | none => none
    | some (l, rest) =>
      if rest.length < t.length then (lines? rest).map (l :: ·) else none
termination_by t.length

/-! ### Documents -/

/-- A header with the entries below it. -/
structure Section where
  repeated : Bool
  path : List Text
  entries : List (List Text × Value)

/-- The entries before the first header, and the headers with the entries below them. -/
def sections : List Line → List (List Text × Value) × List Section
  | [] => ([], [])
  | .entry path v :: ls =>
    let (entries, rest) := sections ls
    ((path, v) :: entries, rest)
  | .header repeated path :: ls =>
    let (entries, rest) := sections ls
    ([], ⟨repeated, path, entries⟩ :: rest)

/-- Write a section into the table of the document. -/
def Section.write (s : Section) (es : Entries) : Option Entries :=
  let fill := Entries.putAll s.entries
  es.under (if s.repeated then Entries.extend fill else Entries.head fill) s.path

/-- Write sections, in order. -/
def writeAll : List Section → Entries → Option Entries
  | [], es => some es
  | s :: rest, es => (s.write es).bind (writeAll rest)

/-- The text without the byte order mark at its start. -/
def dropMark : Text → Text
  | '\ufeff' :: t => t
  | t => t

/-- The table of the document, if the text is one. -/
def parse (t : Text) : Option Entries :=
  (lines? (dropMark t)).bind fun ls =>
    let (entries, rest) := sections ls
    (Entries.putAll entries []).bind (writeAll rest)

end SpokenEditor.Toml
