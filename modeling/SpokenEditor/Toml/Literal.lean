import SpokenEditor.Toml.Digits

/-!
# Strings of a settings file

A string stands between quotes, on one line or, between tripled quotes, on several. Between double
quotes a backslash begins an escape; between single quotes every character stands for itself. A line
break within a string stays as it is written, with or without a carriage return.
-/

namespace SpokenEditor.Toml

/-- A space or a tab. -/
def isSpace (c : Char) : Bool :=
  c == ' ' || c == '\t'

/-- A character that may stand within a line: no control character but the tab. -/
def isPlain (c : Char) : Bool :=
  c == '\t' || (' ' ≤ c && c != '\x7f')

/-! ### Where a string ends -/

/-- What stands before the closing quote of a string on one line, and what stands after it. -/
def cutLine (quote : Char) (escapes : Bool) : Text → Option (Text × Text)
  | [] => none
  | '\\' :: c :: rest =>
    if escapes then (cutLine quote escapes rest).map fun (s, r) => ('\\' :: c :: s, r)
    else (cutLine quote escapes (c :: rest)).map fun (s, r) => ('\\' :: s, r)
  | c :: rest =>
    if c = quote then some ([], rest)
    else if isPlain c then (cutLine quote escapes rest).map fun (s, r) => (c :: s, r)
    else none

/-- What stands before the closing quotes of a string on several lines, and what stands after them.
The string may end with one or two quotes of its own. -/
def cutLines (quote : Char) (escapes : Bool) : Text → Option (Text × Text)
  | [] => none
  | '\r' :: '\n' :: rest =>
    (cutLines quote escapes rest).map fun (s, r) => ('\r' :: '\n' :: s, r)
  | '\\' :: c :: rest =>
    if escapes then (cutLines quote escapes rest).map fun (s, r) => ('\\' :: c :: s, r)
    else (cutLines quote escapes (c :: rest)).map fun (s, r) => ('\\' :: s, r)
  | c :: rest =>
    let n := ((c :: rest).takeWhile (· == quote)).length
    if 3 ≤ n then some (List.replicate (min (n - 3) 2) quote, (c :: rest).drop (min n 5))
    else if c = '\n' ∨ isPlain c then (cutLines quote escapes rest).map fun (s, r) => (c :: s, r)
    else none

/-! ### Escapes -/

/-- The character with the number that hexadecimal digits spell. -/
def numbered? (ds : Text) : Option Char :=
  match ofDigits? 16 ds with
  | some n => if n.isValidChar then some (.ofNat n) else none
  | none => none

/-- The character that an escape of one letter stands for. -/
def lettered? : Char → Option Char
  | 'b' => some '\x08'
  | 't' => some '\t'
  | 'n' => some '\n'
  | 'f' => some '\x0c'
  | 'r' => some '\r'
  | 'e' => some '\x1b'
  | '\x22' => some '\x22'
  | '\\' => some '\\'
  | _ => none

/-- Whether nothing but spaces and tabs stands before the next line break. -/
def endsLine (t : Text) : Bool :=
  match t.dropWhile isSpace with
  | '\n' :: _ => true
  | '\r' :: '\n' :: _ => true
  | _ => false

/-- A space, a tab or a character of a line break. -/
def isGap (c : Char) : Bool :=
  isSpace c || c == '\n' || c == '\r'

/-- The text that a string with escapes stands for. In a string on several lines a backslash at the
end of a line takes away the line break and all blanks after it; `joining` tells that these blanks
are being taken away. -/
def unescape (several : Bool) : (joining : Bool) → Text → Option Text
  | _, [] => some []
  | _, ['\\'] => none
  | _, '\\' :: 'x' :: a :: b :: rest =>
    (numbered? [a, b]).bind fun c => (unescape several false rest).map (c :: ·)
  | _, '\\' :: 'u' :: a :: b :: c :: d :: rest =>
    (numbered? [a, b, c, d]).bind fun c => (unescape several false rest).map (c :: ·)
  | _, '\\' :: 'U' :: a :: b :: c :: d :: e :: f :: g :: h :: rest =>
    (numbered? [a, b, c, d, e, f, g, h]).bind fun c => (unescape several false rest).map (c :: ·)
  | _, '\\' :: c :: rest =>
    if several && endsLine (c :: rest) then unescape several true rest
    else (lettered? c).bind fun c => (unescape several false rest).map (c :: ·)
  | joining, c :: rest =>
    if joining && isGap c then unescape several true rest
    else (unescape several false rest).map (c :: ·)

/-! ### Strings -/

/-- The text without the line break at its start. -/
def dropBreak : Text → Text
  | '\n' :: t => t
  | '\r' :: '\n' :: t => t
  | t => t

/-- The string on one line at the start of the text, after its opening quote. -/
def lineString? : Text → Option (Text × Text)
  | '\x22' :: t =>
    (cutLine '\x22' true t).bind fun (s, rest) => (unescape false false s).map (·, rest)
  | '\x27' :: t => cutLine '\x27' false t
  | _ => none

/-- The string at the start of the text, and what follows it. -/
def string? : Text → Option (Text × Text)
  | '\x22' :: '\x22' :: '\x22' :: t =>
    (cutLines '\x22' true (dropBreak t)).bind fun (s, rest) =>
      (unescape true false s).map (·, rest)
  | '\x27' :: '\x27' :: '\x27' :: t => cutLines '\x27' false (dropBreak t)
  | t => lineString? t

end SpokenEditor.Toml
