import SpokenEditor.Toml.Digits
import SpokenEditor.Toml.Value

/-!
# Numbers of a settings file

Whole numbers are written with decimal digits, or with `0x`, `0o` or `0b` in front of digits of
another base. A float has a fraction, an exponent or both, or is `inf` or `nan`. An underscore may
stand between two digits.

A document is well formed before all its numbers are known. Of a whole number with underscores only
their places are fixed then, each between two hexadecimal digits, and the digits after `0x` may be
missing: `1_a` and `0x` are numerals that cannot be read, and harm only where they are looked at.

* `isGrouped_of_notMem`: a text without underscores is grouped.
-/

namespace SpokenEditor.Toml

/-! ### Groups of digits -/

/-- Whether each underscore stands between two digits. -/
def isGrouped (isDigit : Char → Bool) : Text → Bool
  | [] => true
  | [c] => c != '_'
  | c :: '_' :: d :: rest => isDigit c && isDigit d && isGrouped isDigit (d :: rest)
  | c :: rest => c != '_' && isGrouped isDigit rest

/-- A text without underscores is grouped. -/
theorem isGrouped_of_notMem (isDigit : Char → Bool) :
    ∀ {t : Text}, '_' ∉ t → isGrouped isDigit t = true
  | [], _ => rfl
  | [c], h => by
    rw [List.mem_singleton] at h
    simpa [isGrouped] using Ne.symm h
  | c :: d :: rest, h => by
    rw [List.mem_cons, not_or] at h
    obtain ⟨hc, hrest⟩ := h
    have hd : d ≠ '_' := fun e => hrest (e ▸ List.mem_cons_self)
    rw [isGrouped.eq_4 _ _ _ (by simp) (fun _ _ e => hd (List.cons.inj e).1),
      isGrouped_of_notMem isDigit hrest]
    simpa using Ne.symm hc

/-- The text without its underscores, if each stands between two digits. -/
def ungroup? (isDigit : Char → Bool) (t : Text) : Option Text :=
  if isGrouped isDigit t then some (t.filter (· != '_')) else none

/-- The digits of a numeral that holds nothing else but underscores between them. -/
def decimals? (t : Text) : Option Text :=
  match ungroup? Char.isDigit t with
  | some (c :: ds) => if (c :: ds).all Char.isDigit then some (c :: ds) else none
  | _ => none

/-- The sign in front of a numeral, and the numeral. -/
def signed : Text → Bool × Text
  | '-' :: t => (true, t)
  | '+' :: t => (false, t)
  | t => (false, t)

/-- Whether a decimal numeral may begin like that: with a zero only if it is the number zero. -/
def allowedLead : Text → Bool
  | '0' :: _ :: _ => false
  | _ => true

/-! ### Whole numbers -/

/-- A whole number, if it is not too large to be read. -/
def wholeNumber (n : Int) : Value :=
  if -(Nat.pow 2 127 : Int) ≤ n ∧ n < Nat.pow 2 128 then .integer n else .unreadable

/-- The whole number that digits of the base spell, if there are such digits and nothing else. -/
def wholeValue (negative : Bool) (base : Nat) (ds : Text) : Value :=
  if ds.isEmpty || !ds.all (isDigitOf base) then .unreadable
  else wholeNumber (if negative then -(ofDigits base ds : Int) else ofDigits base ds)

/-- The value of a numeral of another base, after its mark. -/
def basedDigits? (base : Nat) (t : Text) : Option Value :=
  if t.all fun c => isDigitOf base c || c == '_' then
    (ungroup? (isDigitOf base) t).map (wholeValue false base)
  else none

/-- The value of a whole number of another base. -/
def based? : Text → Option Value
  | '0' :: 'x' :: t => basedDigits? 16 t
  | '0' :: 'o' :: t => basedDigits? 8 t
  | '0' :: 'b' :: t => basedDigits? 2 t
  | _ => none

/-- Whether a decimal numeral is the one of a whole number: a digit, and after the first digits
nothing or an underscore. -/
def beginsWhole (t : Text) : Bool :=
  let rest := t.dropWhile Char.isDigit
  t.head?.any Char.isDigit && (rest.isEmpty || rest.head? == some '_')

/-- The value of a decimal whole number. -/
def decimal? (t : Text) : Option Value :=
  let (negative, t) := signed t
  if allowedLead t && beginsWhole t && !t.any (fun c => c == '.' || c == 'e' || c == 'E') then
    (ungroup? (isDigitOf 16) t).map (wholeValue negative 10)
  else none

/-! ### Floats -/

/-- The digits after the point, if there is one, and what follows them. -/
def fraction? : Text → Option (Text × Text)
  | '.' :: t =>
    let ds := t.takeWhile fun c => c.isDigit || c == '_'
    (decimals? ds).map fun ds' => (ds', t.drop ds.length)
  | t => some ([], t)

/-- The exponent, zero if there is none. -/
def exponent? : Text → Option Int
  | [] => some 0
  | c :: t =>
    if c = 'e' ∨ c = 'E' then
      let (negative, t) := signed t
      (decimals? t).map fun ds => if negative then -(ofDigits 10 ds : Int) else ofDigits 10 ds
    else none

/-- A float by its digits. -/
def decimalFloat? (t : Text) : Option Value :=
  let (negative, t) := signed t
  let whole := t.takeWhile fun c => c.isDigit || c == '_'
  if allowedLead whole then
    (decimals? whole).bind fun whole' =>
      (fraction? (t.drop whole.length)).bind fun (fraction, rest) =>
        (exponent? rest).map fun e =>
          let digits := ofDigits 10 (whole' ++ fraction)
          let x := Binary64.ofDecimal negative digits (e - fraction.length)
          match x with
          | .finite _ _ => .float x
          | _ => .unreadable
  else none

/-- A float by its name. -/
def namedFloat? (t : Text) : Option Value :=
  let (negative, t) := signed t
  if t = "inf".toList then some (.float (.infinite negative))
  else if t = "nan".toList then some (.float .nan)
  else none

/-- The number that the text spells. -/
def number? (t : Text) : Option Value :=
  based? t <|> decimal? t <|> namedFloat? t <|> decimalFloat? t

end SpokenEditor.Toml
