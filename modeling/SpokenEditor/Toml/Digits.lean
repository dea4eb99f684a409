import SpokenEditor.Text.Basic

/-!
# Digits

Digits of a base up to 36, letters of either case counted from ten, and the numbers they spell.
-/

namespace SpokenEditor.Toml

/-- The value of a digit. -/
def digitValue (c : Char) : Nat :=
  if c.isDigit then c.toNat - '0'.toNat else c.toLower.toNat - 'a'.toNat + 10

/-- Whether the character is a digit of the base. -/
def isDigitOf (base : Nat) (c : Char) : Bool :=
  (c.isDigit || ('a' ≤ c.toLower && c.toLower ≤ 'z')) && digitValue c < base

/-- The number that digits spell. -/
def ofDigits (base : Nat) (ds : Text) : Nat :=
  ds.foldl (fun n c => base * n + digitValue c) 0

/-- The number that digits of the base spell, if there are no others. -/
def ofDigits? (base : Nat) (ds : Text) : Option Nat :=
  if ds.all (isDigitOf base) then some (ofDigits base ds) else none

end SpokenEditor.Toml
