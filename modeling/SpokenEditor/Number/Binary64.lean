/-!
# Binary64 numbers

The numbers of the IEEE 754 format binary64, held exactly: a finite one is a signed multiple of the
least positive one, `2 ^ -1074`, and zero has a sign. Rounding takes a quotient of natural numbers
to the nearest number of the format, a tie to the one with an even last digit, so everything here is
arithmetic on natural numbers and open to proof.

* `le_iff_signed_le`: finite numbers are ordered as their exact values.
* `le_refl_iff`: only the number that is none is not at most itself.
-/

namespace SpokenEditor

/-- A number of the format binary64; finite ones count units of `2 ^ -1074`. -/
inductive Binary64 where
  | nan
  | infinite (negative : Bool)
  | finite (negative : Bool) (units : Nat)
  deriving DecidableEq, Repr

namespace Binary64

/-- How many units make one. -/
def one : Nat := Nat.pow 2 1074

/-- The exact value in units. -/
def signed (negative : Bool) (units : Nat) : Int :=
  if negative then -(units : Int) else units

/-! ### Words of 64 bits -/

/-- The number that a word of 64 bits stands for. -/
def ofBits (w : UInt64) : Binary64 :=
  let n := w.toNat
  let negative := Nat.pow 2 63 ≤ n
  let exponent := n / Nat.pow 2 52 % Nat.pow 2 11
  let fraction := n % Nat.pow 2 52
  if exponent = 2047 then
    if fraction = 0 then infinite negative else nan
  else if exponent = 0 then finite negative fraction
  else finite negative ((Nat.pow 2 52 + fraction) * Nat.pow 2 (exponent - 1))

/-- The word that stands for the number. -/
def toBits : Binary64 → UInt64
  | nan => 0x7FF8000000000000
  | infinite negative => if negative then 0xFFF0000000000000 else 0x7FF0000000000000
  | finite negative units =>
    let exponent := units.log2 - 52
    .ofNat ((if negative then Nat.pow 2 63 else 0) +
      (exponent * Nat.pow 2 52 + units / Nat.pow 2 exponent))

/-! ### Rounding -/

/-- The quotient `num / den` rounded to a whole number, a tie to the even one. -/
def roundToEven (num den : Nat) : Nat :=
  let k := num / den
  let r := num % den
  if den < 2 * r ∨ 2 * r = den ∧ k % 2 = 1 then k + 1 else k

/-- The quotient `num / den` of units rounded to 53 binary digits. -/
def roundUnits (num den : Nat) : Nat :=
  let step := Nat.pow 2 ((num / den).log2 - 52)
  roundToEven num (den * step) * step

/-- The number nearest to `num / den` units of the given sign. -/
def ofUnits (negative : Bool) (num den : Nat) : Binary64 :=
  let units := roundUnits num den
  if units < Nat.pow 2 2098 then finite negative units else infinite negative

/-- The number nearest to the quotient `num / den` with the given sign. -/
def ofRatio (negative : Bool) (num den : Nat) : Binary64 :=
  ofUnits negative (num * one) den

/-- The number nearest to the whole number. -/
def ofInt (n : Int) : Binary64 :=
  ofRatio (n < 0) n.natAbs 1

/-- The number nearest to `digits * 10 ^ exponent` with the given sign. A decimal of more than 310
places before the point is past the largest number, one that starts after 330 zeros is nearest to
zero. -/
def ofDecimal (negative : Bool) (digits : Nat) (exponent : Int) : Binary64 :=
  let places : Int := (Nat.toDigits 10 digits).length + exponent
  if digits = 0 ∨ places < -330 then finite negative 0
  else if 310 < places then infinite negative
  else if 0 ≤ exponent then ofRatio negative (digits * Nat.pow 10 exponent.toNat) 1
  else ofRatio negative digits (Nat.pow 10 (-exponent).toNat)

/-- One less the number. -/
def oneMinus : Binary64 → Binary64
  | nan => nan
  | infinite negative => infinite (!negative)
  | finite negative units =>
    let d : Int := one - signed negative units
    ofUnits (d < 0) d.natAbs 1

/-! ### Order -/

/-- Whether the first number is at most the second; never if one of them is none. -/
def le : Binary64 → Binary64 → Bool
  | nan, _ => false
  | _, nan => false
  | infinite true, _ => true
  | _, infinite false => true
  | infinite false, _ => false
  | _, infinite true => false
  | finite s m, finite t n => signed s m ≤ signed t n

/-- Finite numbers are ordered as their exact values. -/
theorem le_iff_signed_le {s t : Bool} {m n : Nat} :
    le (finite s m) (finite t n) = true ↔ signed s m ≤ signed t n := by
  simp [le]

/-- Only the number that is none is not at most itself. -/
theorem le_refl_iff : ∀ {x : Binary64}, le x x = true ↔ x ≠ nan
  | nan => by simp [le]
  | infinite true => by simp [le]
  | infinite false => by simp [le]
  | finite s m => by simp [le]

/-- Whether the number lies between zero and one, ends included. -/
def inUnitInterval (x : Binary64) : Bool :=
  le (finite false 0) x && le x (finite false one)

end Binary64

end SpokenEditor
