import SpokenEditor.Number.Binary64
import SpokenEditor.Text.Basic

/-!
# The shortest decimal of a number

A finite number is written with the fewest decimal digits that read back as it; among decimals of
that many digits the nearest one is taken, and the larger one of two equally near. Only positional
notation is used, and a whole number has no point.

For each count of digits only the two neighbours of the number on the grid of such decimals can be
nearest, so these two are tried.
-/

namespace SpokenEditor.Binary64

/-- A positive decimal, `digits * 10 ^ exponent`. -/
structure Decimal where
  digits : Nat
  exponent : Int
  deriving DecidableEq, Repr

/-- How many decimal digits the number has. -/
def digitCount (n : Nat) : Nat :=
  (Nat.toDigits 10 n).length

/-- The least power of ten above the positive quotient `num / den`, as an exponent. -/
def decimalExponent (num den : Nat) : Int :=
  if den ≤ num then digitCount (num / den)
  else 1 - (digitCount ((den + num - 1) / num - 1) : Int)

/-- The decimal with so many digits; if the digits were rounded up to the next power of ten, it has
a single one. -/
def Decimal.ofCount (count digits : Nat) (exponent : Int) : Decimal :=
  if digits = Nat.pow 10 count then ⟨1, exponent + count⟩ else ⟨digits, exponent⟩

/-- The nearest decimal of `count` digits to the positive number of so many units, if one of that
many digits reads back as it. -/
def decimalOfCount? (units count : Nat) : Option Decimal :=
  let exponent := decimalExponent units one - count
  let num := if exponent < 0 then units * Nat.pow 10 (-exponent).toNat else units
  let den := if exponent < 0 then one else one * Nat.pow 10 exponent.toNat
  let low := num / den
  let readsBack (d : Nat) := ofDecimal false d exponent == finite false units
  let lowIsNearer := 2 * (num % den) < den
  match readsBack low, readsBack (low + 1) with
  | true, true => some (.ofCount count (if lowIsNearer then low else low + 1) exponent)
  | true, false => some (.ofCount count low exponent)
  | false, true => some (.ofCount count (low + 1) exponent)
  | false, false => none

/-- The shortest decimal of the positive number of so many units. Seventeen digits always read
back. -/
def shortest (units : Nat) : Decimal :=
  ((List.range' 1 17).findSome? (decimalOfCount? units)).getD ⟨units, 0⟩

/-- The decimal in positional notation. -/
def Decimal.toText (d : Decimal) : Text :=
  let ds := Nat.toDigits 10 d.digits
  if 0 ≤ d.exponent then ds ++ List.replicate d.exponent.toNat '0'
  else
    let places := (-d.exponent).toNat
    let whole := ds.take (ds.length - places)
    (if whole.isEmpty then ['0'] else whole) ++
      ['.'] ++ List.replicate (places - ds.length) '0' ++ ds.drop (ds.length - places)

/-- The number as text. -/
def toText : Binary64 → Text
  | nan => "NaN".toList
  | infinite negative => if negative then "-inf".toList else "inf".toList
  | finite negative units =>
    (if negative then ['-'] else []) ++
      if units = 0 then ['0'] else (shortest units).toText

end SpokenEditor.Binary64
