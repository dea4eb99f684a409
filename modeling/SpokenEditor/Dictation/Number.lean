import SpokenEditor.Text.Blank
import SpokenEditor.Text.Lowercase

/-!
# Spoken numbers

The cardinals from zero to twenty, and numerals in ASCII digits.

* `numberOfWord?_le`: no spoken cardinal exceeds twenty.
-/

namespace SpokenEditor

/-- The spoken cardinals; each stands at its value. -/
def cardinals : List String :=
  ["zero", "one", "two", "three", "four", "five", "six", "seven", "eight", "nine", "ten",
   "eleven", "twelve", "thirteen", "fourteen", "fifteen", "sixteen", "seventeen", "eighteen",
   "nineteen", "twenty"]

/-- The value of a spoken cardinal in any case, blanks around it aside. -/
def numberOfWord? (word : Text) : Option Nat :=
  let w := Text.lowercase (Text.trim word)
  cardinals.findIdx? fun c => c.toList == w

/-- No spoken cardinal exceeds twenty. -/
theorem numberOfWord?_le {word : Text} {n : Nat} (h : numberOfWord? word = some n) : n ≤ 20 := by
  have := (List.findIdx?_eq_some_iff_findIdx_eq.1 h).1
  simp [cardinals] at this
  omega

/-- The value of a numeral in ASCII digits. -/
def decimalValue (digits : Text) : Nat :=
  digits.foldl (fun n c => 10 * n + (c.toNat - '0'.toNat)) 0

end SpokenEditor
