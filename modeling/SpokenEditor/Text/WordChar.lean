import SpokenEditor.Text.Blank
import SpokenEditor.Text.Runs
import SpokenEditor.Text.WordTable

/-!
# Word characters

For deleting a word, characters fall into three classes: blanks, word characters (letters and
digits of all scripts and the underscore) and the rest, the marks.

* `isWordChar_of_isBlank`: no blank is a word character.
-/

namespace SpokenEditor.Text

/-- Whether the character is a letter or a digit of some script. -/
def isAlphanumeric (c : Char) : Bool :=
  inRuns alphanumericRuns c.toNat

/-- Whether the character belongs to a word: a letter, a digit or an underscore. -/
def isWordChar (c : Char) : Bool :=
  isAlphanumeric c || c == '_'

/-- Whether the character is a mark: neither a blank nor a word character. -/
def isMark (c : Char) : Bool :=
  !isBlank c && !isWordChar c

/-- The code points of the blanks. -/
def blankPoints : List Nat :=
  List.range' 9 5 ++ [0x20, 0x85, 0xA0, 0x1680] ++ List.range' 0x2000 11 ++
    [0x2028, 0x2029, 0x202F, 0x205F, 0x3000]

theorem mem_blankPoints_of_isBlank {c : Char} (h : isBlank c = true) : c.toNat ∈ blankPoints := by
  simp only [isBlank, Bool.or_eq_true, Bool.and_eq_true, decide_eq_true_eq, beq_iff_eq] at h
  simp only [blankPoints, List.mem_append, List.mem_range'_1, List.mem_cons, List.not_mem_nil,
    or_false]
  omega

/-- No blank is a word character. -/
theorem isWordChar_of_isBlank {c : Char} (h : isBlank c = true) : isWordChar c = false := by
  have hpoints : ∀ n ∈ blankPoints, inRuns alphanumericRuns n = false ∧ n ≠ '_'.toNat := by
    decide +kernel
  obtain ⟨hruns, hne⟩ := hpoints c.toNat (mem_blankPoints_of_isBlank h)
  have hc : c ≠ '_' := fun e => hne (e ▸ rfl)
  simp [isWordChar, isAlphanumeric, hruns, hc]

end SpokenEditor.Text
