import SpokenEditor.Text.Runs
import SpokenEditor.Text.CaseTable
import SpokenEditor.Text.Basic

/-!
# Lowercase forms

A character has a lowercase form of one character, or of two for `İ`. `foldCase` lowers a text
character by character. `lowercase` is the full lowercasing of Unicode: it differs only at a capital
sigma, which becomes the final form at the end of a word, that is when the last character before it
that is not case-ignorable is cased and the first such character after it is not.

* `foldCase_append`: lowering character by character acts on the parts of a text.
* `lowercase_eq_foldCase`: without a capital sigma the two agree.
-/

namespace SpokenEditor.Text

/-- How far the lowercase form lies from a code point, if it is another code point. The runs must
be ascending. -/
def shiftIn : List ShiftRun → Nat → Option Int
  | [], _ => none
  | r :: rest, n =>
    if n < r.first then none
    else if n ≤ r.last ∧ (n - r.first) % r.step = 0 then some r.shift
    else shiftIn rest n

/-- The lowercase form of one character. -/
def lowerChar (c : Char) : Text :=
  if c = 'İ' then ['i', '\u0307']
  else
    match shiftIn lowercaseRuns c.toNat with
    | none => [c]
    | some d => [Char.ofNat (c.toNat + d).toNat]

/-- The text with each character lowered on its own. -/
def foldCase (t : Text) : Text :=
  t.flatMap lowerChar

theorem foldCase_append (s t : Text) : foldCase (s ++ t) = foldCase s ++ foldCase t :=
  List.flatMap_append

/-! ### The final sigma -/

/-- Whether the character has the property `Cased`. -/
def isCased (c : Char) : Bool :=
  inRuns casedRuns c.toNat

/-- Whether the character has the property `Case_Ignorable`. -/
def isCaseIgnorable (c : Char) : Bool :=
  inRuns caseIgnorableRuns c.toNat

/-- Whether a cased character follows, case-ignorable ones aside. -/
def casedAhead (t : Text) : Bool :=
  match t.dropWhile isCaseIgnorable with
  | [] => false
  | c :: _ => isCased c

/-- Full lowercasing of the rest of a text, where `casedBefore` tells whether the last character
before it that is not case-ignorable is cased. -/
def lowerFrom (casedBefore : Bool) : Text → Text
  | [] => []
  | c :: t =>
    (if c = 'Σ' then [if casedBefore && !casedAhead t then 'ς' else 'σ'] else lowerChar c) ++
      lowerFrom (if isCaseIgnorable c then casedBefore else isCased c) t

/-- The full lowercase form of a text. -/
def lowercase (t : Text) : Text :=
  lowerFrom false t

theorem lowerFrom_eq_foldCase : ∀ {t : Text} (b : Bool), 'Σ' ∉ t → lowerFrom b t = foldCase t
  | [], _, _ => rfl
  | c :: t, b, h => by
    rw [List.mem_cons, not_or] at h
    rw [lowerFrom, if_neg (Ne.symm h.1), lowerFrom_eq_foldCase _ h.2, foldCase, foldCase,
      List.flatMap_cons]

/-- Without a capital sigma, full lowercasing lowers each character on its own. -/
theorem lowercase_eq_foldCase {t : Text} (h : 'Σ' ∉ t) : lowercase t = foldCase t :=
  lowerFrom_eq_foldCase false h

end SpokenEditor.Text
