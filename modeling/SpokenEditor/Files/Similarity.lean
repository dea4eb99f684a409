import SpokenEditor.Files.EditDistance
import SpokenEditor.Number.Binary64
import SpokenEditor.Text.Blank
import SpokenEditor.Text.Lowercase

/-!
# Similarity of names

Names are compared in a normal form without blanks, each character lowered on its own. The score of
two names is one less the edit distance of their normal forms divided by the length of the longer
one. `exactScore` is that rational number; `similarity` rounds the quotient and then the difference
to binary64 numbers.
-/

namespace SpokenEditor

/-- The name without blanks, each character lowered on its own. -/
def normalForm (t : Text) : Text :=
  Text.foldCase (Text.squeeze t)

/-- The length of the longer one of two texts, at least one. -/
def longest (s t : Text) : Nat :=
  max (max s.length t.length) 1

/-- One less the distance of the normal forms divided by the longer length. -/
def exactScore (s t : Text) : Rat :=
  1 - (editDistance (normalForm s) (normalForm t) : Rat) / longest (normalForm s) (normalForm t)

/-- The score with both operations rounded. -/
def similarity (s t : Text) : Binary64 :=
  .oneMinus (.ofRatio false (editDistance (normalForm s) (normalForm t))
    (longest (normalForm s) (normalForm t)))

end SpokenEditor
