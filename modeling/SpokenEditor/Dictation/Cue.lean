import SpokenEditor.Text.Basic

/-!
# Spoken cues

A cue is a run of words that stands for a literal. The cues of a table are replaced in one pass from
the left: where a cue begins, the first such cue of the table is replaced and the pass goes on
behind it. One may also replace the cues in turn, each everywhere before the next one.

* `substitute_cons_of_none`, `substitute_cons_of_some`: what one step of the pass does.
* `spokenCues`: the table in use.
-/

namespace SpokenEditor

/-- A run of spoken words and the literal it stands for. The run is not empty. -/
structure Cue where
  first : Text
  more : List Text
  literal : Text
  deriving DecidableEq, Repr

namespace Cue

/-- Whether the words begin with the cue. -/
def startsAt (c : Cue) (word : Text) (rest : List Text) : Bool :=
  c.first == word && c.more.isPrefixOf rest

/-- The words with every cue of the table replaced, in one pass from the left. -/
def substitute (cues : List Cue) : List Text → List Text
  | [] => []
  | word :: rest =>
    match cues.find? fun c => c.startsAt word rest with
    | some c => c.literal :: substitute cues (rest.drop c.more.length)
    | none => word :: substitute cues rest
termination_by words => words.length
decreasing_by
  · exact Nat.lt_succ_of_le (List.drop_sublist _ _).length_le
  · exact Nat.lt_succ_self _

theorem substitute_nil (cues : List Cue) : substitute cues [] = [] := by
  rw [substitute]

theorem substitute_cons_of_none {cues : List Cue} {word : Text} {rest : List Text}
    (h : (cues.find? fun c => c.startsAt word rest) = none) :
    substitute cues (word :: rest) = word :: substitute cues rest := by
  rw [substitute, h]

theorem substitute_cons_of_some {cues : List Cue} {word : Text} {rest : List Text} {c : Cue}
    (h : (cues.find? fun c => c.startsAt word rest) = some c) :
    substitute cues (word :: rest) = c.literal :: substitute cues (rest.drop c.more.length) := by
  rw [substitute, h]

/-- The words with one cue replaced wherever it begins, from the left. -/
def replaceAll (c : Cue) : List Text → List Text
  | [] => []
  | word :: rest =>
    if c.startsAt word rest then c.literal :: replaceAll c (rest.drop c.more.length)
    else word :: replaceAll c rest
termination_by words => words.length
decreasing_by
  · exact Nat.lt_succ_of_le (List.drop_sublist _ _).length_le
  · exact Nat.lt_succ_self _

/-- The words with the cues replaced in turn, each everywhere before the next one. -/
def replaceInTurn (cues : List Cue) (words : List Text) : List Text :=
  cues.foldl (fun ws c => c.replaceAll ws) words

/-- A cue of one word. -/
def single (word literal : String) : Cue :=
  ⟨word.toList, [], literal.toList⟩

end Cue

/-- The cues for punctuation and layout. -/
def spokenCues : List Cue :=
  [⟨"single".toList, ["quote".toList], ['\x27']⟩,
   .single "p1" "(",
   .single "p2" ")",
   .single "b1" "\x7b",
   .single "b2" "\x7d",
   .single "c1" "[",
   .single "c2" "]",
   .single "dot" ".",
   .single "semicolon" ";",
   .single "colon" ":",
   .single "column" ":",
   .single "quote" "\x22",
   .single "indent" "\t",
   .single "line" "\n",
   .single "definition" "def",
   .single "score" "_"]

end SpokenEditor
