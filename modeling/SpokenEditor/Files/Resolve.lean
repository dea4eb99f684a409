import SpokenEditor.Files.Similarity

/-!
# Finding the file that was meant

A spoken name is scored against the labels of all files shown. The file with the best score is
meant, but only if that score lies strictly above a threshold; of equal scores the earliest counts.
The search is stated for scores of any kind with a comparison, so it holds of rounded and of exact
scores alike.

* `bestIndex_eq_none_of_all`: if every score is at most the threshold, nothing is found.
-/

namespace SpokenEditor

/-- How the project refers to a file. -/
structure FileHandle where
  name : Text
  deriving DecidableEq, Repr

/-- A file as the tree shows it: the name a user speaks and the handle that opens it. -/
structure Candidate where
  label : Text
  handle : FileHandle
  deriving DecidableEq, Repr

/-! ### The best score above a threshold -/

section best

variable {β : Type} (le : β → β → Bool) (threshold : β)

/-- The better of the best score so far and the one at index `i`; scores up to the threshold and
scores that only reach the best one do not count. -/
def better (best : Option (Nat × β)) (i : Nat) (score : β) : Option (Nat × β) :=
  if le score threshold then best
  else
    match best with
    | some (j, top) => if le score top then some (j, top) else some (i, score)
    | none => some (i, score)

/-- The best of the scores that stand from index `i` on, given the best one before. -/
def bestFrom (best : Option (Nat × β)) (i : Nat) : List β → Option (Nat × β)
  | [] => best
  | score :: scores => bestFrom (better le threshold best i score) (i + 1) scores

/-- The index of the earliest best score above the threshold. -/
def bestIndex (scores : List β) : Option Nat :=
  (bestFrom le threshold none 0 scores).map Prod.fst

theorem bestFrom_of_all : ∀ {scores : List β} (best : Option (Nat × β)) (i : Nat),
    (∀ s ∈ scores, le s threshold = true) → bestFrom le threshold best i scores = best
  | [], _, _, _ => rfl
  | s :: scores, best, i, h => by
    rw [bestFrom, better.eq_def, if_pos (h s List.mem_cons_self),
      bestFrom_of_all _ _ fun x hx => h x (List.mem_cons_of_mem s hx)]

/-- If every score is at most the threshold, nothing is found. -/
theorem bestIndex_eq_none_of_all {scores : List β} (h : ∀ s ∈ scores, le s threshold = true) :
    bestIndex le threshold scores = none := by
  rw [bestIndex, bestFrom_of_all le threshold _ _ h, Option.map_none]

end best

/-! ### Files -/

/-- The index of the file that the spoken name means. -/
def resolveIndex (query : Text) (candidates : List Candidate) (threshold : Binary64) :
    Option Nat :=
  bestIndex Binary64.le threshold
    (candidates.map fun c => similarity (normalForm query) c.label)

/-- The file that the spoken name means. -/
def resolve (query : Text) (candidates : List Candidate) (threshold : Binary64) :
    Option Candidate :=
  (resolveIndex query candidates threshold).bind fun i => candidates[i]?

/-- A half: the threshold unless the settings give another one. -/
def defaultThreshold : Binary64 :=
  .finite false (Nat.pow 2 1073)

end SpokenEditor
