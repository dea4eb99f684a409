import SpokenEditor.Proofs.Lowering
import SpokenEditor.Proofs.RoundedScores
import Mathlib.Data.List.Find

/-! # The file that is found

The search for the best score keeps the best one so far.  What it has kept after some scores is the
earliest best of them above the threshold (`Kept`), one more score keeps it that way, and so does
every further one.  Nothing but a comparison of the scores and the threshold is used (`Comparable`),
so the search finds the same among exact scores and among rounded ones.

* `kept_better`, `kept_bestFrom`: one more score, and the run over all of them;
* `bestIndex_eq_some_iff`, `bestIndex_eq_none_iff`: what is found, and when nothing is;
* `bestIndex_eq_findIdx?`: a score that none exceeds is found where it first stands;
* `resolve_firstBest`: what all this means for files. -/

namespace SpokenEditor

section search

variable {β : Type} {le : β → β → Bool} {threshold lower top full score : β} {i j : Nat}
  {seen scores : List β} {best : Option (Nat × β)}

/-- The comparison orders the scores and the threshold, ties allowed. -/
structure Comparable (le : β → β → Bool) (threshold : β) (scores : List β) : Prop where
  total : ∀ s ∈ threshold :: scores, ∀ t ∈ threshold :: scores, le s t = true ∨ le t s = true
  trans : ∀ {s t u : β}, le s t = true → le t u = true → le s u = true

/-- The score at the index lies above the threshold, none is greater, and all before it are less. -/
structure FirstBest (le : β → β → Bool) (threshold : β) (scores : List β) (i : Nat) (top : β) :
    Prop where
  score : scores[i]? = some top
  above : le top threshold = false
  greatest : ∀ s ∈ scores, le s top = true
  first : ∀ s ∈ scores.take i, le top s = false

/-- What the search has kept of the scores it has seen. -/
def Kept (le : β → β → Bool) (threshold : β) (seen : List β) : Option (Nat × β) → Prop
  | none => ∀ s ∈ seen, le s threshold = true
  | some (i, top) => FirstBest le threshold seen i top

/-! ### The search -/

theorem Comparable.of_not_le (h : Comparable le threshold scores) {s t : β}
    (hs : s ∈ threshold :: scores) (ht : t ∈ threshold :: scores) (hlt : le t s = false) :
    le s t = true :=
  (h.total s hs t ht).resolve_right (by simp [hlt])

theorem FirstBest.lt_length (h : FirstBest le threshold scores i top) : i < scores.length :=
  (List.getElem?_eq_some_iff.1 h.score).1

theorem FirstBest.mem (h : FirstBest le threshold scores i top) : top ∈ scores :=
  List.mem_of_getElem? h.score

/-- A score that is no greater than the best one leaves it the best. -/
theorem FirstBest.keep (h : FirstBest le threshold seen i top) (hle : le score top = true) :
    FirstBest le threshold (seen ++ [score]) i top where
  score := by rw [List.getElem?_append_left h.lt_length, h.score]
  above := h.above
  greatest := List.forall_mem_append.2 ⟨h.greatest, List.forall_mem_singleton.2 hle⟩
  first := by
    rw [List.take_append_of_le_length h.lt_length.le]
    exact h.first

/-- A score that is greater than all before it is the best one. -/
theorem firstBest_concat (habove : le score threshold = false) (hself : le score score = true)
    (hle : ∀ s ∈ seen, le s score = true) (hlt : ∀ s ∈ seen, le score s = false) :
    FirstBest le threshold (seen ++ [score]) seen.length score where
  score := List.getElem?_concat_length
  above := habove
  greatest := List.forall_mem_append.2 ⟨hle, List.forall_mem_singleton.2 hself⟩
  first := by
    rw [List.take_left]
    exact hlt

/-- **One more score keeps what is kept right.** -/
theorem kept_better (hc : Comparable le threshold (seen ++ [score]))
    (hbest : Kept le threshold seen best) :
    Kept le threshold (seen ++ [score]) (better le threshold best seen.length score) := by
  have hscore : score ∈ threshold :: (seen ++ [score]) := by simp
  have hthreshold : threshold ∈ threshold :: (seen ++ [score]) := List.mem_cons_self
  have hseen : ∀ s ∈ seen, s ∈ threshold :: (seen ++ [score]) := fun s hs => by simp [hs]
  have hself : le score score = true := (hc.total score hscore score hscore).elim id id
  unfold better
  split
  · next hlow =>
    cases best with
    | none => exact List.forall_mem_append.2 ⟨hbest, List.forall_mem_singleton.2 hlow⟩
    | some found =>
      have habove := hc.of_not_le hthreshold (hseen _ hbest.mem) hbest.above
      exact hbest.keep (hc.trans hlow habove)
  · next hhigh =>
    rw [Bool.not_eq_true] at hhigh
    have hle := hc.of_not_le hthreshold hscore hhigh
    cases best with
    | none =>
      refine firstBest_concat hhigh hself (fun s hs => hc.trans (hbest s hs) hle) fun s hs => ?_
      exact Bool.eq_false_iff.2 fun h => by simp [hc.trans h (hbest s hs)] at hhigh
    | some found =>
      obtain ⟨i, top⟩ := found
      dsimp only
      split
      · next hkeep => exact hbest.keep hkeep
      · next hbetter =>
        rw [Bool.not_eq_true] at hbetter
        have htop := hc.of_not_le (hseen _ hbest.mem) hscore hbetter
        refine firstBest_concat hhigh hself (fun s hs => hc.trans (hbest.greatest s hs) htop)
          fun s hs => ?_
        exact Bool.eq_false_iff.2 fun h => by simp [hc.trans h (hbest.greatest s hs)] at hbetter

theorem Comparable.of_subset (hc : Comparable le threshold scores) (h : seen ⊆ scores) :
    Comparable le threshold seen where
  total s hs t ht := hc.total s (List.cons_subset_cons _ h hs) t (List.cons_subset_cons _ h ht)
  trans := hc.trans

/-- **What is kept at the end is right**, by induction on the scores that are still to come. -/
theorem kept_bestFrom : ∀ {scores seen : List β} {best : Option (Nat × β)},
    Comparable le threshold (seen ++ scores) → Kept le threshold seen best →
      Kept le threshold (seen ++ scores) (bestFrom le threshold best seen.length scores)
  | [], seen, best, _, hbest => by rwa [List.append_nil]
  | score :: scores, seen, best, hc, hbest => by
    have happend : seen ++ score :: scores = seen ++ [score] ++ scores := by simp
    have hstep : Kept le threshold (seen ++ [score])
        (better le threshold best seen.length score) :=
      kept_better (hc.of_subset (happend ▸ List.subset_append_left _ _)) hbest
    rw [happend] at hc ⊢
    have hrun := kept_bestFrom hc hstep
    rwa [List.length_append] at hrun

theorem kept_bestIndex (hc : Comparable le threshold scores) :
    Kept le threshold scores (bestFrom le threshold none 0 scores) :=
  @kept_bestFrom _ le threshold scores [] none hc (List.forall_mem_nil _)

/-! ### What is found -/

/-- There is one earliest best score at most. -/
theorem FirstBest.index_unique {top' : β} (h : FirstBest le threshold scores i top)
    (h' : FirstBest le threshold scores j top') : i = j := by
  have hbefore : ∀ {i j : Nat} {s t : β}, FirstBest le threshold scores i s →
      FirstBest le threshold scores j t → ¬i < j := by
    intro i j s t hs ht hij
    have hmem : s ∈ scores.take j :=
      List.mem_of_getElem? (by rw [List.getElem?_take_of_lt hij, hs.score])
    have hle := hs.greatest t ht.mem
    rw [ht.first s hmem] at hle
    cases hle
  exact Nat.le_antisymm (Nat.le_of_not_lt (hbefore h' h)) (Nat.le_of_not_lt (hbefore h h'))

/-- **The earliest best score above the threshold is found.** -/
theorem bestIndex_eq_some_iff (hc : Comparable le threshold scores) :
    bestIndex le threshold scores = some i ↔ ∃ top, FirstBest le threshold scores i top := by
  have hkept := kept_bestIndex hc
  rw [bestIndex]
  cases hbest : bestFrom le threshold none 0 scores with
  | none =>
    rw [hbest] at hkept
    constructor
    · rintro ⟨⟩
    · rintro ⟨top, h⟩
      have hle := hkept top h.mem
      rw [h.above] at hle
      cases hle
  | some found =>
    rw [hbest] at hkept
    rw [Option.map_some, Option.some.injEq]
    constructor
    · rintro rfl
      exact ⟨found.2, hkept⟩
    · rintro ⟨top, h⟩
      exact hkept.index_unique h

/-- **Nothing is found exactly if no score lies above the threshold.** -/
theorem bestIndex_eq_none_iff (hc : Comparable le threshold scores) :
    bestIndex le threshold scores = none ↔ ∀ s ∈ scores, le s threshold = true := by
  refine ⟨fun h => ?_, bestIndex_eq_none_of_all le threshold⟩
  have hkept := kept_bestIndex hc
  rwa [Option.map_eq_none_iff.1 h] at hkept

/-- A lower threshold finds the same, if the higher one finds anything. -/
theorem bestIndex_of_le (hc : Comparable le threshold scores) (hc' : Comparable le lower scores)
    (hle : le lower threshold = true) (h : bestIndex le threshold scores = some i) :
    bestIndex le lower scores = some i := by
  obtain ⟨top, htop⟩ := (bestIndex_eq_some_iff hc).1 h
  refine (bestIndex_eq_some_iff hc').2 ⟨top, htop.score, ?_, htop.greatest, htop.first⟩
  refine Bool.eq_false_iff.2 fun hlow => ?_
  have habove := htop.above
  rw [hc.trans hlow hle] at habove
  cases habove

/-- **A score that none exceeds is found where it first stands.** -/
theorem bestIndex_eq_findIdx? (hc : Comparable le threshold scores)
    (hfull : ∀ s ∈ scores, le s full = true) (habove : le full threshold = false)
    (hmem : ∃ s ∈ scores, le full s = true) :
    bestIndex le threshold scores = scores.findIdx? (le full) := by
  have hsome : (scores.findIdx? (le full)).isSome = true := by
    rw [List.findIdx?_isSome]
    exact List.any_eq_true.2 hmem
  obtain ⟨i, hi⟩ := Option.isSome_iff_exists.1 hsome
  rw [hi, bestIndex_eq_some_iff hc]
  obtain ⟨hlt, hreach, hbefore⟩ := List.findIdx?_eq_some_iff_getElem.1 hi
  refine ⟨scores[i], List.getElem?_eq_getElem hlt, ?_, fun s hs => ?_, fun s hs => ?_⟩
  · exact Bool.eq_false_iff.2 fun h => by simp [hc.trans hreach h] at habove
  · exact hc.trans (hfull s hs) hreach
  · obtain ⟨j, hj, rfl⟩ := List.mem_iff_getElem.1 hs
    rw [List.length_take] at hj
    rw [List.getElem_take]
    exact Bool.eq_false_iff.2 fun h => hbefore j (by omega) (hc.trans hreach h)

theorem findIdx?_congr {α : Type} {p q : α → Bool} {xs : List α} (h : ∀ x ∈ xs, p x = q x) :
    xs.findIdx? p = xs.findIdx? q := by
  induction xs with
  | nil => rfl
  | cons x xs ih =>
    obtain ⟨hx, hxs⟩ := List.forall_mem_cons.1 h
    rw [List.findIdx?_cons, List.findIdx?_cons, hx, ih hxs]

/-- The same of elements and their scores: the first one with the full score is found. -/
theorem bestIndex_map_eq_findIdx? {α : Type} {p : α → Bool} {f : α → β} {xs : List α}
    (hc : Comparable le threshold (xs.map f)) (hiff : ∀ x ∈ xs, le full (f x) = p x)
    (hfull : ∀ x ∈ xs, le (f x) full = true) (habove : le full threshold = false)
    (hmem : ∃ x ∈ xs, p x = true) : bestIndex le threshold (xs.map f) = xs.findIdx? p := by
  have hreach : ∃ s ∈ xs.map f, le full s = true := by
    obtain ⟨x, hx, hp⟩ := hmem
    exact ⟨f x, List.mem_map_of_mem hx, (hiff x hx).trans hp⟩
  rw [bestIndex_eq_findIdx? hc (List.forall_mem_map.2 hfull) habove hreach, List.findIdx?_map]
  exact findIdx?_congr hiff

end search

/-! ### Files -/

variable {query : Text} {candidates : List Candidate} {t : Binary64}

theorem similarity_normalForm_left (query label : Text) :
    similarity (normalForm query) label = similarity query label := by
  rw [similarity, similarity, normalForm_normalForm]

/-- The rounded scores of the labels. -/
def roundedScores (query : Text) (candidates : List Candidate) : List Binary64 :=
  candidates.map fun c => similarity query c.label

/-- The exact scores of the labels. -/
def exactScores (query : Text) (candidates : List Candidate) : List Rat :=
  candidates.map fun c => exactScore query c.label

theorem resolveIndex_eq (query : Text) (candidates : List Candidate) (t : Binary64) :
    resolveIndex query candidates t = bestIndex Binary64.le t (roundedScores query candidates) := by
  simp only [resolveIndex, roundedScores, similarity_normalForm_left]

/-- The search over exact scores. -/
def resolveIndexExactly (query : Text) (candidates : List Candidate) (t : Rat) : Option Nat :=
  bestIndex (fun x y => decide (x ≤ y)) t (exactScores query candidates)

theorem comparable_roundedScores (ht : t ≠ .nan) :
    Comparable Binary64.le t (roundedScores query candidates) where
  total := by
    have hne : ∀ s ∈ t :: roundedScores query candidates, s ≠ .nan := by
      refine List.forall_mem_cons.2 ⟨ht, List.forall_mem_map.2 fun c _ => ?_⟩
      obtain ⟨u, -, hu⟩ := exists_similarity query c.label
      rw [hu]
      nofun
    exact fun s hs s' hs' => Binary64.le_total (hne s hs) (hne s' hs')
  trans := Binary64.le_trans

theorem comparable_exactScores (t : Rat) (xs : List Rat) :
    Comparable (fun x y => decide (x ≤ y)) t xs where
  total s _ s' _ := by simpa using le_total s s'
  trans h h' := by simpa using le_trans (of_decide_eq_true h) (of_decide_eq_true h')

theorem ne_nan_of_inUnitInterval (ht : t.inUnitInterval = true) : t ≠ .nan := by
  rintro rfl
  exact absurd ht (by decide)

/-- A label with the normal form of the name is found first of all, unless there is no score above
the threshold. -/
theorem resolveIndex_of_normalForm (ht : t ≠ .nan)
    (hone : Binary64.le (.finite false Binary64.one) t = false)
    (hlen : ∀ c ∈ candidates, longest (normalForm query) (normalForm c.label) ≤ 2 ^ 53)
    (hmem : ∃ c ∈ candidates, normalForm query = normalForm c.label) :
    resolveIndex query candidates t =
      candidates.findIdx? fun c => normalForm query = normalForm c.label := by
  rw [resolveIndex_eq]
  refine bestIndex_map_eq_findIdx? (comparable_roundedScores ht) (fun c hc => ?_) (fun c _ => ?_)
    hone (by simpa using hmem)
  · rw [Bool.eq_iff_iff, one_le_similarity_iff (hlen c hc), decide_eq_true_iff]
  · obtain ⟨u, hu, heq⟩ := exists_similarity query c.label
    rw [heq, Binary64.le_finite_iff]
    exact hu

/-- The search among exact scores finds such a label whatever its length. -/
theorem resolveIndexExactly_of_normalForm {x : Rat} (hone : x < 1)
    (hmem : ∃ c ∈ candidates, normalForm query = normalForm c.label) :
    resolveIndexExactly query candidates x =
      candidates.findIdx? fun c => normalForm query = normalForm c.label := by
  refine bestIndex_map_eq_findIdx? (comparable_exactScores x _) (fun c _ => ?_)
    (fun c _ => decide_eq_true (exactScore_le_one _ _)) (by simpa using hone) (by simpa using hmem)
  rw [decide_eq_decide, ← exactScore_eq_one_iff]
  exact ⟨(exactScore_le_one _ _).antisymm, fun h => h.ge⟩

/-- A candidate is found exactly at the index of an earliest best score. -/
theorem resolve_eq_some_iff (ht : t ≠ .nan) {file : Candidate} :
    resolve query candidates t = some file ↔
      ∃ i top, FirstBest Binary64.le t (roundedScores query candidates) i top ∧
        candidates[i]? = some file := by
  rw [resolve, Option.bind_eq_some_iff]
  simp only [resolveIndex_eq, bestIndex_eq_some_iff (comparable_roundedScores ht), exists_and_right]

theorem resolve_eq_none_iff (ht : t ≠ .nan) :
    resolve query candidates t = none ↔
      ∀ c ∈ candidates, (similarity query c.label).le t = true := by
  have hindex : resolve query candidates t = none ↔ resolveIndex query candidates t = none := by
    rw [resolve, Option.bind_eq_none_iff]
    constructor
    · intro h
      by_contra hsome
      obtain ⟨i, hi⟩ := Option.ne_none_iff_exists'.1 hsome
      -- an index that is found is the index of a candidate
      have hbest := hi
      rw [resolveIndex_eq, bestIndex_eq_some_iff (comparable_roundedScores ht)] at hbest
      obtain ⟨top, htop⟩ := hbest
      have hlt := htop.lt_length
      rw [roundedScores, List.length_map] at hlt
      have hnone := h i hi
      rw [List.getElem?_eq_getElem hlt] at hnone
      cases hnone
    · intro h i hi
      rw [h] at hi
      cases hi
  rw [hindex, resolveIndex_eq, bestIndex_eq_none_iff (comparable_roundedScores ht), roundedScores,
    List.forall_mem_map]

/-- **The file that is found.**  With a threshold that settings may hold, the candidate at an index
is found exactly if its score lies above the threshold, no candidate has a greater one, and all
before it have smaller ones; nothing is found exactly if no score lies above the threshold.  A lower
threshold never changes what is found.  Below a threshold of one, the first label that is the name
up to case and blanks is found, as long as no name has more than `2 ^ 53` characters.  All of it
holds of the search among exact scores too, whatever the length of the names. -/
theorem resolve_firstBest (query : Text) (candidates : List Candidate) {t : Binary64}
    (ht : t.inUnitInterval = true) :
    (∀ i, resolveIndex query candidates t = some i ↔
      ∃ top, FirstBest Binary64.le t (roundedScores query candidates) i top) ∧
    (∀ file, resolve query candidates t = some file ↔
      ∃ i top, FirstBest Binary64.le t (roundedScores query candidates) i top ∧
        candidates[i]? = some file) ∧
    (resolve query candidates t = none ↔
      ∀ c ∈ candidates, (similarity query c.label).le t = true) ∧
    (∀ t' file, t'.inUnitInterval = true → t'.le t = true →
      resolve query candidates t = some file → resolve query candidates t' = some file) ∧
    (Binary64.le (.finite false Binary64.one) t = false →
      (∀ c ∈ candidates, longest (normalForm query) (normalForm c.label) ≤ 2 ^ 53) →
      (∃ c ∈ candidates, normalForm query = normalForm c.label) →
      resolve query candidates t =
        candidates.find? fun c => normalForm query = normalForm c.label) ∧
    ∀ x : Rat,
      (∀ i, resolveIndexExactly query candidates x = some i ↔
        ∃ top, FirstBest (fun y z => decide (y ≤ z)) x (exactScores query candidates) i top) ∧
      (resolveIndexExactly query candidates x = none ↔
        ∀ c ∈ candidates, exactScore query c.label ≤ x) ∧
      (∀ y i, y ≤ x → resolveIndexExactly query candidates x = some i →
        resolveIndexExactly query candidates y = some i) ∧
      (x < 1 → (∃ c ∈ candidates, normalForm query = normalForm c.label) →
        resolveIndexExactly query candidates x =
          candidates.findIdx? fun c => normalForm query = normalForm c.label) := by
  have hne := ne_nan_of_inUnitInterval ht
  refine ⟨fun i => ?_, fun file => resolve_eq_some_iff hne, resolve_eq_none_iff hne,
    fun t' file ht' hle h => ?_, fun hone hlen hmem => ?_, fun x => ⟨fun i => ?_, ?_, ?_,
      resolveIndexExactly_of_normalForm⟩⟩
  · rw [resolveIndex_eq, bestIndex_eq_some_iff (comparable_roundedScores hne)]
  · have hne' := ne_nan_of_inUnitInterval ht'
    obtain ⟨i, hi, hfile⟩ := Option.bind_eq_some_iff.1 h
    rw [resolveIndex_eq] at hi
    have hlow :=
      bestIndex_of_le (comparable_roundedScores hne) (comparable_roundedScores hne') hle hi
    rw [resolve, resolveIndex_eq, hlow]
    exact hfile
  · rw [resolve, resolveIndex_of_normalForm hne hone hlen hmem,
      List.find?_eq_bind_findIdx?_getElem?]
  · exact bestIndex_eq_some_iff (comparable_exactScores x _)
  · rw [resolveIndexExactly, bestIndex_eq_none_iff (comparable_exactScores x _), exactScores,
      List.forall_mem_map]
    simp only [decide_eq_true_eq]
  · intro y i hle h
    exact bestIndex_of_le (comparable_exactScores x _) (comparable_exactScores y _)
      (decide_eq_true hle) h

/-- Two labels that are the name up to case and blanks, behind one that is not. -/
theorem resolve_firstBest_readme :
    let query := "read me . md".toList
    let readme : Candidate := ⟨"README.md".toList, ⟨"README.md".toList⟩⟩
    let files : List Candidate := [⟨"main.py".toList, ⟨"main.py".toList⟩⟩, readme,
      ⟨"readme.md".toList, ⟨"docs/readme.md".toList⟩⟩]
    let quarter : Binary64 := .finite false (Nat.pow 2 1072)
    defaultThreshold.inUnitInterval = true ∧
      Binary64.le (.finite false Binary64.one) defaultThreshold = false ∧
      (∀ c ∈ files, longest (normalForm query) (normalForm c.label) ≤ 2 ^ 53) ∧
      (∃ c ∈ files, normalForm query = normalForm c.label) ∧
      resolve query files defaultThreshold = some readme ∧
      quarter.inUnitInterval = true ∧ quarter.le defaultThreshold = true ∧
      resolve query files quarter = some readme ∧
      (0 : Rat) ≤ 1 / 2 ∧ (1 : Rat) / 2 < 1 ∧
      resolveIndexExactly query files (1 / 2) = some 1 ∧
      resolveIndexExactly query files 0 = some 1 := by
  intro query readme files quarter
  have ht : defaultThreshold.inUnitInterval = true := by decide +kernel
  have hone : Binary64.le (.finite false Binary64.one) defaultThreshold = false := by decide +kernel
  have hlen : ∀ c ∈ files, longest (normalForm query) (normalForm c.label) ≤ 2 ^ 53 := by
    decide +kernel
  have hmem : ∃ c ∈ files, normalForm query = normalForm c.label := by decide +kernel
  have hquarter : quarter.inUnitInterval = true := by decide +kernel
  have hle : quarter.le defaultThreshold = true := by decide +kernel
  obtain ⟨-, -, -, hlower, hfirst, hexact⟩ := resolve_firstBest query files ht
  obtain ⟨-, -, hlower', hfirst'⟩ := hexact (1 / 2)
  have hfound : resolve query files defaultThreshold = some readme :=
    (hfirst hone hlen hmem).trans (by decide +kernel)
  have hfound' : resolveIndexExactly query files (1 / 2) = some 1 :=
    (hfirst' (by norm_num) hmem).trans (by decide +kernel)
  exact ⟨ht, hone, hlen, hmem, hfound, hquarter, hle, hlower _ _ hquarter hle hfound, by norm_num,
    by norm_num, hfound', hlower' _ _ (by norm_num) hfound'⟩

end SpokenEditor
