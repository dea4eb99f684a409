import Mathlib.Data.List.Forall2
import SpokenEditor.Proofs.BestMatch

/-! # Normal forms are all that counts

A spoken name and the labels of the files are compared in their normal forms only.  The name is even
put into its normal form twice, and because a normal form is its own this changes no score.  So names
with the same normal form find the same file, and names with different ones can be told apart by a
score.

* `similarity_congr`, `exactScore_congr`: the scores of names with the same normal forms;
* `forall_exactScore_eq_iff`: equal scores with every label mean equal normal forms;
* `resolveIndex_congr`, `resolveIndexExactly_congr`: what is found among files with the same normal
  forms;
* `resolve_seesNormalForms`: all of it, and that the file is found in both cases. -/

namespace SpokenEditor

/-! ### Scores -/

section scores

variable {a a' b b' : Text}

theorem similarity_congr (ha : normalForm a = normalForm a') (hb : normalForm b = normalForm b') :
    similarity a b = similarity a' b' := by
  rw [similarity, similarity, ha, hb]

theorem exactScore_congr (ha : normalForm a = normalForm a') (hb : normalForm b = normalForm b') :
    exactScore a b = exactScore a' b' := by
  rw [exactScore, exactScore, ha, hb]

/-- **Scores tell names with different normal forms apart**: with the name itself as a label, only
its own normal form has the score one. -/
theorem forall_exactScore_eq_iff :
    (∀ label, exactScore a label = exactScore b label) ↔ normalForm a = normalForm b := by
  constructor
  · intro h
    have hself : exactScore a a = 1 := (exactScore_eq_one_iff a a).2 rfl
    exact ((exactScore_eq_one_iff b a).1 ((h a).symm.trans hself)).symm
  · exact fun h label => exactScore_congr h rfl

end scores

/-! ### Files -/

/-- The labels have the same normal form. -/
def Candidate.SameForm (c c' : Candidate) : Prop :=
  normalForm c.label = normalForm c'.label

variable {query query' : Text} {candidates candidates' : List Candidate}

/-- What is computed from normal forms is the same of all files. -/
theorem map_label_congr {β : Type} {f f' : Text → β}
    (hf : ∀ l l', normalForm l = normalForm l' → f l = f' l')
    (hc : List.Forall₂ Candidate.SameForm candidates candidates') :
    (candidates.map fun c => f c.label) = candidates'.map fun c => f' c.label := by
  induction hc with
  | nil => rfl
  | cons hlabel _ ih => rw [List.map_cons, List.map_cons, hf _ _ hlabel, ih]

theorem resolveIndex_congr (hq : normalForm query = normalForm query')
    (hc : List.Forall₂ Candidate.SameForm candidates candidates') (t : Binary64) :
    resolveIndex query candidates t = resolveIndex query' candidates' t := by
  have hscores : roundedScores query candidates = roundedScores query' candidates' :=
    map_label_congr (fun _ _ hl => similarity_congr hq hl) hc
  rw [resolveIndex_eq, hscores, resolveIndex_eq]

theorem resolveIndexExactly_congr (hq : normalForm query = normalForm query')
    (hc : List.Forall₂ Candidate.SameForm candidates candidates') (x : Rat) :
    resolveIndexExactly query candidates x = resolveIndexExactly query' candidates' x := by
  have hscores : exactScores query candidates = exactScores query' candidates' :=
    map_label_congr (fun _ _ hl => exactScore_congr hq hl) hc
  rw [resolveIndexExactly, hscores, resolveIndexExactly]

/-- **Only normal forms count when a file is looked for.**  A normal form is its own normal form.
The scores of two names, rounded or exact, are those of their normal forms, so it changes no score
that the name is put into its normal form before the search; and the exact scores of two names agree
with every label exactly if their normal forms do.  Hence, whatever the threshold is, the same index
is found when the name and any of the labels are replaced by others with the same normal forms, and
the file is the one that stands there now; the same holds of the search among exact scores. -/
theorem resolve_seesNormalForms :
    (∀ t, normalForm (normalForm t) = normalForm t) ∧
    (∀ a b, similarity (normalForm a) (normalForm b) = similarity a b ∧
      exactScore (normalForm a) (normalForm b) = exactScore a b ∧
      similarity (normalForm a) b = similarity a b) ∧
    (∀ a b, (∀ label, exactScore a label = exactScore b label) ↔ normalForm a = normalForm b) ∧
    ∀ query query' candidates candidates', normalForm query = normalForm query' →
      List.Forall₂ Candidate.SameForm candidates candidates' →
      (∀ t, resolveIndex query' candidates' t = resolveIndex query candidates t ∧
        resolve query' candidates' t =
          (resolveIndex query candidates t).bind fun i => candidates'[i]?) ∧
      ∀ x, resolveIndexExactly query' candidates' x = resolveIndexExactly query candidates x := by
  refine ⟨normalForm_normalForm, fun a b => ⟨?_, ?_, similarity_normalForm_left a b⟩,
    fun _ _ => forall_exactScore_eq_iff, ?_⟩
  · exact similarity_congr (normalForm_normalForm a) (normalForm_normalForm b)
  · exact exactScore_congr (normalForm_normalForm a) (normalForm_normalForm b)
  · intro query query' candidates candidates' hq hc
    refine ⟨fun t => ?_, fun x => (resolveIndexExactly_congr hq hc x).symm⟩
    have hindex := resolveIndex_congr hq hc t
    exact ⟨hindex.symm, by rw [resolve, hindex]⟩

/-- A name with other blanks and a label with other capitals, one of them the dotted `İ`. -/
theorem resolve_seesNormalForms_dotted :
    let files : List Candidate :=
      [⟨"utils.py".toList, ⟨"a".toList⟩⟩, ⟨"İndex.md".toList, ⟨"b".toList⟩⟩]
    let files' : List Candidate :=
      [⟨"UTILS . py".toList, ⟨"c".toList⟩⟩, ⟨"i\u0307ndex.MD".toList, ⟨"d".toList⟩⟩]
    normalForm "index.md".toList = normalForm "Index . MD".toList ∧
      List.Forall₂ Candidate.SameForm files files' ∧
      resolveIndex "index.md".toList files defaultThreshold = some 1 ∧
      resolve "Index . MD".toList files' defaultThreshold =
        some ⟨"i\u0307ndex.MD".toList, ⟨"d".toList⟩⟩ := by
  intro files files'
  have hq : normalForm "index.md".toList = normalForm "Index . MD".toList := by decide +kernel
  have hutils : Candidate.SameForm ⟨"utils.py".toList, ⟨"a".toList⟩⟩
      ⟨"UTILS . py".toList, ⟨"c".toList⟩⟩ := by
    show normalForm _ = normalForm _
    decide +kernel
  have hindex : Candidate.SameForm ⟨"İndex.md".toList, ⟨"b".toList⟩⟩
      ⟨"i\u0307ndex.MD".toList, ⟨"d".toList⟩⟩ := by
    show normalForm _ = normalForm _
    decide +kernel
  have hc : List.Forall₂ Candidate.SameForm files files' := .cons hutils (.cons hindex .nil)
  have hfound : resolveIndex "index.md".toList files defaultThreshold = some 1 := by decide +kernel
  obtain ⟨hresolve, -⟩ := resolve_seesNormalForms.2.2.2 _ _ _ _ hq hc
  refine ⟨hq, hc, hfound, ?_⟩
  rw [(hresolve defaultThreshold).2, hfound]
  rfl

end SpokenEditor
