import SpokenEditor.Dictation.Interpret
import Mathlib.Data.List.Find
import Mathlib.Data.List.Infix

/-! # Cues in any order

One pass over the words replaces every cue at once; one may also replace the cues in turn.  Both
come to the same when the cues of the table do not get in each other's way, which is a matter of
the words they are made of:

* `IsDistinct`: no two begin with the same word, so that the order of the table does not matter for
  the pass (`substitute_perm`);
* `IsInert`: no literal is a word of a cue, so that nothing that was replaced is replaced again and
  no cue is left (`not_isInfix_substitute`);
* `IsOrdered`: no cue has the first word of an earlier one behind its own, so that a cue is not
  torn apart when an earlier one is replaced (`substitute_eq_replaceInTurn`). -/

namespace SpokenEditor
namespace Cue

/-- The words of a cue. -/
def words (c : Cue) : List Text :=
  c.first :: c.more

/-- No two cues begin with the same word. -/
def IsDistinct (cues : List Cue) : Prop :=
  cues.Pairwise fun c d => c.first ≠ d.first

/-- No literal is a word of a cue. -/
def IsInert (cues : List Cue) : Prop :=
  ∀ c ∈ cues, ∀ d ∈ cues, c.literal ∉ d.words

/-- No cue has the first word of an earlier cue behind its own. -/
def IsOrdered (cues : List Cue) : Prop :=
  cues.Pairwise fun c d => c.first ∉ d.more

variable {c d : Cue} {cues : List Cue} {word : Text} {rest ws us : List Text}

/-- A cue begins where its words stand. -/
theorem startsAt_iff : c.startsAt word rest = true ↔ c.words <+: word :: rest := by
  rw [startsAt, Bool.and_eq_true, beq_iff_eq, List.isPrefixOf_iff_prefix, words,
    List.cons_prefix_cons]

theorem first_eq_of_startsAt (h : c.startsAt word rest = true) : c.first = word :=
  (List.cons_prefix_cons.1 (startsAt_iff.1 h)).1

theorem startsAt_of_find? (h : (cues.find? fun c => c.startsAt word rest) = some d) :
    d ∈ cues ∧ d.startsAt word rest = true :=
  ⟨List.mem_of_find?_eq_some h, by simpa using List.find?_some h⟩

/-! ### The order of the table -/

/-- Of distinct cues the first that begins at a word is the only one. -/
theorem find?_startsAt_eq_some_iff : ∀ {cues : List Cue}, IsDistinct cues →
    ((cues.find? fun c => c.startsAt word rest) = some d ↔ d ∈ cues ∧ d.startsAt word rest = true)
  | [], _ => by simp
  | c :: cues, h => by
    obtain ⟨hc, hcues⟩ := List.pairwise_cons.1 h
    rw [List.find?_cons]
    split
    · next hstart =>
      constructor
      · rintro ⟨⟩
        exact ⟨List.mem_cons_self, hstart⟩
      · rintro ⟨hmem, hd⟩
        obtain rfl | hmem := List.mem_cons.1 hmem
        · rfl
        · have hfirst := (first_eq_of_startsAt hstart).trans (first_eq_of_startsAt hd).symm
          exact absurd hfirst (hc d hmem)
    · next hstart =>
      rw [find?_startsAt_eq_some_iff hcues]
      refine and_congr_left fun hd => ⟨List.mem_cons_of_mem c, fun hmem => ?_⟩
      obtain rfl | hmem := List.mem_cons.1 hmem
      · rw [hstart] at hd
        cases hd
      · exact hmem

theorem find?_startsAt_perm {cues' : List Cue} (hperm : cues'.Perm cues) (h : IsDistinct cues) :
    (cues'.find? fun c => c.startsAt word rest) = cues.find? fun c => c.startsAt word rest := by
  have h' : IsDistinct cues' := hperm.symm.pairwise h fun hne => hne.symm
  refine Option.ext fun d => ?_
  rw [find?_startsAt_eq_some_iff h, find?_startsAt_eq_some_iff h', hperm.mem_iff]

/-- **The order of the table does not matter for the pass.** -/
theorem substitute_perm {cues' : List Cue} (hperm : cues'.Perm cues) (h : IsDistinct cues)
    (ws : List Text) : substitute cues' ws = substitute cues ws := by
  fun_induction substitute cues ws with
  | case1 => rw [substitute_nil]
  | case2 word rest c hc ih =>
    rw [substitute_cons_of_some ((find?_startsAt_perm hperm h).trans hc), ih]
  | case3 word rest hnone ih =>
    rw [substitute_cons_of_none ((find?_startsAt_perm hperm h).trans hnone), ih]

/-! ### Nothing is replaced twice -/

/-- Words that are no literals stood where they stand after the pass. -/
theorem isPrefix_of_isPrefix_substitute (hus : ∀ c ∈ cues, c.literal ∉ us)
    (h : us <+: substitute cues ws) : us <+: ws := by
  fun_induction substitute cues ws generalizing us with
  | case1 => exact h
  | case2 word rest c hc ih =>
    cases us with
    | nil => exact List.nil_prefix
    | cons u us =>
      have hu : u = c.literal := (List.cons_prefix_cons.1 h).1
      exact absurd (hu ▸ List.mem_cons_self) (hus c (List.mem_of_find?_eq_some hc))
  | case3 word rest hnone ih =>
    cases us with
    | nil => exact List.nil_prefix
    | cons u us =>
      obtain ⟨hu, hrest⟩ := List.cons_prefix_cons.1 h
      exact List.cons_prefix_cons.2
        ⟨hu, ih (fun c hc hmem => hus c hc (List.mem_cons_of_mem u hmem)) hrest⟩

/-- **No cue is left after the pass**, neither a literal nor words that came together. -/
theorem not_isInfix_substitute (hinert : IsInert cues) (hd : d ∈ cues) (ws : List Text) :
    ¬d.words <:+: substitute cues ws := by
  fun_induction substitute cues ws with
  | case1 => simp [words]
  | case2 word rest c hc ih =>
    rw [List.infix_cons_iff, words, List.cons_prefix_cons]
    rintro (⟨hfirst, -⟩ | hinfix)
    · refine hinert c (List.mem_of_find?_eq_some hc) d hd ?_
      rw [words, hfirst]
      exact List.mem_cons_self
    · exact ih hinfix
  | case3 word rest hnone ih =>
    rw [List.infix_cons_iff]
    rintro (hbegins | hinfix)
    · -- its words stood there before the pass, which then would have replaced them
      rw [words, List.cons_prefix_cons] at hbegins
      have hmore : d.more <+: rest := isPrefix_of_isPrefix_substitute
        (fun c hc hmem => hinert c hc d hd (List.mem_cons_of_mem _ hmem)) hbegins.2
      have hstart := startsAt_iff.2 (List.cons_prefix_cons.2 ⟨hbegins.1, hmore⟩)
      exact List.find?_eq_none.1 hnone d hd hstart
    · exact ih hinfix

/-- Where no cue stands, the pass changes nothing. -/
theorem substitute_of_not_isInfix (h : ∀ c ∈ cues, ¬c.words <:+: ws) : substitute cues ws = ws := by
  fun_induction substitute cues ws with
  | case1 => rfl
  | case2 word rest c hc ih =>
    obtain ⟨hmem, hstart⟩ := startsAt_of_find? hc
    exact absurd (startsAt_iff.1 hstart).isInfix (h c hmem)
  | case3 word rest hnone ih =>
    rw [ih fun c hc hinfix => h c hc (List.infix_cons hinfix)]

/-! ### Cues in turn -/

theorem replaceAll_of_not_isInfix (h : ¬c.words <:+: ws) : c.replaceAll ws = ws := by
  fun_induction replaceAll c ws with
  | case1 => rfl
  | case2 word rest hstart ih => exact absurd (startsAt_iff.1 hstart).isInfix h
  | case3 word rest hstart ih => rw [ih fun hinfix => h (List.infix_cons hinfix)]

theorem replaceInTurn_of_not_isInfix : ∀ {cues : List Cue}, (∀ c ∈ cues, ¬c.words <:+: ws) →
    replaceInTurn cues ws = ws
  | [], _ => rfl
  | c :: cues, h => by
    obtain ⟨hc, hcues⟩ := List.forall_mem_cons.1 h
    have hstep : replaceInTurn (c :: cues) ws = replaceInTurn cues (c.replaceAll ws) := rfl
    rw [hstep, replaceAll_of_not_isInfix hc, replaceInTurn_of_not_isInfix hcues]

/-- Replacing a cue neither makes nor breaks a run of other words. -/
theorem isPrefix_replaceAll_iff (hfirst : c.first ∉ us) (hliteral : c.literal ∉ us) :
    us <+: c.replaceAll ws ↔ us <+: ws := by
  fun_induction replaceAll c ws generalizing us with
  | case1 => rfl
  | case2 word rest hstart ih =>
    cases us with
    | nil => simp
    | cons u us =>
      rw [List.mem_cons, not_or] at hfirst hliteral
      rw [List.cons_prefix_cons, List.cons_prefix_cons]
      refine iff_of_false (fun h => hliteral.1 h.1.symm) fun h => hfirst.1 ?_
      rw [h.1, first_eq_of_startsAt hstart]
  | case3 word rest hstart ih =>
    cases us with
    | nil => simp
    | cons u us =>
      rw [List.mem_cons, not_or] at hfirst hliteral
      rw [List.cons_prefix_cons, List.cons_prefix_cons, ih hfirst.2 hliteral.2]

/-- Replacing a cue leaves the words before its first one alone. -/
theorem replaceAll_append : ∀ {us : List Text}, c.first ∉ us →
    c.replaceAll (us ++ ws) = us ++ c.replaceAll ws
  | [], _ => rfl
  | u :: us, hfirst => by
    rw [List.mem_cons, not_or] at hfirst
    have hstart : ¬c.startsAt u (us ++ ws) = true := fun h => hfirst.1 (first_eq_of_startsAt h)
    rw [List.cons_append, replaceAll, if_neg hstart, replaceAll_append hfirst.2, List.cons_append]

/-- **The first cue of a table may be replaced before the others**, if none of them has its first
word behind their own or its literal anywhere. -/
theorem substitute_replaceAll (hne : ∀ d ∈ cues, c.first ∉ d.words)
    (hliteral : ∀ d ∈ cues, c.literal ∉ d.words) (ws : List Text) :
    substitute (c :: cues) ws = substitute cues (c.replaceAll ws) := by
  -- the other cues begin at the same words as before
  have hfind : ∀ word rest, (cues.find? fun d => d.startsAt word (c.replaceAll rest)) =
      cues.find? fun d => d.startsAt word rest := fun word rest =>
    List.find?_congr fun d hd => by
      have hfirst := List.not_mem_of_not_mem_cons (hne d hd)
      have hlit := List.not_mem_of_not_mem_cons (hliteral d hd)
      rw [Bool.eq_iff_iff, startsAt_iff, startsAt_iff, words, List.cons_prefix_cons,
        List.cons_prefix_cons, isPrefix_replaceAll_iff hfirst hlit]
  fun_induction substitute (c :: cues) ws with
  | case1 => rw [replaceAll, substitute_nil]
  | case2 word rest d hd ih =>
    rw [List.find?_cons] at hd
    cases hc : c.startsAt word rest with
    | true =>
      rw [hc] at hd
      obtain rfl := Option.some.inj hd
      have hnone : (cues.find? fun d => d.startsAt c.literal
          (c.replaceAll (rest.drop c.more.length))) = none :=
        List.find?_eq_none.2 fun d hd hstart =>
          hliteral d hd (first_eq_of_startsAt hstart ▸ List.mem_cons_self)
      rw [replaceAll, if_pos hc, substitute_cons_of_none hnone, ih]
    | false =>
      rw [hc] at hd
      obtain ⟨hmem, hstart⟩ := startsAt_of_find? hd
      obtain ⟨-, tail, rfl⟩ := List.cons_prefix_cons.1 (startsAt_iff.1 hstart)
      have hfirst := List.not_mem_of_not_mem_cons (hne d hmem)
      rw [List.drop_left] at ih ⊢
      rw [replaceAll, if_neg (by simp [hc]), substitute_cons_of_some ((hfind word _).trans hd),
        replaceAll_append hfirst, List.drop_left, ih]
  | case3 word rest hnone ih =>
    obtain ⟨hc, hcues⟩ : ¬c.startsAt word rest = true ∧
        (cues.find? fun d => d.startsAt word rest) = none := by
      rw [List.find?_eq_none, List.forall_mem_cons] at hnone
      exact ⟨hnone.1, List.find?_eq_none.2 hnone.2⟩
    rw [replaceAll, if_neg hc, substitute_cons_of_none ((hfind word rest).trans hcues), ih]

/-- **One pass is as good as one pass for each cue**, by induction on the table. -/
theorem substitute_eq_replaceInTurn : ∀ {cues : List Cue}, IsDistinct cues → IsInert cues →
    IsOrdered cues → ∀ ws, substitute cues ws = replaceInTurn cues ws
  | [], _, _, _, _ => substitute_of_not_isInfix (List.forall_mem_nil _)
  | c :: cues, hdistinct, hinert, hordered, ws => by
    obtain ⟨hfirst, hdistinct⟩ := List.pairwise_cons.1 hdistinct
    obtain ⟨hmore, hordered⟩ := List.pairwise_cons.1 hordered
    have hne : ∀ d ∈ cues, c.first ∉ d.words := fun d hd hmem =>
      (List.mem_cons.1 hmem).elim (hfirst d hd) (hmore d hd)
    have hliteral : ∀ d ∈ cues, c.literal ∉ d.words := fun d hd =>
      hinert c List.mem_cons_self d (List.mem_cons_of_mem c hd)
    have hrest : IsInert cues := fun d hd e he =>
      hinert d (List.mem_cons_of_mem c hd) e (List.mem_cons_of_mem c he)
    calc substitute (c :: cues) ws
        = substitute cues (c.replaceAll ws) := substitute_replaceAll hne hliteral ws
      _ = replaceInTurn cues (c.replaceAll ws) :=
        substitute_eq_replaceInTurn hdistinct hrest hordered _
      _ = replaceInTurn (c :: cues) ws := rfl

end Cue

/-! ### The cues in use -/

theorem isDistinct_spokenCues : Cue.IsDistinct spokenCues := by
  unfold Cue.IsDistinct
  decide +kernel

theorem isInert_spokenCues : Cue.IsInert spokenCues := by
  unfold Cue.IsInert
  decide +kernel

theorem isOrdered_spokenCues : Cue.IsOrdered spokenCues := by
  unfold Cue.IsOrdered
  decide +kernel

/-- **The cues may be replaced in any order.**  The words of a phrase with the cues replaced in one
pass are the words with the cues replaced in turn, each everywhere before the next one; they are the
same for every order of the table; and no cue is left among them, so that replacing cues again
changes nothing. -/
theorem dictatedWords_anyOrder (phrase : Text) :
    dictatedWords phrase = Cue.replaceInTurn spokenCues (Text.words (Text.lowercase phrase)) ∧
    (∀ cues, cues.Perm spokenCues →
      Cue.substitute cues (Text.words (Text.lowercase phrase)) = dictatedWords phrase) ∧
    (∀ c ∈ spokenCues, ¬c.words <:+: dictatedWords phrase) ∧
    Cue.substitute spokenCues (dictatedWords phrase) = dictatedWords phrase ∧
    Cue.replaceInTurn spokenCues (dictatedWords phrase) = dictatedWords phrase := by
  have hnone : ∀ c ∈ spokenCues, ¬c.words <:+: dictatedWords phrase := fun c hc =>
    Cue.not_isInfix_substitute isInert_spokenCues hc _
  exact ⟨Cue.substitute_eq_replaceInTurn isDistinct_spokenCues isInert_spokenCues
    isOrdered_spokenCues _, fun cues hperm => Cue.substitute_perm hperm isDistinct_spokenCues _,
    hnone, Cue.substitute_of_not_isInfix hnone, Cue.replaceInTurn_of_not_isInfix hnone⟩

/-- The words of two cues that overlap, and the table from its end. -/
theorem dictatedWords_anyOrder_quotes :
    let phrase := "Single single QUOTE quote line".toList
    spokenCues.reverse.Perm spokenCues ∧
      Cue.substitute spokenCues.reverse (Text.words (Text.lowercase phrase)) =
        ["single".toList, ['\x27'], ['\x22'], ['\n']] ∧
      ⟨"single".toList, ["quote".toList], ['\x27']⟩ ∈ spokenCues ∧
      ¬["single".toList, "quote".toList] <:+: dictatedWords phrase := by
  intro phrase
  obtain ⟨-, hperm, hnone, -⟩ := dictatedWords_anyOrder phrase
  have hreverse : spokenCues.reverse.Perm spokenCues := List.reverse_perm _
  have hmem : ⟨"single".toList, ["quote".toList], ['\x27']⟩ ∈ spokenCues := List.mem_cons_self
  exact ⟨hreverse, (hperm _ hreverse).trans (by decide +kernel), hmem, hnone _ hmem⟩

end SpokenEditor
