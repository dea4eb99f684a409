import SpokenEditor.Proofs.LoginNames
import SpokenEditor.Proofs.Words

/-! # Login names word by word

The words of a spoken login are put together before its dots are looked for.  So a login is cleaned
word by word only as far as no `dot` begins in one word and ends in a later one: letters that meet
where words do become a dot as well, and then the names of the words are cleaned once more together.

* `spokenDots_cons_spokenDots`: what is replaced behind a character may be replaced first;
* `spokenDots_flatten`: so may all that is replaced in the parts of a text;
* `cleanLogin_joinWords`: a login is what is left of the names of its words, put together;
* `Text.isInfix_flatten_iff_across`: what stands in no part begins in one and ends in a later one;
* `cleanLogin_wordByWord`: where a login is cleaned word by word. -/

namespace SpokenEditor

/-! ### Replacing the dots of the parts first -/

/-- What is replaced behind a character may be replaced first. -/
theorem spokenDots_cons_spokenDots (c : Char) (t : Text) :
    spokenDots (c :: spokenDots t) = spokenDots (c :: t) := by
  by_cases hdot : ∃ r, c = 'd' ∧ t = 'o' :: 't' :: r
  · obtain ⟨r, rfl, rfl⟩ := hdot
    have hot : spokenDots ('o' :: 't' :: r) = 'o' :: 't' :: spokenDots r := by
      rw [spokenDots.eq_2 _ _ (by simp), spokenDots.eq_2 _ _ (by simp)]
    rw [hot, spokenDots, spokenDots, spokenDots_spokenDots]
  · have hraw : ∀ r, c = 'd' → t = 'o' :: 't' :: r → False := by
      intro r hc ht
      exact hdot ⟨r, hc, ht⟩
    have hdone : ∀ r, c = 'd' → spokenDots t = 'o' :: 't' :: r → False := by
      intro r hc ht
      obtain ⟨u, hu⟩ := exists_of_spokenDots_eq_ot ht
      exact hraw u hc hu
    rw [spokenDots.eq_2 _ _ hdone, spokenDots.eq_2 _ _ hraw, spokenDots_spokenDots]

theorem spokenDots_append_spokenDots (u v : Text) :
    spokenDots (u ++ spokenDots v) = spokenDots (u ++ v) := by
  induction u with
  | nil => exact spokenDots_spokenDots v
  | cons c u ih =>
      rw [List.cons_append, List.cons_append, ← spokenDots_cons_spokenDots, ih,
        spokenDots_cons_spokenDots]

theorem spokenDots_spokenDots_append (u v : Text) :
    spokenDots (spokenDots u ++ v) = spokenDots (u ++ v) := by
  fun_induction spokenDots u with
  | case1 u ih =>
      have hdot : ∀ w, spokenDots ('.' :: w) = '.' :: spokenDots w := fun w =>
        spokenDots.eq_2 _ _ (by simp)
      rw [List.cons_append, hdot, ih]
      rfl
  | case2 c u _ ih =>
      rw [List.cons_append, List.cons_append, ← spokenDots_cons_spokenDots, ih,
        spokenDots_cons_spokenDots]
  | case3 => rfl

/-- **The dots of the parts of a text may be replaced first.** -/
theorem spokenDots_flatten (ts : List Text) :
    spokenDots (ts.map spokenDots).flatten = spokenDots ts.flatten := by
  induction ts with
  | nil => rfl
  | cons t ts ih =>
      rw [List.map_cons, List.flatten_cons, List.flatten_cons, spokenDots_spokenDots_append,
        ← spokenDots_append_spokenDots, ih, spokenDots_append_spokenDots]

/-! ### What stands across the parts of a text -/

namespace Text

/-- `Across p ts`: where the texts are put together, a `p` begins in one of them and ends in a later
one. -/
def Across (p : Text) (ts : List Text) : Prop :=
  ∃ us vs a b, ts = us ++ vs ∧ p = a ++ b ∧ a ≠ [] ∧ b ≠ [] ∧ a <:+ us.flatten ∧ b <+: vs.flatten

/-- What stands in no part of a text begins in one of them and ends in a later one, by induction on
the parts. -/
theorem isInfix_flatten_iff_across {p : Text} {ts : List Text} (hp : p ≠ [])
    (hparts : ∀ t ∈ ts, ¬p <:+: t) : p <:+: ts.flatten ↔ Across p ts := by
  constructor
  · intro h
    induction ts with
    | nil => exact absurd (List.eq_nil_of_infix_nil h) hp
    | cons t ts ih =>
        rw [List.forall_mem_cons] at hparts
        rw [List.flatten_cons] at h
        obtain h | h | ⟨a, b, ha, hb, hab, hat, hbt⟩ := List.infix_append_iff_ne_nil.1 h
        · exact absurd h hparts.1
        · obtain ⟨us, vs, a, b, rfl, hab, ha, hb, hau, hbv⟩ := ih hparts.2 h
          exact ⟨t :: us, vs, a, b, rfl, hab, ha, hb, hau.trans (List.suffix_append t _), hbv⟩
        · exact ⟨[t], ts, a, b, rfl, hab, ha, hb, by simpa using hat, hbt⟩
  · rintro ⟨us, vs, a, b, rfl, hab, ha, hb, hau, hbv⟩
    rw [List.flatten_append]
    exact List.infix_append_iff_ne_nil.2 (.inr (.inr ⟨a, b, ha, hb, hab, hau, hbv⟩))

end Text

/-! ### The names of the words -/

/-- **A login is what is left of the names of its words when they are put together.** -/
theorem cleanLogin_joinWords (words : List Text) :
    cleanLogin (Text.joinWords words) = spokenDots (words.map cleanLogin).flatten := by
  have hparts : words.map cleanLogin =
      (words.map fun w => (w.filter isLoginChar).map Char.toLower).map spokenDots := by
    rw [List.map_map]
    rfl
  have hletters : ((Text.joinWords words).filter isLoginChar).map Char.toLower =
      (words.map fun w => (w.filter isLoginChar).map Char.toLower).flatten := by
    rw [Text.filter_joinWords rfl, List.filter_flatten, List.map_flatten, List.map_map]
    rfl
  rw [hparts, spokenDots_flatten, ← hletters, cleanLogin]

/-- **Where a login is cleaned word by word.**  The login is what is left when the names of its
words are put together and the dots of that are replaced once more.  So it is these names one behind
the other exactly if no `dot` begins in one of them and ends in a later one; where one does, letters
that were said in different words have become a dot. -/
theorem cleanLogin_wordByWord (words : List Text) :
    let names := words.map cleanLogin
    cleanLogin (Text.joinWords words) = spokenDots names.flatten ∧
      (cleanLogin (Text.joinWords words) = names.flatten ↔ ¬Text.Across "dot".toList names) := by
  intro names
  have hlogin : cleanLogin (Text.joinWords words) = spokenDots names.flatten :=
    cleanLogin_joinWords words
  have hparts : ∀ t ∈ names, ¬"dot".toList <:+: t := by
    intro t ht
    obtain ⟨w, -, rfl⟩ := List.mem_map.1 ht
    exact (isLoginName_cleanLogin w).noDot
  refine ⟨hlogin, ?_⟩
  rw [hlogin, spokenDots_eq_self_iff, Text.isInfix_flatten_iff_across (by decide) hparts]

/-- A word that ends with `do` before a word that begins with `t`: nobody said `dot`. -/
theorem cleanLogin_avocado_tree :
    let words := ["avocado".toList, "tree".toList]
    (∀ w ∈ words, w ≠ [] ∧ ∀ c ∈ w, Text.isBlank c = false) ∧
      words.map cleanLogin = words ∧
      cleanLogin (Text.joinWords words) = "avoca.ree".toList ∧
      cleanLogin (Text.joinWords words) ≠ (words.map cleanLogin).flatten := by
  intro words
  have hplain : ∀ w ∈ words, w ≠ [] ∧ w.all (fun c => !Text.isBlank c) = true := by decide
  refine ⟨fun w hw => ⟨(hplain w hw).1, fun c hc => ?_⟩, by decide, by decide, by decide⟩
  simpa using List.all_eq_true.1 (hplain w hw).2 c hc

end SpokenEditor
