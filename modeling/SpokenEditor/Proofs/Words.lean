import SpokenEditor.Proofs.Lowering

/-! # Words

A blank parts the words of a text, and a text without blanks is one word.  What
else there is to say of words follows from these two facts by cutting a text at its first blank.

* `words_append_blank`, `words_of_forall`: the two facts;
* `isBlank_of_mem_words`: no word has a blank;
* `words_lowercase`: lowering acts word by word, a final sigma included;
* `words_eq_nil_iff`, `words_trim`: a text of blanks has no words, and trimming removes none;
* `getLast?_joinWords`, `head?_joinWords`, `joinWords_append`, `filter_joinWords`: joining words
  with spaces. -/

namespace SpokenEditor.Text

variable {c : Char} {s t w : Text} {us vs : List Text}

/-! ### Cutting at a blank -/

theorem words_cons_blank (hc : isBlank c = true) (t : Text) : words (c :: t) = words t := by
  rw [words.eq_2, if_pos hc]

/-- A text with a character that is no blank has words. -/
theorem words_cons_ne_nil (hc : isBlank c = false) (t : Text) : words (c :: t) ≠ [] := by
  rw [words.eq_2, if_neg (by simp [hc])]
  split
  · split <;> exact List.cons_ne_nil _ _
  · exact List.cons_ne_nil _ _

/-- **A blank parts the words of a text.** -/
theorem words_append_blank (hc : isBlank c = true) (t : Text) :
    ∀ s : Text, words (s ++ c :: t) = words s ++ words t
  | [] => words_cons_blank hc t
  | d :: s => by
    have ih := words_append_blank hc t s
    by_cases hd : isBlank d = true
    · rw [List.cons_append, words_cons_blank hd, words_cons_blank hd, ih]
    · rw [List.cons_append, words.eq_2, words.eq_2, if_neg hd, if_neg hd, ih]
      cases s with
      | nil =>
        -- the word that ends with `d` is followed by the blank `c`
        cases hwords : words t with
        | nil => rfl
        | cons w ws => simp [words, hc]
      | cons e s =>
        cases hs : words (e :: s) with
        | cons w ws =>
          simp only [List.cons_append, List.head?_cons]
          split <;> rfl
        | nil =>
          have he : isBlank e = true := by
            by_contra he
            exact words_cons_ne_nil (Bool.not_eq_true _ ▸ he) s hs
          cases hwords : words t with
          | nil => rfl
          | cons w ws => simp [he]

/-- **A text without blanks is one word.** -/
theorem words_of_forall : ∀ {t : Text}, t ≠ [] → (∀ c ∈ t, isBlank c = false) → words t = [t]
  | [], h, _ => absurd rfl h
  | [c], _, h => by
    have hc := h c List.mem_cons_self
    simp [words, hc]
  | c :: d :: t, _, h => by
    obtain ⟨hc, hd, ht⟩ := List.forall_mem_cons.1 h |>.imp_right List.forall_mem_cons.1
    have ih := words_of_forall (List.cons_ne_nil d t) (List.forall_mem_cons.2 ⟨hd, ht⟩)
    rw [words.eq_2, if_neg (by simp [hc]), ih]
    simp [hd]

/-- Induction on a text, cut at its first blank. -/
theorem cut_induction {P : Text → Prop} (word : ∀ t, (∀ c ∈ t, isBlank c = false) → P t)
    (blank : ∀ s c t, (∀ d ∈ s, isBlank d = false) → isBlank c = true → P t → P (s ++ c :: t))
    (t : Text) : P t := by
  induction hn : t.length using Nat.strongRecOn generalizing t with
  | _ n ih =>
    cases h : t.find? isBlank with
    | none => exact word t fun c hc => Bool.eq_false_iff.2 (List.find?_eq_none.1 h c hc)
    | some c =>
      obtain ⟨hc, s, r, rfl, hs⟩ := List.find?_eq_some_iff_append.1 h
      have hlt : r.length < n := by
        rw [← hn, List.length_append, List.length_cons]
        omega
      exact blank s c r (fun d hd => by simpa using hs d hd) hc (ih _ hlt r rfl)

/-- No word has a blank. -/
theorem isBlank_of_mem_words (hw : w ∈ words t) : ∀ c ∈ w, isBlank c = false := by
  have hone : ∀ {t : Text}, (∀ c ∈ t, isBlank c = false) → w ∈ words t → w = t := by
    intro t ht hw
    by_cases hne : t = []
    · subst hne
      cases hw
    · rw [words_of_forall hne ht] at hw
      exact List.mem_singleton.1 hw
  induction t using cut_induction with
  | word t ht => exact hone ht hw ▸ ht
  | blank s c t hs hc ih =>
    rw [words_append_blank hc, List.mem_append] at hw
    obtain hw | hw := hw
    · exact hone hs hw ▸ hs
    · exact ih hw

/-- **Lowering acts word by word**, since no blank lets a final sigma see past it. -/
theorem words_lowercase (t : Text) : words (lowercase t) = (words t).map lowercase := by
  have hone : ∀ {t : Text}, (∀ c ∈ t, isBlank c = false) →
      words (lowercase t) = (words t).map lowercase := by
    intro t ht
    by_cases hne : t = []
    · subst hne
      rfl
    · rw [words_of_forall hne ht, words_of_forall (lowercase_ne_nil hne)
        fun c => isBlank_of_mem_lowercase ht]
      rfl
  induction t using cut_induction with
  | word t ht => exact hone ht
  | blank s c t hs hc ih =>
    rw [lowercase_append_blank hc, words_append_blank hc, words_append_blank hc, List.map_append,
      hone hs, ih]

/-! ### Blanks at the ends -/

theorem words_trimStart : ∀ t : Text, words (trimStart t) = words t
  | [] => rfl
  | c :: t => by
    rw [trimStart, List.dropWhile_cons]
    split
    · next hc =>
      rw [words_cons_blank hc]
      exact words_trimStart t
    · rfl

/-- A text has no words exactly if it has nothing but blanks. -/
theorem words_eq_nil_iff : words t = [] ↔ ∀ c ∈ t, isBlank c = true := by
  rw [← words_trimStart, ← trimStart_eq_nil_iff]
  constructor
  · intro h
    cases hd : trimStart t with
    | nil => rfl
    | cons c r =>
      have hc : isBlank c = false := by
        have hnot := List.head?_dropWhile_not isBlank t
        rwa [← trimStart, hd] at hnot
      rw [hd] at h
      exact absurd h (words_cons_ne_nil hc r)
  · intro h
    rw [h]
    rfl

theorem words_trimEnd (t : Text) : words (trimEnd t) = words t := by
  obtain ⟨u, hu⟩ : ∃ u, trimEnd t = u := ⟨_, rfl⟩
  obtain ⟨run, rfl, hrun, -⟩ := dropEndWhile_eq_iff.1 hu
  rw [hu]
  cases run with
  | nil => rw [List.append_nil]
  | cons c r =>
    obtain ⟨hc, hr⟩ := List.forall_mem_cons.1 hrun
    rw [words_append_blank hc, words_eq_nil_iff.2 hr, List.append_nil]

/-- Trimming removes no word. -/
theorem words_trim (t : Text) : words (trim t) = words t := by
  rw [trim, words_trimEnd, words_trimStart]

/-! ### Joining -/

theorem joinWords_append : ∀ {us vs : List Text}, us ≠ [] → vs ≠ [] →
    joinWords (us ++ vs) = joinWords us ++ ' ' :: joinWords vs
  | [], _, h, _ => absurd rfl h
  | [u], vs, _, h => by
    obtain ⟨v, vs, rfl⟩ := List.exists_cons_of_ne_nil h
    rw [joinWords, List.singleton_append, List.intercalate_cons_cons, joinWords,
      List.intercalate_singleton, List.append_assoc]
    rfl
  | u :: u' :: us, vs, _, h => by
    have ih := joinWords_append (List.cons_ne_nil u' us) h
    have hcons : ∀ ws, joinWords (u :: u' :: ws) = u ++ ' ' :: joinWords (u' :: ws) := fun ws => by
      rw [joinWords, List.intercalate_cons_cons, List.append_assoc]
      rfl
    rw [List.cons_append] at ih
    rw [List.cons_append, List.cons_append, hcons, hcons, ih, List.append_assoc, List.cons_append]

/-- A joined text begins as its first word. -/
theorem head?_joinWords (hw : w ≠ []) (us : List Text) : (joinWords (w :: us)).head? = w.head? := by
  cases us with
  | nil => rw [joinWords, List.intercalate_singleton]
  | cons u us =>
    rw [joinWords, List.intercalate_cons_cons, List.append_assoc, List.head?_append_of_ne_nil _ hw]

/-- A joined text has the characters of its words, and spaces. -/
theorem mem_joinWords : ∀ {us : List Text}, c ∈ joinWords us → c = ' ' ∨ ∃ w ∈ us, c ∈ w
  | [], h => by cases h
  | [u], h => by
    rw [joinWords, List.intercalate_singleton] at h
    exact .inr ⟨u, List.mem_singleton_self u, h⟩
  | u :: v :: us, h => by
    rw [joinWords, List.intercalate_cons_cons, List.append_assoc, List.mem_append,
      List.mem_append] at h
    obtain h | h | h := h
    · exact .inr ⟨u, List.mem_cons_self, h⟩
    · exact .inl (List.mem_singleton.1 h)
    · exact (mem_joinWords h).imp_right fun ⟨w, hw, hc⟩ => ⟨w, List.mem_cons_of_mem u hw, hc⟩

/-- Where spaces are left out, joining words puts them together. -/
theorem filter_joinWords {p : Char → Bool} (hp : p ' ' = false) :
    ∀ ws : List Text, (joinWords ws).filter p = ws.flatten.filter p
  | [] => rfl
  | [w] => by rw [joinWords, List.intercalate_singleton, List.flatten_singleton]
  | w :: v :: ws => by
    have ih : ([' '].intercalate (v :: ws)).filter p = (v :: ws).flatten.filter p :=
      filter_joinWords hp (v :: ws)
    have hspace : [' '].filter p = [] := List.filter_eq_nil_iff.2 (by simp [hp])
    rw [joinWords, List.intercalate_cons_cons, List.filter_append, List.filter_append, hspace, ih,
      List.append_nil, ← List.filter_append]
    rfl

/-- A joined text ends as its last word. -/
theorem getLast?_joinWords (h : us.getLast? = some w) (hw : w ≠ []) :
    (joinWords us).getLast? = w.getLast? := by
  obtain ⟨us, rfl⟩ := List.getLast?_eq_some_iff.1 h
  have hone : joinWords [w] = w := List.intercalate_singleton
  by_cases hus : us = []
  · rw [hus, List.nil_append, hone]
  · rw [joinWords_append hus (List.cons_ne_nil w []), hone,
      List.getLast?_append_of_ne_nil _ (List.cons_ne_nil _ _)]
    exact List.getLast?_append_of_ne_nil [' '] hw

end SpokenEditor.Text
