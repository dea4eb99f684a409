import SpokenEditor.Proofs.LetterCase

/-! # Where a pattern stands

A pattern may stand anywhere in a text, in either case.  `Occurs p t` says that it does, and `Cut p t`
takes the text apart at all the places where it does.

* `isInfix_lowerLetters_iff`: up to case, to occur means to be an infix;
* `cutFirst?_eq_none_iff`, `length_le_of_cutFirst?`: the search misses no place and finds the leftmost
  one;
* `cut_pieces`: the pieces between the places that the search finds, one after the other, are such a
  cut;
* `Cut.unique`: there is no other, if the pattern cannot overlap itself. -/

namespace SpokenEditor.Text

variable {p s t u : Text}

/-- Somewhere in the text stands the pattern `p`, up to case. -/
def Occurs (p t : Text) : Prop :=
  ∃ a h b, t = a ++ h ++ b ∧ sameLetters h p = true

/-- Up to case, to occur means to be an infix. -/
theorem isInfix_lowerLetters_iff : lowerLetters p <:+: lowerLetters t ↔ Occurs p t := by
  constructor
  · rintro ⟨a', b', hsplit⟩
    obtain ⟨ah, b, rfl, hah, -⟩ := List.map_eq_append_iff.1 hsplit.symm
    obtain ⟨a, h, rfl, -, hh⟩ := List.map_eq_append_iff.1 hah
    exact ⟨a, h, b, rfl, sameLetters_iff_lowerLetters.2 hh⟩
  · rintro ⟨a, h, b, rfl, hh⟩
    refine ⟨lowerLetters a, lowerLetters b, ?_⟩
    rw [lowerLetters_append, lowerLetters_append, sameLetters_iff_lowerLetters.1 hh]

theorem Occurs.mono (h : Occurs p s) (hst : s <:+: t) : Occurs p t := by
  rw [← isInfix_lowerLetters_iff] at h ⊢
  exact h.trans (hst.map _)

/-- A pattern stands at the start of a text or behind its first character. -/
theorem occurs_cons_iff {c : Char} :
    Occurs p (c :: t) ↔ (∃ r, dropStart? p (c :: t) = some r) ∨ Occurs p t := by
  constructor
  · rintro ⟨a, h, b, hsplit, hh⟩
    cases a with
    | nil => exact .inl ⟨b, dropStart?_eq_some_iff.2 ⟨h, hsplit, hh⟩⟩
    | cons d a =>
        obtain ⟨-, rfl⟩ := List.cons.inj hsplit
        exact .inr ⟨a, h, b, rfl, hh⟩
  · rintro (⟨r, hr⟩ | h)
    · obtain ⟨h, hsplit, hh⟩ := dropStart?_eq_some_iff.1 hr
      exact ⟨[], h, r, hsplit, hh⟩
    · exact h.mono (List.suffix_cons c t).isInfix

/-! ### The search -/

/-- **The search misses no place.** -/
theorem cutFirst?_eq_none_iff (hp : p ≠ []) : ∀ {t : Text}, cutFirst? p t = none ↔ ¬Occurs p t
  | [] => by
      obtain ⟨d, p, rfl⟩ := List.exists_cons_of_ne_nil hp
      refine iff_of_true rfl ?_
      rw [← isInfix_lowerLetters_iff]
      exact fun h => List.cons_ne_nil _ _ (List.eq_nil_of_infix_nil h)
  | c :: t => by
      have ih := cutFirst?_eq_none_iff hp (t := t)
      rw [cutFirst?, occurs_cons_iff, not_or, ← ih]
      cases dropStart? p (c :: t) with
      | none => simp
      | some r => simp

/-- **The search finds the leftmost place.** -/
theorem length_le_of_cutFirst? : ∀ {t a b a' h' b' : Text}, cutFirst? p t = some (a, b) →
    t = a' ++ h' ++ b' → sameLetters h' p = true → a.length ≤ a'.length
  | [], a, b, a', h', b', e, _, _ => by
      simp only [cutFirst?, Option.map_eq_some_iff, Prod.mk.injEq] at e
      obtain ⟨-, -, rfl, -⟩ := e
      exact Nat.zero_le _
  | c :: t, a, b, a', h', b', e, hsplit, hh => by
      rw [cutFirst?] at e
      split at e
      · obtain ⟨rfl, -⟩ := Prod.mk.inj (Option.some.inj e)
        exact Nat.zero_le _
      · next hnone =>
        obtain ⟨⟨a, b⟩, hab, hcons⟩ := Option.map_eq_some_iff.1 e
        obtain ⟨rfl, -⟩ := Prod.mk.inj hcons
        cases a' with
        | nil =>
            have hstart : dropStart? p (c :: t) = some b' :=
              dropStart?_eq_some_iff.2 ⟨h', hsplit, hh⟩
            rw [hnone] at hstart
            cases hstart
        | cons d a' =>
            obtain ⟨-, ht⟩ := List.cons.inj hsplit
            exact Nat.succ_le_succ (length_le_of_cutFirst? hab ht hh)

theorem length_of_sameLetters {h : Text} (hh : sameLetters h p = true) : h.length = p.length := by
  simpa using congrArg List.length (sameLetters_iff.1 hh)

/-- The pattern does not stand before the place that the search finds. -/
theorem not_occurs_of_cutFirst? {a b : Text} (hp : p ≠ []) (e : cutFirst? p t = some (a, b)) :
    ¬Occurs p a := by
  rintro ⟨x, h, y, rfl, hh⟩
  obtain ⟨place, hsplit, -⟩ := cutFirst?_eq e
  have hplace : t = x ++ h ++ (y ++ place ++ b) := by simpa using hsplit
  have hleft : (x ++ h ++ y).length ≤ x.length := length_le_of_cutFirst? e hplace hh
  have hlength := length_of_sameLetters hh
  have hpos := List.length_pos_iff.2 hp
  simp only [List.length_append] at hleft
  omega

/-! ### Taking a text apart -/

/-- `Cut p t s places`: the text `t` is `s` and, one after the other, the places where the pattern
stands, each with what follows it.  In `s` and in what follows the places it does not stand. -/
inductive Cut (p : Text) : Text → Text → List (Text × Text) → Prop
  | whole {s : Text} (hs : ¬Occurs p s) : Cut p s s []
  | place {s h t u : Text} {places : List (Text × Text)} (hs : ¬Occurs p s)
      (hh : sameLetters h p = true) (ht : Cut p t u places) :
      Cut p (s ++ h ++ t) s ((h, u) :: places)

/-- **The search takes a text apart**, by induction on its length. -/
theorem cut_pieces (hp : p ≠ []) (t : Text) :
    ∃ s places, Cut p t s places ∧ pieces p hp t = s :: places.map Prod.snd := by
  cases hcut : cutFirst? p t with
  | none =>
      exact ⟨t, [], .whole ((cutFirst?_eq_none_iff hp).1 hcut), pieces_of_cutFirst?_none hp hcut⟩
  | some ab =>
      obtain ⟨a, b⟩ := ab
      have hlt := length_lt_of_cutFirst? hp hcut
      have hfirst := not_occurs_of_cutFirst? hp hcut
      obtain ⟨u, places, hrest, hpieces⟩ := cut_pieces hp b
      rw [pieces_of_cutFirst?_some hp hcut, hpieces]
      obtain ⟨h, rfl, hh⟩ := cutFirst?_eq hcut
      exact ⟨a, (h, u) :: places, .place hfirst hh hrest, rfl⟩
termination_by t.length

/-- The first character of the pattern stands nowhere else in it, so the pattern cannot overlap
itself. -/
def StartsOnce (p : Text) : Prop :=
  ∃ c r, lowerLetters p = c :: r ∧ c ∉ r

/-- Two first places do not lie one behind the other. -/
theorem StartsOnce.eq_nil {x h h' t' : Text} (hp : StartsOnce p) (hx : ¬Occurs p (s ++ x))
    (hh : sameLetters h p = true) (hh' : sameLetters h' p = true) (e : h ++ t = x ++ h' ++ t') :
    x = [] := by
  by_contra hne
  have hfree : ∀ y, x ≠ h ++ y := by
    rintro y rfl
    exact hx ⟨s, h, y, (List.append_assoc s h y).symm, hh⟩
  rw [List.append_assoc] at e
  obtain ⟨y, hxy, -⟩ | ⟨y, hxy, hy⟩ := List.append_eq_append_iff.1 e
  · exact hfree y hxy
  · -- the second place begins inside the first one
    obtain ⟨c, r, hcr, hc⟩ := hp
    rw [sameLetters_iff_lowerLetters, hcr] at hh hh'
    cases y with
    | nil => exact hfree [] (by rw [hxy, List.append_nil, List.append_nil])
    | cons d y =>
        have hd : d.toLower = c := by
          cases h' with
          | nil => cases hh'
          | cons d' h' =>
              obtain ⟨rfl, -⟩ := List.cons.inj hy
              exact (List.cons.inj hh').1
        obtain ⟨d', x, rfl⟩ := List.exists_cons_of_ne_nil hne
        have hrest : lowerLetters (x ++ d :: y) = r := by
          rw [hxy] at hh
          exact (List.cons.inj hh).2
        have hmem : d.toLower ∈ r := by
          rw [← hrest]
          exact List.mem_map_of_mem (List.mem_append_right x List.mem_cons_self)
        exact hc (hd ▸ hmem)

/-- **There is one way to take a text apart.** -/
theorem Cut.unique {s' : Text} {places places' : List (Text × Text)} (hp : StartsOnce p)
    (hcut : Cut p t s places) (hcut' : Cut p t s' places') : s' = s ∧ places' = places := by
  induction hcut generalizing s' places' with
  | whole hs =>
      cases hcut' with
      | whole _ => exact ⟨rfl, rfl⟩
      | @place _ h t _ _ _ hh _ => exact absurd ⟨s', h, t, rfl, hh⟩ hs
  | @place s h t u places hs hh ht ih =>
      generalize htext : s ++ h ++ t = text at hcut'
      cases hcut' with
      | whole hs' => exact absurd ⟨s, h, t, htext.symm, hh⟩ hs'
      | @place _ h' t' u' places' hs' hh' ht' =>
          have hss : s' = s := by
            have e := htext
            rw [List.append_assoc, List.append_assoc] at e
            obtain ⟨x, rfl, hx⟩ | ⟨x, rfl, hx⟩ := List.append_eq_append_iff.1 e
            · rw [← List.append_assoc] at hx
              rw [hp.eq_nil hs' hh hh' hx, List.append_nil]
            · rw [← List.append_assoc] at hx
              rw [hp.eq_nil hs hh' hh hx, List.append_nil]
          subst hss
          rw [List.append_assoc, List.append_assoc, List.append_cancel_left_eq] at htext
          have hlength : h.length = h'.length :=
            (length_of_sameLetters hh).trans (length_of_sameLetters hh').symm
          obtain ⟨rfl, rfl⟩ := List.append_inj htext hlength
          obtain ⟨rfl, rfl⟩ := ih ht'
          exact ⟨rfl, rfl⟩

end SpokenEditor.Text
