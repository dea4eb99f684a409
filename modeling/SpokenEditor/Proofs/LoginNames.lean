import SpokenEditor.Command.FormPhrase
import SpokenEditor.Proofs.Letters

/-! # Login names

A login name that was cleaned up has lowercase letters, digits and dots only, and no `dot` that
could still be meant for one: a dot takes the place of three letters, so no letters meet that were
apart before.  What has this form is not changed by a clean-up.

* `mem_cleanLogin`: the characters of a login name;
* `cons_of_spokenDots`: a character that is no dot was there before;
* `not_isInfix_spokenDots`, `spokenDots_eq_self_iff`: no `dot` is left, and nothing else changes;
* `cleanLogin_eq_self_iff`: login names are what the clean-up leaves as it is;
* `cleanLogin_normal`: so it gives each text a normal form. -/

namespace SpokenEditor

/-- The text is a login name: lowercase ASCII letters, digits and dots, and nowhere `dot`. -/
structure IsLoginName (t : Text) : Prop where
  chars : ∀ c ∈ t, c.isLower = true ∨ c.isDigit = true ∨ c = '.'
  noDot : ¬"dot".toList <:+: t

variable {t r : Text} {c : Char}

/-! ### Characters -/

/-- What stands in the result is a dot or stood in the text. -/
theorem mem_spokenDots (h : c ∈ spokenDots t) : c = '.' ∨ c ∈ t := by
  fun_induction spokenDots t with
  | case1 t ih =>
      rcases List.mem_cons.1 h with h | h
      · exact .inl h
      · exact (ih h).imp_right fun hc => by simp [hc]
  | case2 d t _ ih =>
      rcases List.mem_cons.1 h with h | h
      · exact .inr (h ▸ List.mem_cons_self)
      · exact (ih h).imp_right (List.mem_cons_of_mem d)
  | case3 => cases h

theorem mem_cleanLogin {raw : Text} (h : c ∈ cleanLogin raw) :
    c.isLower = true ∨ c.isDigit = true ∨ c = '.' := by
  obtain rfl | h := mem_spokenDots h
  · exact .inr (.inr rfl)
  obtain ⟨d, hd, rfl⟩ := List.mem_map.1 h
  have hchar := (List.mem_filter.1 hd).2
  rw [isLoginChar, Char.isAlphanum, Bool.or_eq_true, Bool.or_eq_true, beq_iff_eq] at hchar
  rcases hchar with (halpha | hdigit) | rfl
  · exact .inl (d.isLower_toLower_eq_isAlpha.trans halpha)
  · rw [Text.toLower_of_isDigit hdigit]
    exact .inr (.inl hdigit)
  · exact .inr (.inr rfl)

/-! ### Spoken dots -/

/-- A character of the result that is no dot was there before, and what follows it came from what
followed it. -/
theorem cons_of_spokenDots (h : spokenDots t = c :: r) (hc : c ≠ '.') :
    ∃ u, t = c :: u ∧ spokenDots u = r := by
  fun_cases spokenDots t with
  | case1 u =>
      rw [spokenDots, List.cons.injEq] at h
      exact absurd h.1.symm hc
  | case2 d u hdot =>
      rw [spokenDots.eq_2 _ _ hdot, List.cons.injEq] at h
      exact ⟨u, by rw [h.1], h.2⟩
  | case3 => cases h

/-- The end of a `dot` has no dot in it, so it stood there before. -/
theorem exists_of_spokenDots_eq_ot (h : spokenDots t = 'o' :: 't' :: r) :
    ∃ u, t = 'o' :: 't' :: u := by
  obtain ⟨v, rfl, hv⟩ := cons_of_spokenDots h (by decide)
  obtain ⟨u, rfl, -⟩ := cons_of_spokenDots hv (by decide)
  exact ⟨u, rfl⟩

/-- No `dot` is left. -/
theorem not_isInfix_spokenDots (t : Text) : ¬"dot".toList <:+: spokenDots t := by
  have hdot : "dot".toList = ['d', 'o', 't'] := rfl
  rw [hdot]
  fun_induction spokenDots t with
  | case1 t ih =>
      rw [List.infix_cons_iff, List.cons_prefix_cons]
      rintro (⟨hd, -⟩ | hrest)
      · exact absurd hd (by decide)
      · exact ih hrest
  | case2 d t hne ih =>
      rw [List.infix_cons_iff, List.cons_prefix_cons]
      rintro (⟨rfl, r, hr⟩ | hrest)
      · -- an `o` and a `t` behind this `d` would have been replaced together with it
        obtain ⟨u, hu⟩ := exists_of_spokenDots_eq_ot hr.symm
        exact hne u rfl hu
      · exact ih hrest
  | case3 => decide

/-- A text without a `dot` stays as it is, and no other text does. -/
theorem spokenDots_eq_self_iff : spokenDots t = t ↔ ¬"dot".toList <:+: t := by
  constructor
  · intro h
    rw [← h]
    exact not_isInfix_spokenDots t
  · intro h
    fun_induction spokenDots t with
    | case1 t _ => exact absurd ⟨[], t, rfl⟩ h
    | case2 c t _ ih => rw [ih fun hinfix => h (List.infix_cons hinfix)]
    | case3 => rfl

theorem spokenDots_spokenDots (t : Text) : spokenDots (spokenDots t) = spokenDots t :=
  spokenDots_eq_self_iff.2 (not_isInfix_spokenDots t)

/-! ### The normal form -/

/-- A login that was cleaned up is a login name. -/
theorem isLoginName_cleanLogin (raw : Text) : IsLoginName (cleanLogin raw) :=
  ⟨fun _ => mem_cleanLogin, not_isInfix_spokenDots _⟩

/-- The characters of a login name are kept by a clean-up, and not lowered any more. -/
theorem IsLoginName.keeps (h : IsLoginName t) (hc : c ∈ t) :
    isLoginChar c = true ∧ c.toLower = c := by
  obtain hlower | hdigit | rfl := h.chars c hc
  · exact ⟨by simp [isLoginChar, Char.isAlphanum, Char.isAlpha, hlower],
      Char.toLower_eq_of_not_isUpper (Char.not_isUpper_of_isLower hlower)⟩
  · exact ⟨by simp [isLoginChar, Char.isAlphanum, hdigit], Text.toLower_of_isDigit hdigit⟩
  · exact ⟨rfl, rfl⟩

/-- **Login names are the texts that a clean-up leaves as they are.** -/
theorem cleanLogin_eq_self_iff : cleanLogin t = t ↔ IsLoginName t := by
  constructor
  · intro h
    rw [← h]
    exact isLoginName_cleanLogin t
  · intro h
    have hkept : t.filter isLoginChar = t := List.filter_eq_self.2 fun c hc => (h.keeps hc).1
    have hlower : t.map Char.toLower = t := by
      rw [List.map_congr_left fun c hc => (h.keeps hc).2]
      exact List.map_id' t
    rw [cleanLogin, hkept, hlower, spokenDots_eq_self_iff.2 h.noDot]

/-- **The clean-up gives a normal form.**  Of any text it makes a login name, which a second
clean-up leaves as it is, and it makes the same of any two texts whose ASCII letters, digits and
dots, in their order, are the same up to case. -/
theorem cleanLogin_normal (raw : Text) :
    IsLoginName (cleanLogin raw) ∧ cleanLogin (cleanLogin raw) = cleanLogin raw ∧
      ∀ other, Text.sameLetters (other.filter isLoginChar) (raw.filter isLoginChar) = true →
        cleanLogin other = cleanLogin raw := by
  have hname := isLoginName_cleanLogin raw
  refine ⟨hname, cleanLogin_eq_self_iff.2 hname, fun other hsame => ?_⟩
  rw [cleanLogin, cleanLogin, Text.sameLetters_iff.1 hsame]

/-- The letters of one name in two spellings. -/
theorem cleanLogin_normal_spelled :
    let raw := "John Dot Doe!".toList
    let other := "JOHN, do-t DOE".toList
    Text.sameLetters (other.filter isLoginChar) (raw.filter isLoginChar) = true ∧
      cleanLogin other = cleanLogin raw ∧ cleanLogin raw = "john.doe".toList := by
  intro raw other
  have hsame : Text.sameLetters (other.filter isLoginChar) (raw.filter isLoginChar) = true := by
    decide
  obtain ⟨-, -, heq⟩ := cleanLogin_normal raw
  exact ⟨hsame, heq other hsame, by decide⟩

end SpokenEditor
