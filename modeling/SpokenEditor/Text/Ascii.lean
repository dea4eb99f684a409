import SpokenEditor.Text.Basic

/-!
# Comparison up to the case of ASCII letters

Spoken phrases are compared up to the case of the letters `A` to `Z`; every other character has to
be equal. `Char.toLower` maps just these letters.

* `dropStart?_eq_some_iff`, `dropEnd?_eq_some_iff`: a pattern is dropped exactly when the text
  begins, or ends, with it up to case.
* `cutFirst?_eq`, `length_lt_of_cutFirst?`: what is cut around an occurrence of a pattern gives the
  text back, so the part after it is shorter.
* `pieces_of_cutFirst?_none`, `pieces_of_cutFirst?_some`: the pieces, one occurrence after the other.
-/

namespace SpokenEditor.Text

/-- Equality up to the case of ASCII letters. -/
def sameLetters (s t : Text) : Bool :=
  s.map Char.toLower == t.map Char.toLower

/-- The rest of the text after the pattern `p`, if it begins with it up to case. -/
def dropStart? : (p t : Text) → Option Text
  | [], t => some t
  | _ :: _, [] => none
  | d :: p, c :: t => if d.toLower = c.toLower then dropStart? p t else none

/-- The pattern is dropped exactly when the text begins with it up to case. -/
theorem dropStart?_eq_some_iff : ∀ {p t r : Text},
    dropStart? p t = some r ↔ ∃ h, t = h ++ r ∧ sameLetters h p = true
  | [], t, r => by
    simp only [dropStart?, Option.some.injEq, sameLetters, List.map_nil, beq_iff_eq,
      List.map_eq_nil_iff]
    exact ⟨fun h => ⟨[], by simp [h], rfl⟩, fun ⟨h, e, hh⟩ => by simp [e, hh]⟩
  | d :: p, [], r => by
    constructor
    · intro h; simp [dropStart?] at h
    · rintro ⟨h, e, hh⟩
      have : h = [] := (List.append_eq_nil_iff.1 e.symm).1
      simp [this, sameLetters] at hh
  | d :: p, c :: t, r => by
    rw [dropStart?]
    split
    · next hdc =>
      rw [dropStart?_eq_some_iff]
      constructor
      · rintro ⟨h, rfl, hh⟩
        refine ⟨c :: h, rfl, ?_⟩
        simp only [sameLetters, List.map_cons, beq_iff_eq, List.cons.injEq] at hh ⊢
        exact ⟨hdc.symm, hh⟩
      · rintro ⟨h, e, hh⟩
        cases h with
        | nil => simp [sameLetters] at hh
        | cons x h =>
          rw [List.cons_append, List.cons.injEq] at e
          simp only [sameLetters, List.map_cons, beq_iff_eq, List.cons.injEq] at hh
          exact ⟨h, e.2, by simpa [sameLetters] using hh.2⟩
    · next hdc =>
      constructor
      · intro h; simp at h
      · rintro ⟨h, e, hh⟩
        cases h with
        | nil => simp [sameLetters] at hh
        | cons x h =>
          rw [List.cons_append, List.cons.injEq] at e
          simp only [sameLetters, List.map_cons, beq_iff_eq, List.cons.injEq] at hh
          exact absurd (e.1 ▸ hh.1.symm) hdc

/-- The text before the pattern `p`, if it ends with it up to case. -/
def dropEnd? (p t : Text) : Option Text :=
  (dropStart? p.reverse t.reverse).map List.reverse

/-- The pattern is dropped exactly when the text ends with it up to case. -/
theorem dropEnd?_eq_some_iff {p t r : Text} :
    dropEnd? p t = some r ↔ ∃ h, t = r ++ h ∧ sameLetters h p = true := by
  simp only [dropEnd?, Option.map_eq_some_iff, dropStart?_eq_some_iff, sameLetters, beq_iff_eq]
  constructor
  · rintro ⟨a, ⟨h, e, hh⟩, rfl⟩
    refine ⟨h.reverse, ?_, ?_⟩
    · rw [← List.reverse_append, ← e, List.reverse_reverse]
    · rw [List.map_reverse, hh, List.map_reverse, List.reverse_reverse]
  · rintro ⟨h, rfl, hh⟩
    exact ⟨r.reverse, ⟨h.reverse, by simp, by rw [List.map_reverse, hh, List.map_reverse]⟩, by simp⟩

/-- The parts before and after the leftmost place where the pattern `p` stands up to case. -/
def cutFirst? (p : Text) : Text → Option (Text × Text)
  | [] => (dropStart? p []).map ([], ·)
  | c :: t =>
    match dropStart? p (c :: t) with
    | some r => some ([], r)
    | none => (cutFirst? p t).map fun (a, b) => (c :: a, b)

/-- What is cut around an occurrence gives the text back. -/
theorem cutFirst?_eq {p : Text} : ∀ {t a b : Text}, cutFirst? p t = some (a, b) →
    ∃ h, t = a ++ h ++ b ∧ sameLetters h p = true
  | [], a, b, e => by
    simp only [cutFirst?, Option.map_eq_some_iff, Prod.mk.injEq] at e
    obtain ⟨r, hr, rfl, rfl⟩ := e
    simpa using dropStart?_eq_some_iff.1 hr
  | c :: t, a, b, e => by
    rw [cutFirst?] at e
    split at e
    · next r hr =>
      rw [Option.some.injEq, Prod.mk.injEq] at e
      obtain ⟨rfl, rfl⟩ := e
      simpa using dropStart?_eq_some_iff.1 hr
    · simp only [Option.map_eq_some_iff, Prod.mk.injEq] at e
      obtain ⟨⟨a, b⟩, hab, rfl, rfl⟩ := e
      obtain ⟨h, rfl, hh⟩ := cutFirst?_eq hab
      exact ⟨h, rfl, hh⟩

/-- The part after an occurrence of a non-empty pattern is shorter than the text. -/
theorem length_lt_of_cutFirst? {p t a b : Text} (hp : p ≠ []) (e : cutFirst? p t = some (a, b)) :
    b.length < t.length := by
  obtain ⟨h, rfl, hh⟩ := cutFirst?_eq e
  have hlen : h.length = p.length := by
    simpa [sameLetters] using congrArg List.length (beq_iff_eq.1 hh)
  have := List.length_pos_iff.2 hp
  simp
  omega

/-- The pieces of the text between the occurrences of the pattern `p`, up to case, found from the
left and not overlapping. -/
def pieces (p : Text) (hp : p ≠ []) (t : Text) : List Text :=
  match _ : cutFirst? p t with
  | none => [t]
  | some (a, b) => a :: pieces p hp b
termination_by t.length
decreasing_by exact length_lt_of_cutFirst? hp (by assumption)

/-- Without an occurrence the text is the only piece. -/
theorem pieces_of_cutFirst?_none {p t : Text} (hp : p ≠ []) (h : cutFirst? p t = none) :
    pieces p hp t = [t] := by
  rw [pieces]
  split
  · rfl
  · next hsome => rw [h] at hsome; cases hsome

/-- The first piece stands before the leftmost occurrence, and the others are those of the part after
it. -/
theorem pieces_of_cutFirst?_some {p t a b : Text} (hp : p ≠ []) (h : cutFirst? p t = some (a, b)) :
    pieces p hp t = a :: pieces p hp b := by
  rw [pieces]
  split
  · next hnone => rw [h] at hnone; cases hnone
  · next hsome =>
    rw [h] at hsome
    obtain ⟨rfl, rfl⟩ := Prod.mk.inj (Option.some.inj hsome)
    rfl

end SpokenEditor.Text
