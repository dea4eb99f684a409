import Mathlib.Data.List.Basic
import SpokenEditor.Files.Similarity
import SpokenEditor.Text.WordChar

/-! # Lowering once is enough

The lowercase forms of the table are lowercase forms themselves, and lowering neither makes nor
removes a blank.  Both are read off the runs of the table, not off their code points: `Clears`
compares two runs by their ends and, where they interleave, by parity.

* `lowerChar_of_mem_lowerChar`: what a character is lowered to stays as it is;
* `isBlank_of_mem_lowerChar`: it is a blank exactly if the character was one;
* `normalForm_normalForm`: so a normal form is its own normal form;
* `lowercase_append_blank`: what stands before a blank and what follows it are lowered apart, a
  final sigma included;
* `lowercase_lowercase`: a text in lowercase is its own lowercase form. -/

namespace SpokenEditor
namespace Text

/-! ### Runs -/

namespace ShiftRun

/-- The code point belongs to the run. -/
def Has (r : ShiftRun) (n : Nat) : Prop :=
  r.first ≤ n ∧ n ≤ r.last ∧ (n - r.first) % r.step = 0

/-- Where the run takes a code point. -/
def image (r : ShiftRun) (n : Nat) : Nat :=
  (n + r.shift).toNat

/-- The images of the run lie below, above or between the code points of the other run. -/
def Clears (r s : ShiftRun) : Bool :=
  (r.image r.last).blt s.first || s.last.blt (r.image r.first) ||
    (r.step == 2 || r.first == r.last) && s.step == 2 && (r.image r.first + s.first) % 2 == 1

/-- The images of the run are code points of characters. -/
def Stays (r : ShiftRun) : Prop :=
  0 ≤ r.first + r.shift ∧
    (r.image r.last < 0xD800 ∨ 0xDFFF < r.image r.first ∧ r.image r.last < 0x110000)

instance (r : ShiftRun) : Decidable r.Stays :=
  inferInstanceAs (Decidable (_ ∧ _))

/-- The run of one code point. -/
def point (n : Nat) : ShiftRun :=
  ⟨n, n, 1, 0⟩

theorem has_point (n : Nat) : (point n).Has n :=
  ⟨Nat.le_refl n, Nat.le_refl n, Nat.mod_one _⟩

variable {r s : ShiftRun} {n : Nat}

theorem not_has_image (hclear : r.Clears s = true) (hstay : r.Stays) (hn : r.Has n) :
    ¬s.Has (r.image n) := by
  obtain ⟨hfirst, hlast, hstep⟩ := hn
  obtain ⟨hzero, -⟩ := hstay
  rintro ⟨hfirst', hlast', hstep'⟩
  simp only [Clears, image, Bool.or_eq_true, Bool.and_eq_true, Nat.blt_eq, beq_iff_eq] at *
  obtain (hbelow | habove) | ⟨⟨hparity | hsingle, htwo⟩, hodd⟩ := hclear
  · omega
  · omega
  · rw [hparity] at hstep
    rw [htwo] at hstep'
    omega
  · rw [htwo] at hstep'
    omega

theorem isValidChar_image (hstay : r.Stays) (hn : r.Has n) : (r.image n).isValidChar := by
  obtain ⟨hfirst, hlast, -⟩ := hn
  obtain ⟨hzero, hrange⟩ := hstay
  simp only [image, Nat.isValidChar] at *
  omega

end ShiftRun

/-- A code point that is shifted belongs to a run. -/
theorem exists_run_of_shiftIn {n : Nat} {d : Int} : ∀ {runs : List ShiftRun},
    shiftIn runs n = some d → ∃ r ∈ runs, r.Has n ∧ r.shift = d
  | [], h => by simp [shiftIn] at h
  | r :: runs, h => by
    rw [shiftIn] at h
    split at h
    · cases h
    · next hfirst =>
      split at h
      · next hr =>
        exact ⟨r, List.mem_cons_self, ⟨Nat.le_of_not_lt hfirst, hr⟩, Option.some.inj h⟩
      · obtain ⟨s, hs, hn⟩ := exists_run_of_shiftIn h
        exact ⟨s, List.mem_cons_of_mem r hs, hn⟩

theorem shiftIn_eq_none {runs : List ShiftRun} {n : Nat} (h : ∀ r ∈ runs, ¬r.Has n) :
    shiftIn runs n = none := by
  cases hn : shiftIn runs n with
  | none => rfl
  | some d =>
    obtain ⟨r, hr, hhas, -⟩ := exists_run_of_shiftIn hn
    exact absurd hhas (h r hr)

/-! ### The table -/

/-- The code points that the lowercase table takes nothing to: those it lowers, the dotted capital
`İ` and the blanks. -/
def capitalRuns : List ShiftRun :=
  .point 'İ'.toNat :: blankPoints.map .point ++ lowercaseRuns

theorem stays_lowercaseRuns : ∀ r ∈ lowercaseRuns, r.Stays := by
  decide +kernel

theorem clears_lowercaseRuns : ∀ r ∈ lowercaseRuns, ∀ s ∈ capitalRuns, r.Clears s = true := by
  have h : (lowercaseRuns.all fun r => capitalRuns.all r.Clears) = true := by decide +kernel
  exact fun r hr => List.all_eq_true.1 (List.all_eq_true.1 h r hr)

/-- What the table lowers a code point to. -/
theorem image_of_shiftIn {n : Nat} {d : Int} (h : shiftIn lowercaseRuns n = some d) :
    (n + d).toNat.isValidChar ∧ ∀ s ∈ capitalRuns, ¬s.Has (n + d).toNat := by
  obtain ⟨r, hr, hn, rfl⟩ := exists_run_of_shiftIn h
  have hstay := stays_lowercaseRuns r hr
  exact ⟨ShiftRun.isValidChar_image hstay hn,
    fun s hs => ShiftRun.not_has_image (clears_lowercaseRuns r hr s hs) hstay hn⟩

variable {c d : Char}

/-- A character that no run of capitals has is a lowercase form and no blank. -/
theorem lowerChar_of_not_has (h : ∀ s ∈ capitalRuns, ¬s.Has c.toNat) :
    lowerChar c = [c] ∧ isBlank c = false := by
  have hdotted : c ≠ 'İ' := fun hc =>
    h (.point 'İ'.toNat) List.mem_cons_self (hc ▸ ShiftRun.has_point _)
  have htable : shiftIn lowercaseRuns c.toNat = none :=
    shiftIn_eq_none fun s hs => h s (List.mem_append_right _ hs)
  refine ⟨by rw [lowerChar, if_neg hdotted, htable], Bool.eq_false_iff.2 fun hc => ?_⟩
  have hpoint : ShiftRun.point c.toNat ∈ capitalRuns := List.mem_append_left _
    (List.mem_cons_of_mem _ (List.mem_map_of_mem (mem_blankPoints_of_isBlank hc)))
  exact h _ hpoint (ShiftRun.has_point _)

/-- A character is lowered to itself, or to characters that are lowercase forms and no blanks. -/
theorem lowerChar_cases (c : Char) :
    lowerChar c = [c] ∨ ∀ d ∈ lowerChar c, lowerChar d = [d] ∧ isBlank d = false := by
  by_cases hc : c = 'İ'
  · have hi : lowerChar 'i' = ['i'] ∧ isBlank 'i' = false := by decide +kernel
    have hdot : lowerChar '\u0307' = ['\u0307'] ∧ isBlank '\u0307' = false := by decide +kernel
    right
    rw [lowerChar, if_pos hc, List.forall_mem_cons]
    exact ⟨hi, List.forall_mem_singleton.2 hdot⟩
  · cases hn : shiftIn lowercaseRuns c.toNat with
    | none => exact .inl (by rw [lowerChar, if_neg hc, hn])
    | some k =>
      obtain ⟨hvalid, hclear⟩ := image_of_shiftIn hn
      have hlower : lowerChar c = [Char.ofNat (c.toNat + k).toNat] := by
        rw [lowerChar, if_neg hc, hn]
      right
      intro d hd
      rw [hlower, List.mem_singleton] at hd
      subst hd
      have himage : (Char.ofNat (c.toNat + k).toNat).toNat = (c.toNat + k).toNat := by
        rw [Char.ofNat, dif_pos hvalid]
        rfl
      exact lowerChar_of_not_has (by rwa [himage])

/-- No blank is lowered, cased or passed over in the search for a cased character. -/
theorem lower_of_isBlank (hc : isBlank c = true) :
    lowerChar c = [c] ∧ isCased c = false ∧ isCaseIgnorable c = false := by
  have htable : ∀ n ∈ blankPoints, shiftIn lowercaseRuns n = none ∧ n ≠ 'İ'.toNat ∧
      inRuns casedRuns n = false ∧ inRuns caseIgnorableRuns n = false := by
    decide +kernel
  obtain ⟨hshift, hne, hcased, hignorable⟩ := htable _ (mem_blankPoints_of_isBlank hc)
  have hdotted : c ≠ 'İ' := fun e => hne (congrArg Char.toNat e)
  refine ⟨?_, hcased, hignorable⟩
  rw [lowerChar, if_neg hdotted, hshift]

/-! ### Lowering twice -/

/-- What a character is lowered to stays as it is. -/
theorem lowerChar_of_mem_lowerChar (h : d ∈ lowerChar c) : lowerChar d = [d] := by
  obtain hself | hlower := lowerChar_cases c
  · obtain rfl := List.mem_singleton.1 (hself ▸ h)
    exact hself
  · exact (hlower d h).1

/-- What a character is lowered to is a blank exactly if the character is one. -/
theorem isBlank_of_mem_lowerChar (h : d ∈ lowerChar c) : isBlank d = isBlank c := by
  obtain hself | hlower := lowerChar_cases c
  · obtain rfl := List.mem_singleton.1 (hself ▸ h)
    rfl
  · cases hc : isBlank c with
    | false => exact (hlower d h).2
    | true =>
      obtain rfl := List.mem_singleton.1 ((lower_of_isBlank hc).1 ▸ h)
      exact hc

theorem foldCase_of_forall {t : Text} (h : ∀ c ∈ t, lowerChar c = [c]) : foldCase t = t := by
  rw [foldCase, List.flatMap_congr h, List.flatMap_singleton']

/-- Lowering a text twice is lowering it once. -/
theorem foldCase_foldCase (t : Text) : foldCase (foldCase t) = foldCase t := by
  refine foldCase_of_forall fun d hd => ?_
  obtain ⟨c, -, hdc⟩ := List.mem_flatMap.1 hd
  exact lowerChar_of_mem_lowerChar hdc

theorem squeeze_foldCase_squeeze (t : Text) :
    squeeze (foldCase (squeeze t)) = foldCase (squeeze t) := by
  refine List.filter_eq_self.2 fun d hd => ?_
  obtain ⟨c, hc, hdc⟩ := List.mem_flatMap.1 hd
  rw [isBlank_of_mem_lowerChar hdc]
  exact (List.mem_filter.1 hc).2

/-! ### Lowering beside a blank -/

theorem casedAhead_cons (c : Char) (t : Text) :
    casedAhead (c :: t) = if isCaseIgnorable c then casedAhead t else isCased c := by
  cases hc : isCaseIgnorable c with
  | false =>
    rw [casedAhead, List.dropWhile_cons_of_neg (by simp [hc])]
    rfl
  | true =>
    rw [casedAhead, List.dropWhile_cons_of_pos hc]
    rfl

theorem casedAhead_append_blank (hc : isBlank c = true) (t : Text) :
    ∀ s : Text, casedAhead (s ++ c :: t) = casedAhead s
  | [] => by
    obtain ⟨-, hcased, hignorable⟩ := lower_of_isBlank hc
    rw [List.nil_append, casedAhead_cons, hignorable, hcased]
    rfl
  | d :: s => by
    rw [List.cons_append, casedAhead_cons, casedAhead_cons, casedAhead_append_blank hc t s]

theorem lowerFrom_append_blank (hc : isBlank c = true) (t : Text) : ∀ (b : Bool) (s : Text),
    lowerFrom b (s ++ c :: t) = lowerFrom b s ++ c :: lowercase t
  | b, [] => by
    obtain ⟨hlower, hcased, hignorable⟩ := lower_of_isBlank hc
    have hsigma : c ≠ 'Σ' := by
      rintro rfl
      exact absurd hc (by decide)
    rw [List.nil_append, lowerFrom.eq_2, if_neg hsigma, hlower, hignorable, hcased]
    rfl
  | b, d :: s => by
    rw [List.cons_append, lowerFrom.eq_2, lowerFrom.eq_2, lowerFrom_append_blank hc,
      casedAhead_append_blank hc, List.append_assoc]

/-- **A blank parts what is lowered**: neither side looks past it for a cased character. -/
theorem lowercase_append_blank (hc : isBlank c = true) (s t : Text) :
    lowercase (s ++ c :: t) = lowercase s ++ c :: lowercase t :=
  lowerFrom_append_blank hc t false s

/-- What a text is lowered to comes from its characters, one by one, but for a final sigma. -/
theorem mem_lowerFrom : ∀ {b : Bool} {t : Text}, d ∈ lowerFrom b t →
    ∃ c ∈ t, isBlank d = isBlank c
  | _, [], h => by cases h
  | b, c :: t, h => by
    rw [lowerFrom.eq_2, List.mem_append] at h
    obtain h | h := h
    · refine ⟨c, List.mem_cons_self, ?_⟩
      split at h
      · next hsigma =>
        subst hsigma
        split at h
        all_goals
          obtain rfl := List.mem_singleton.1 h
          rfl
      · exact isBlank_of_mem_lowerChar h
    · obtain ⟨e, he, hde⟩ := mem_lowerFrom h
      exact ⟨e, List.mem_cons_of_mem c he, hde⟩

/-- Lowering brings no blank into a text without any. -/
theorem isBlank_of_mem_lowercase {t : Text} (ht : ∀ c ∈ t, isBlank c = false)
    (h : d ∈ lowercase t) : isBlank d = false := by
  obtain ⟨c, hc, hd⟩ := mem_lowerFrom h
  rw [hd, ht c hc]

/-- What a text is lowered to stays as it is, a final sigma included. -/
theorem lowerChar_of_mem_lowerFrom : ∀ {b : Bool} {t : Text}, d ∈ lowerFrom b t → lowerChar d = [d]
  | _, [], h => by cases h
  | b, c :: t, h => by
    have hfinal : lowerChar 'ς' = ['ς'] := by decide +kernel
    have hsigma : lowerChar 'σ' = ['σ'] := by decide +kernel
    rw [lowerFrom.eq_2, List.mem_append] at h
    obtain h | h := h
    · split at h
      · split at h
        all_goals
          obtain rfl := List.mem_singleton.1 h
          assumption
      · exact lowerChar_of_mem_lowerChar h
    · exact lowerChar_of_mem_lowerFrom h

/-- **A text in lowercase is its own lowercase form**: no capital sigma is left in it that could
become a final one. -/
theorem lowercase_lowercase (t : Text) : lowercase (lowercase t) = lowercase t := by
  have hfixed : ∀ d ∈ lowercase t, lowerChar d = [d] := fun d => lowerChar_of_mem_lowerFrom
  have hsigma : 'Σ' ∉ lowercase t := fun h => absurd (hfixed 'Σ' h) (by decide +kernel)
  rw [lowercase_eq_foldCase hsigma, foldCase_of_forall hfixed]

theorem lowerChar_ne_nil (c : Char) : lowerChar c ≠ [] := by
  rw [lowerChar]
  split
  · exact List.cons_ne_nil _ _
  · split <;> exact List.cons_ne_nil _ _

theorem lowercase_ne_nil {t : Text} (h : t ≠ []) : lowercase t ≠ [] := by
  cases t with
  | nil => exact absurd rfl h
  | cons c t =>
    rw [lowercase, lowerFrom.eq_2]
    refine List.append_ne_nil_of_left_ne_nil ?_ _
    split
    · exact List.cons_ne_nil _ _
    · exact lowerChar_ne_nil c

end Text

/-- **A normal form is its own normal form.** -/
theorem normalForm_normalForm (t : Text) : normalForm (normalForm t) = normalForm t := by
  rw [normalForm, normalForm, Text.squeeze_foldCase_squeeze, Text.foldCase_foldCase]

end SpokenEditor
