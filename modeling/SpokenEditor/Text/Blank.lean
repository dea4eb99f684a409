import SpokenEditor.Text.Basic

/-!
# Blanks and words

A blank is a character with the Unicode property `White_Space`. Texts are trimmed of blanks and
split into words, the longest runs free of blanks.

* `isBlank_of_isWhitespace`: every character that core calls whitespace is a blank.
* `trim_eq_nil_iff`: trimming leaves nothing exactly when every character is a blank.
-/

namespace SpokenEditor.Text

/-- The characters with the property `White_Space`. -/
def isBlank (c : Char) : Bool :=
  let n := c.toNat
  (9 ≤ n && n ≤ 13) || n == 0x20 || n == 0x85 || n == 0xA0 || n == 0x1680 ||
    (0x2000 ≤ n && n ≤ 0x200A) || n == 0x2028 || n == 0x2029 || n == 0x202F || n == 0x205F ||
    n == 0x3000

/-- Every character that core calls whitespace is a blank. -/
theorem isBlank_of_isWhitespace {c : Char} (h : c.isWhitespace = true) : isBlank c = true := by
  simp only [Char.isWhitespace, Bool.or_eq_true, decide_eq_true_eq] at h
  rcases h with ((rfl | rfl) | rfl) | rfl <;> decide

/-- The text without the blanks at its start. -/
def trimStart (t : Text) : Text :=
  t.dropWhile isBlank

/-- The text without the blanks at its end. -/
def trimEnd (t : Text) : Text :=
  dropEndWhile isBlank t

/-- The text without the blanks at both ends. -/
def trim (t : Text) : Text :=
  trimEnd (trimStart t)

theorem trimStart_eq_nil_iff : ∀ {t : Text}, trimStart t = [] ↔ ∀ c ∈ t, isBlank c = true
  | [] => by simp [trimStart]
  | c :: t => by
    have ih : t.dropWhile isBlank = [] ↔ ∀ d ∈ t, isBlank d = true := trimStart_eq_nil_iff
    rw [trimStart, List.dropWhile_cons, List.forall_mem_cons]
    split
    · next h => rw [ih]; exact (and_iff_right h).symm
    · next h => exact ⟨nofun, fun hc => absurd hc.1 h⟩

/-- Trimming leaves nothing exactly when every character is a blank. -/
theorem trim_eq_nil_iff {t : Text} : trim t = [] ↔ ∀ c ∈ t, isBlank c = true := by
  rw [trim, trimEnd, dropEndWhile, List.reverse_eq_nil_iff, ← trimStart, trimStart_eq_nil_iff]
  constructor
  · intro h
    rw [← trimStart_eq_nil_iff]
    cases hd : trimStart t with
    | nil => rfl
    | cons c r =>
      have hc : isBlank c = false := by
        have := List.head?_dropWhile_not isBlank t
        rwa [← trimStart, hd] at this
      have hb := h c (List.mem_reverse.2 (hd ▸ List.mem_cons_self))
      exact absurd (hc.symm.trans hb) Bool.false_ne_true
  · intro h c hc
    exact h c ((List.dropWhile_sublist isBlank).subset (List.mem_reverse.1 hc))

/-- The text without any blank. -/
def squeeze (t : Text) : Text :=
  t.filter fun c => !isBlank c

/-- The longest runs free of blanks, in order. -/
def words : Text → List Text
  | [] => []
  | c :: t =>
    if isBlank c then words t
    else
      match t.head?, words t with
      | some d, w :: ws => if isBlank d then [c] :: w :: ws else (c :: w) :: ws
      | _, ws => [c] :: ws

/-- No word is empty. -/
theorem ne_nil_of_mem_words : ∀ {t w : Text}, w ∈ words t → w ≠ []
  | [], _, h => by simp [words] at h
  | c :: t, w, h => by
    rw [words] at h
    split at h
    · exact ne_nil_of_mem_words h
    · split at h
      · next d v vs hd hv =>
        have hmem : ∀ u ∈ v :: vs, u ≠ [] := fun u hu => ne_nil_of_mem_words (hv ▸ hu)
        split at h <;> grind
      · next hv =>
        rcases List.mem_cons.1 h with rfl | h
        · simp
        · exact ne_nil_of_mem_words h

end SpokenEditor.Text
