import SpokenEditor.Files.Resolve
import SpokenEditor.Proofs.Scores
import Mathlib

/-! # Rounded scores

Of the exact score of two names first the quotient is rounded and then the difference.  Rounding
goes to a multiple of a power of two, the step, and never across one; that is enough to compare the
rounded scores.

* `Binary64.le_trans`, `Binary64.le_total`: numbers are comparable, apart from the one that is none;
* `Binary64.roundUnits_le`, `Binary64.le_roundUnits`: rounding does not cross a multiple of the
  step;
* `exists_similarity`: a rounded score is a number from zero to one;
* `one_le_similarity_iff`: it is one for equal normal forms only, for names of up to `2 ^ 53`
  characters; longer ones may differ by less than the format tells apart. -/

namespace SpokenEditor
namespace Binary64

/-! ### Order -/

/-- Where a number stands on the line of exact values with both its ends. -/
def place : Binary64 → WithBot (WithTop ℤ)
  | nan | infinite true => ⊥
  | infinite false => ⊤
  | finite negative units => (signed negative units : WithTop ℤ)

/-- Numbers are ordered as they stand on the line. -/
theorem le_iff_place_le : ∀ {x y : Binary64},
    le x y = true ↔ x ≠ nan ∧ y ≠ nan ∧ place x ≤ place y
  | nan, _ => by simp [le]
  | infinite true, nan => by simp [le]
  | infinite false, nan => by simp [le]
  | finite s m, nan => by simp [le]
  | infinite true, infinite t => by simp [le, place]
  | infinite true, finite t n => by simp [le, place]
  | infinite false, infinite true => by simp [le, place]
  | infinite false, infinite false => by simp [le, place]
  | infinite false, finite t n => by simp [le, place]
  | finite s m, infinite true => by simp [le, place]
  | finite s m, infinite false => by simp [le, place]
  | finite s m, finite t n => by simp [le, place]

theorem le_trans {x y z : Binary64} (hxy : le x y = true) (hyz : le y z = true) :
    le x z = true := by
  obtain ⟨hx, -, hxy⟩ := le_iff_place_le.1 hxy
  obtain ⟨-, hz, hyz⟩ := le_iff_place_le.1 hyz
  exact le_iff_place_le.2 ⟨hx, hz, hxy.trans hyz⟩

theorem le_total {x y : Binary64} (hx : x ≠ nan) (hy : y ≠ nan) :
    le x y = true ∨ le y x = true := by
  obtain h | h := LinearOrder.le_total (place x) (place y)
  · exact .inl (le_iff_place_le.2 ⟨hx, hy, h⟩)
  · exact .inr (le_iff_place_le.2 ⟨hy, hx, h⟩)

theorem le_finite_iff {m n : Nat} : le (finite false m) (finite false n) = true ↔ m ≤ n := by
  rw [le_iff_signed_le]
  exact Int.ofNat_le

/-! ### Rounding -/

/-- How far apart the numbers next to a quotient are. -/
def step (num den : Nat) : Nat :=
  Nat.pow 2 ((num / den).log2 - 52)

variable {num den k g : Nat}

theorem roundToEven_le (hden : 0 < den) (h : num ≤ k * den) : roundToEven num den ≤ k := by
  have hdiv : num / den ≤ k := Nat.div_le_of_le_mul (Nat.mul_comm k den ▸ h)
  rw [roundToEven]
  split
  · next hup =>
    -- a quotient that is rounded up is no whole number, so it lies below `k`
    have hrest : 0 < num % den := by omega
    have hne : num / den ≠ k := fun heq => by
      have hnum := Nat.div_add_mod num den
      rw [heq, Nat.mul_comm] at hnum
      omega
    omega
  · exact hdiv

theorem le_roundToEven (hden : 0 < den) (h : k * den ≤ num) : k ≤ roundToEven num den := by
  have hdiv : k ≤ num / den := (Nat.le_div_iff_mul_le hden).2 h
  rw [roundToEven]
  split <;> omega

/-- Rounding does not pass a multiple of the step from below. -/
theorem roundUnits_le (hden : 0 < den) (hstep : step num den ∣ g) (h : num ≤ g * den) :
    roundUnits num den ≤ g := by
  obtain ⟨k, rfl⟩ := hstep
  have hpos : 0 < step num den := Nat.two_pow_pos _
  have hround : roundToEven num (den * step num den) ≤ k := by
    refine roundToEven_le (Nat.mul_pos hden hpos) ?_
    calc num ≤ step num den * k * den := h
      _ = k * (den * step num den) := by ring
  calc roundUnits num den = roundToEven num (den * step num den) * step num den := rfl
    _ ≤ k * step num den := Nat.mul_le_mul_right _ hround
    _ = step num den * k := Nat.mul_comm _ _

/-- Nor from above. -/
theorem le_roundUnits (hden : 0 < den) (hstep : step num den ∣ g) (h : g * den ≤ num) :
    g ≤ roundUnits num den := by
  obtain ⟨k, rfl⟩ := hstep
  have hpos : 0 < step num den := Nat.two_pow_pos _
  have hround : k ≤ roundToEven num (den * step num den) := by
    refine le_roundToEven (Nat.mul_pos hden hpos) ?_
    calc k * (den * step num den) = step num den * k * den := by ring
      _ ≤ num := h
  calc step num den * k = k * step num den := Nat.mul_comm _ _
    _ ≤ roundToEven num (den * step num den) * step num den := Nat.mul_le_mul_right _ hround
    _ = roundUnits num den := rfl

/-- The step divides the powers of two that have at least as many digits. -/
theorem step_dvd_pow {e : Nat} (h : (num / den).log2 ≤ e + 52) : step num den ∣ 2 ^ e :=
  Nat.pow_dvd_pow 2 (by omega)

theorem pow_le_roundUnits {e : Nat} (hden : 0 < den) (h : 2 ^ e ≤ num / den) :
    2 ^ e ≤ roundUnits num den := by
  have hne : num / den ≠ 0 := (Nat.lt_of_lt_of_le (Nat.two_pow_pos e) h).ne'
  have hlog : e ≤ (num / den).log2 := (Nat.le_log2 hne).2 h
  calc 2 ^ e ≤ 2 ^ (num / den).log2 := Nat.pow_le_pow_right Nat.two_pos hlog
    _ ≤ roundUnits num den := le_roundUnits hden (step_dvd_pow (by omega))
        ((Nat.le_div_iff_mul_le hden).1 (Nat.log2_self_le hne))

/-! ### One less a quotient of at most one -/

/-- The distance from one to the greatest number below it. -/
def gap : Nat := Nat.pow 2 1021

/-- One and the gap as powers of two, computed once for what follows. -/
theorem powers_of_two : 2 ^ one.log2 = one ∧ 2 ^ gap.log2 = gap ∧ gap * 2 ^ 53 = one ∧
    one.log2 = gap.log2 + 53 ∧ one < Nat.pow 2 2098 := by
  decide +kernel

theorem pow_log2_one : 2 ^ one.log2 = one := powers_of_two.1

theorem pow_log2_gap : 2 ^ gap.log2 = gap := powers_of_two.2.1

theorem gap_mul : gap * 2 ^ 53 = one := powers_of_two.2.2.1

theorem log2_one : one.log2 = gap.log2 + 53 := powers_of_two.2.2.2.1

theorem log2_le_log2 {m n : Nat} (h : m ≤ n) : m.log2 ≤ n.log2 := by
  rw [Nat.log2_eq_log_two, Nat.log2_eq_log_two]
  exact Nat.log_mono_right h

theorem step_dvd_one (h : num / den ≤ one) : step num den ∣ one := by
  have hlog := log2_le_log2 h
  have hpow : step num den ∣ 2 ^ one.log2 := step_dvd_pow (by omega)
  rwa [pow_log2_one] at hpow

theorem roundUnits_le_one (hden : 0 < den) (h : num ≤ one * den) : roundUnits num den ≤ one :=
  roundUnits_le hden (step_dvd_one (Nat.div_le_of_le_mul (Nat.mul_comm one den ▸ h))) h

theorem gap_le_roundUnits (hden : 0 < den) (h : gap * den ≤ num) : gap ≤ roundUnits num den := by
  have hdiv : 2 ^ gap.log2 ≤ num / den := by
    rwa [pow_log2_gap, Nat.le_div_iff_mul_le hden]
  have hround := pow_le_roundUnits hden hdiv
  rwa [pow_log2_gap] at hround

/-- A number that is at most one less the gap is rounded to such a number. -/
theorem roundUnits_add_gap_le {x : Nat} (h : x + gap ≤ one) : roundUnits x 1 + gap ≤ one := by
  have hlog : x.log2 ≤ gap.log2 + 52 := by
    by_cases hx : x = 0
    · rw [hx]
      exact Nat.zero_le _
    · have hgap : 0 < gap := pow_log2_gap ▸ Nat.two_pow_pos _
      have hlt : x.log2 < one.log2 := (Nat.log2_lt hx).2 (by rw [pow_log2_one]; omega)
      have := log2_one
      omega
  have hstep : step x 1 ∣ gap := by
    rw [← Nat.div_one x] at hlog
    exact pow_log2_gap ▸ step_dvd_pow hlog
  have hone : step x 1 ∣ one := gap_mul ▸ Dvd.dvd.mul_right hstep _
  have hround := roundUnits_le Nat.one_pos (Nat.dvd_sub hone hstep) (by omega : x ≤ (one - gap) * 1)
  omega

theorem ofUnits_of_le_one {negative : Bool} (hden : 0 < den) (h : num ≤ one * den) :
    ofUnits negative num den = finite negative (roundUnits num den) := by
  have hlt : one < Nat.pow 2 2098 := powers_of_two.2.2.2.2
  rw [ofUnits, if_pos ((roundUnits_le_one hden h).trans_lt hlt)]

/-- One less a number of at most one. -/
theorem oneMinus_of_le_one {u : Nat} (h : u ≤ one) :
    oneMinus (finite false u) = finite false (roundUnits (one - u) 1) := by
  have hnonneg : ¬((one : Int) - u < 0) := by omega
  have habs : ((one : Int) - u).natAbs = one - u := by omega
  have hsigned : signed false u = (u : Int) := rfl
  rw [oneMinus, hsigned, habs, decide_eq_false hnonneg, ofUnits_of_le_one Nat.one_pos (by omega)]

end Binary64

/-! ### The scores -/

open Binary64 in
/-- A rounded score in units. -/
theorem similarity_eq_finite (a b : Text) :
    let d := editDistance (normalForm a) (normalForm b)
    let m := longest (normalForm a) (normalForm b)
    roundUnits (d * one) m ≤ one ∧
      similarity a b = finite false (roundUnits (one - roundUnits (d * one) m) 1) := by
  intro d m
  have hm : 0 < m := longest_pos _ _
  have hunits : d * one ≤ one * m := by
    rw [Nat.mul_comm]
    exact Nat.mul_le_mul_left one (editDistance_le_longest _ _)
  have hle := roundUnits_le_one hm hunits
  exact ⟨hle, by rw [similarity, ofRatio, ofUnits_of_le_one hm hunits, oneMinus_of_le_one hle]⟩

variable {a b : Text}

/-- A rounded score lies between zero and one. -/
theorem exists_similarity (a b : Text) :
    ∃ u ≤ Binary64.one, similarity a b = .finite false u := by
  obtain ⟨-, h⟩ := similarity_eq_finite a b
  exact ⟨_, Binary64.roundUnits_le_one Nat.one_pos (by omega), h⟩

/-- **Only equal normal forms have the rounded score one**, as long as one edit more or less makes a
difference that the format can hold. -/
theorem one_le_similarity_iff (hlen : longest (normalForm a) (normalForm b) ≤ 2 ^ 53) :
    Binary64.le (.finite false Binary64.one) (similarity a b) = true ↔
      normalForm a = normalForm b := by
  obtain ⟨hle, h⟩ := similarity_eq_finite a b
  rw [h, Binary64.le_finite_iff, ← editDistance_eq_zero_iff]
  obtain ⟨d, hd⟩ : ∃ d, editDistance (normalForm a) (normalForm b) = d := ⟨_, rfl⟩
  obtain ⟨m, hm⟩ : ∃ m, longest (normalForm a) (normalForm b) = m := ⟨_, rfl⟩
  have hpos : 0 < m := hm ▸ longest_pos _ _
  rw [hd, hm] at hle ⊢
  rw [hm] at hlen
  constructor
  · intro hone
    by_contra hne
    -- one edit is at least the gap, so the score stays below one by the gap
    have hunits : Binary64.gap * m ≤ d * Binary64.one := by
      calc Binary64.gap * m ≤ Binary64.gap * 2 ^ 53 := Nat.mul_le_mul_left _ hlen
        _ = Binary64.one := Binary64.gap_mul
        _ ≤ d * Binary64.one := Nat.le_mul_of_pos_left _ (Nat.pos_of_ne_zero hne)
    have hgap := Binary64.gap_le_roundUnits hpos hunits
    have hlow := Binary64.roundUnits_add_gap_le
      (x := Binary64.one - Binary64.roundUnits (d * Binary64.one) m) (by omega)
    have hgappos : 0 < Binary64.gap := Binary64.pow_log2_gap ▸ Nat.two_pow_pos _
    omega
  · rintro rfl
    have hzero : Binary64.roundUnits (0 * Binary64.one) m = 0 := Nat.le_zero.1
      (Binary64.roundUnits_le hpos (Nat.dvd_zero _) (by omega))
    rw [hzero, Nat.sub_zero]
    exact Binary64.le_roundUnits Nat.one_pos (Binary64.step_dvd_one (by omega)) (by omega)

end SpokenEditor
