/-!
# Sets of code points

A set of code points is given by its runs, closed intervals in ascending order. Looking a number up
stops at the first run that begins above it, so small code points are found at once.

* `inRuns_eq_any`: on runs in ascending order, looking up means lying in one of them.
-/

namespace SpokenEditor.Text

/-- Whether the number lies in one of the runs, which must be ascending. -/
def inRuns : List (Nat × Nat) → Nat → Bool
  | [], _ => false
  | (lo, hi) :: rest, n => if n < lo then false else n ≤ hi || inRuns rest n

/-- On runs in ascending order, looking up means lying in one of them. -/
theorem inRuns_eq_any : ∀ {runs : List (Nat × Nat)}, runs.Pairwise (fun r s => r.1 ≤ s.1) →
    ∀ n, inRuns runs n = runs.any fun r => r.1 ≤ n && n ≤ r.2
  | [], _, _ => rfl
  | (lo, hi) :: rest, h, n => by
    rw [List.pairwise_cons] at h
    rw [inRuns, List.any_cons, inRuns_eq_any h.2]
    split
    · next hn =>
      have hlow : (rest.any fun r => decide (r.1 ≤ n) && decide (n ≤ r.2)) = false := by
        rw [List.any_eq_false]
        intro r hr
        have := h.1 r hr
        simp
        omega
      simp [hlow]
      omega
    · next hn =>
      rw [decide_eq_true (Nat.le_of_not_lt hn), Bool.true_and]

end SpokenEditor.Text
