/-!
# Sets of code points

A set of code points is written as a list of closed ranges in rising order.  Looking a code point
up stops at the first range that lies above it, which is why the order matters: on a list in
rising order the answer is membership in one of the ranges (`inRanges_iff`).
-/

namespace SqlSplit.Unicode

/-- Closed ranges of code points, each written as its first and last member. -/
abbrev Ranges := List (Nat × Nat)

/-- Whether each range is in order and lies above the one before it. -/
def Ranges.rising : Ranges → Bool
  | [] => true
  | [(lo, hi)] => lo ≤ hi
  | (lo, hi) :: (lo', hi') :: rest => lo ≤ hi && hi < lo' && Ranges.rising ((lo', hi') :: rest)

/-- Looks a code point up in ranges in rising order. -/
def inRanges : Ranges → Nat → Bool
  | [], _ => false
  | (lo, hi) :: rest, n => if n < lo then false else n ≤ hi || inRanges rest n

theorem Ranges.rising_tail {r : Nat × Nat} {rest : Ranges} (h : Ranges.rising (r :: rest) = true) :
    Ranges.rising rest = true := by
  obtain ⟨lo, hi⟩ := r
  cases rest with
  | nil => rfl
  | cons s rest =>
    simp only [Ranges.rising, Bool.and_eq_true] at h
    exact h.2

/-- In ranges in rising order, what lies below the first range is in none. -/
theorem Ranges.le_of_mem {r : Nat × Nat} {rest : Ranges}
    (h : Ranges.rising (r :: rest) = true) : ∀ s ∈ r :: rest, r.1 ≤ s.1 := by
  induction rest generalizing r with
  | nil => simp
  | cons s rest ih =>
    intro u hu
    rcases List.mem_cons.1 hu with rfl | hu
    · exact Nat.le_refl _
    · have := ih (Ranges.rising_tail h) u hu
      simp only [Ranges.rising, Bool.and_eq_true, decide_eq_true_eq] at h
      omega

theorem inRanges_iff {ranges : Ranges} (h : ranges.rising = true) (n : Nat) :
    inRanges ranges n = true ↔ ∃ r ∈ ranges, r.1 ≤ n ∧ n ≤ r.2 := by
  induction ranges with
  | nil => simp [inRanges]
  | cons r rest ih =>
    obtain ⟨lo, hi⟩ := r
    have hle := Ranges.le_of_mem h
    simp only [inRanges, List.mem_cons, exists_eq_or_imp]
    split
    · next hlt =>
      constructor
      · simp
      · rintro (⟨h1, _⟩ | ⟨s, hs, h1, _⟩)
        · omega
        · have := hle s (List.mem_cons_of_mem _ hs)
          simp only at this
          omega
    · next hge =>
      rw [Bool.or_eq_true, decide_eq_true_eq, ih (Ranges.rising_tail h)]
      constructor
      · rintro (h1 | h1)
        · exact .inl ⟨by omega, h1⟩
        · exact .inr h1
      · rintro (⟨_, h1⟩ | h1)
        · exact .inl h1
        · exact .inr h1

end SqlSplit.Unicode
