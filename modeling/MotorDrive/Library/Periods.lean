import MotorDrive.Library.Numerals

/-!
# The ticks of a period

The ticks `start + k • period` of a period, and the first of them, from the second on, that lies after an instant.
-/

namespace Periods

variable {G : Type} [AddCommGroup G] [LinearOrder G] {start period now : G} {k j : ℕ}

/-- The tick `k`, which is not the first one, is the earliest tick after an instant. -/
structure Next (start period now : G) (k : ℕ) : Prop where
  later : 1 ≤ k
  after : now < start + k • period
  least : ∀ j, 1 ≤ j → now < start + j • period → k ≤ j

theorem Next.unique (first : Next start period now k) (second : Next start period now j) : k = j :=
  Nat.le_antisymm (first.least j second.later second.after) (second.least k first.later first.after)

/-- The tick in front of the next one has been reached. -/
theorem Next.before_le (next : Next start period now k) (due : start ≤ now) : start + (k - 1) • period ≤ now := by
  rcases Nat.eq_or_lt_of_le next.later with first | later
  · rw [← first, Nat.sub_self, zero_nsmul, add_zero]
    exact due
  · by_contra after
    have fewer := next.least (k - 1) (by omega) (not_le.mp after)
    omega

/-- If the second tick has been reached, the next one is counted from there. -/
theorem Next.pred (next : Next start period now (k + 1)) (due : start + period ≤ now) :
    Next (start + period) period now k := by
  have shift (j : ℕ) : start + period + j • period = start + (j + 1) • period := by
    rw [succ_nsmul']
    abel
  refine ⟨?_, shift k ▸ next.after, fun j _ beyond => ?_⟩
  · by_contra none
    obtain rfl : k = 0 := by omega
    have after := next.after
    rw [zero_add, one_nsmul] at after
    exact absurd after (not_lt.mpr due)
  · exact Nat.le_of_succ_le_succ (next.least (j + 1) (Nat.le_add_left 1 j) (shift j ▸ beyond))

variable [IsOrderedAddMonoid G]

/-- The next tick is at most a period away. -/
theorem Next.le (next : Next start period now k) (due : start ≤ now) : start + k • period ≤ now + period := by
  have reached := next.before_le due
  have split : start + k • period = start + (k - 1) • period + period := by
    rw [add_assoc, ← succ_nsmul, Nat.sub_add_cancel next.later]
  rw [split]
  exact add_le_add_left reached period

/-- A tick after an instant is the next one if the tick in front of it has been reached. -/
theorem next_of_reached (positive : 0 < period) (reached : start + k • period ≤ now)
    (after : now < start + (k + 1) • period) : Next start period now (k + 1) := by
  refine ⟨Nat.le_add_left 1 k, after, fun j _ beyond => ?_⟩
  by_contra fewer
  have le : j • period ≤ k • period := nsmul_le_nsmul_left positive.le (by omega)
  exact absurd (beyond.trans_le (add_le_add_right le start)) (not_lt.mpr reached)

end Periods
