import MotorDrive.Library.Numerals

/-!
# Searches

Two things a search keeps while it makes one attempt after the other: the values no two of which are close, and the
value of the least cost, up to a slack for each attempt.
-/

namespace Search

variable {α : Type*}

/-! ## Values that are apart -/

section Apart

variable (close : α → α → Prop)

open Classical in
/-- A value is added unless a kept one is close to it. -/
noncomputable def keepApart (kept : List α) (value : α) : List α :=
  if ∃ other ∈ kept, close other value then kept else kept ++ [value]

variable {close} {kept : List α} {value other : α}

theorem pairwise_keepApart (apart : kept.Pairwise fun a b => ¬close a b) :
    (keepApart close kept value).Pairwise fun a b => ¬close a b := by
  unfold keepApart
  split_ifs with known
  · exact apart
  · refine List.pairwise_append.mpr ⟨apart, List.pairwise_singleton _ _, fun other member new last => ?_⟩
    rw [List.mem_singleton.mp last]
    exact fun near => known ⟨other, member, near⟩

/-- The value, or one close to it, is among the kept ones. -/
theorem exists_keepApart (refl : close value value) : ∃ other ∈ keepApart close kept value, close other value := by
  unfold keepApart
  split_ifs with known
  · exact known
  · exact ⟨value, List.mem_append_right _ List.mem_cons_self, refl⟩

theorem mem_keepApart_of_mem (member : other ∈ kept) : other ∈ keepApart close kept value := by
  unfold keepApart
  split_ifs
  · exact member
  · exact List.mem_append_left _ member

end Apart

/-! ## The least cost -/

section Cost

variable {cost : α → ℝ} {slack : ℝ} {counts : α → Prop} {best value : α} {made : List α}

/-- No counted attempt is cheaper than the best one by more than the slack of all the attempts. -/
def Cheapest (cost : α → ℝ) (slack : ℝ) (counts : α → Prop) (made : List α) (best : α) : Prop :=
  ∀ attempt ∈ made, counts attempt → cost best ≤ cost attempt + made.length * slack

/-- The best one stays if the new attempt does not count, or is not cheaper. -/
theorem Cheapest.keep (cheapest : Cheapest cost slack counts made best) (positive : 0 ≤ slack)
    (worse : counts value → cost best ≤ cost value) : Cheapest cost slack counts (made ++ [value]) best := by
  intro attempt member counted
  rw [List.length_append, List.length_singleton, Nat.cast_add, Nat.cast_one]
  rcases List.mem_append.mp member with member | last
  · linarith [cheapest attempt member counted]
  · rw [List.mem_singleton.mp last] at counted ⊢
    have counter : 0 ≤ (made.length : ℝ) * slack := mul_nonneg (Nat.cast_nonneg _) positive
    linarith [worse counted]

/-- The new attempt takes its place if it is dearer by the slack at most. -/
theorem Cheapest.replace (cheapest : Cheapest cost slack counts made best) (positive : 0 ≤ slack)
    (near : cost value ≤ cost best + slack) : Cheapest cost slack counts (made ++ [value]) value := by
  intro attempt member counted
  rw [List.length_append, List.length_singleton, Nat.cast_add, Nat.cast_one]
  rcases List.mem_append.mp member with member | last
  · linarith [cheapest attempt member counted]
  · rw [List.mem_singleton.mp last]
    have counter : 0 ≤ (made.length : ℝ) * slack := mul_nonneg (Nat.cast_nonneg _) positive
    linarith

/-- The first attempt that counts is the cheapest one. -/
theorem Cheapest.first (fresh : ∀ attempt ∈ made, ¬counts attempt) (positive : 0 ≤ slack) :
    Cheapest cost slack counts (made ++ [value]) value := by
  intro attempt member counted
  rcases List.mem_append.mp member with member | last
  · exact absurd counted (fresh attempt member)
  · rw [List.mem_singleton.mp last]
    have counter : 0 ≤ ((made ++ [value]).length : ℝ) * slack := mul_nonneg (Nat.cast_nonneg _) positive
    linarith

end Cost

end Search
