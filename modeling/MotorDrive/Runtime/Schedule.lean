import MotorDrive.Library.Periods

/-!
# The periodic schedulers

The worker of the runtime moves a deadline that is due by a division (`advance_periodic_deadline`), the DDS service by
repeated addition (`CycloneService::Impl::advance`).  Instants and periods are nanoseconds of the steady clock, and zero
is `time_point{}`.
-/

namespace MotorDrive.Schedule

open Periods

/-- `detail::advance_periodic_deadline`. -/
def advancePeriodicDeadline (deadline period now : ℤ) : ℤ :=
  let deadline := if deadline = 0 then now else deadline
  if now < deadline then deadline
  else
    let overdue := now - deadline
    let periods := overdue.tdiv period + 1
    deadline + period * periods

/-- `CycloneService::Impl::advance`: so many rounds of its loop, `none` where it needs more. -/
def advance (deadline period now : ℤ) : ℕ → Option ℤ
  | 0 => none
  | rounds + 1 =>
    let deadline := deadline + period
    if deadline ≤ now then advance deadline period now rounds else some deadline

section Agreement

variable {deadline period now : ℤ} {k : ℕ}

/-- The division counts the periods up to the next tick. -/
theorem next_of_division (positive : 0 < period) (due : deadline ≤ now) :
    Next deadline period now (((now - deadline).tdiv period).toNat + 1) := by
  have overdue : 0 ≤ now - deadline := sub_nonneg.mpr due
  have quotient : (((now - deadline).tdiv period).toNat : ℤ) = (now - deadline) / period := by
    rw [Int.toNat_of_nonneg (Int.tdiv_nonneg overdue positive.le), Int.tdiv_eq_ediv_of_nonneg overdue]
  have division := Int.mul_ediv_add_emod (now - deadline) period
  have low := Int.emod_nonneg (now - deadline) positive.ne'
  have high := Int.emod_lt_of_pos (now - deadline) positive
  refine next_of_reached positive ?_ ?_
  · rw [nsmul_eq_mul, quotient, mul_comm]
    omega
  · rw [nsmul_eq_mul, Nat.cast_succ, quotient, add_mul, one_mul, mul_comm]
    omega

/-- A deadline that is due is moved to the next tick by the division. -/
theorem advancePeriodicDeadline_of_next (set : deadline ≠ 0) (positive : 0 < period) (due : deadline ≤ now)
    (next : Next deadline period now k) : advancePeriodicDeadline deadline period now = deadline + k * period := by
  have counted := next.unique (next_of_division positive due)
  have nonneg : 0 ≤ (now - deadline).tdiv period := Int.tdiv_nonneg (sub_nonneg.mpr due) positive.le
  have same : (now - deadline).tdiv period + 1 = k := by omega
  simp only [advancePeriodicDeadline, if_neg set]
  rw [if_neg (not_lt.mpr due), same, mul_comm]

/-- The loop ends at the next tick, in as many rounds as there are periods up to it. -/
theorem advance_of_next (next : Next deadline period now k) (rounds : ℕ) :
    advance deadline period now rounds = if k ≤ rounds then some (deadline + k * period) else none := by
  induction rounds generalizing deadline k with
  | zero =>
    have later := next.later
    rw [advance, if_neg (by omega)]
  | succ rounds ih =>
    rw [advance]
    by_cases again : deadline + period ≤ now
    · obtain ⟨j, rfl⟩ : ∃ j, k = j + 1 := ⟨k - 1, (Nat.sub_add_cancel next.later).symm⟩
      have distance : deadline + period + j * period = deadline + (j + 1 : ℕ) * period := by
        rw [Nat.cast_succ]
        ring
      rw [if_pos again, ih (next.pred again), distance]
      exact if_congr (Nat.succ_le_succ_iff.symm) rfl rfl
    · have first : k = 1 := by
        refine Nat.le_antisymm (next.least 1 le_rfl ?_) next.later
        rw [one_nsmul]
        exact not_le.mp again
      rw [if_neg again, first, if_pos (by omega), Nat.cast_one, one_mul]

/-- Both schedulers move a deadline that is due to the next tick: the first one after now, at most a period away, with
no tick in between that is not overdue.  The loop ends after as many rounds. -/
theorem schedulers_agree (deadline period now : ℤ) (set : deadline ≠ 0) (positive : 0 < period) (due : deadline ≤ now) :
    ∃ k : ℕ, Next deadline period now k ∧
      advancePeriodicDeadline deadline period now = deadline + k * period ∧
      (∀ rounds, advance deadline period now rounds = if k ≤ rounds then some (deadline + k * period) else none) ∧
      deadline + (k - 1) * period ≤ now ∧ deadline + k * period ≤ now + period := by
  have next := next_of_division positive due
  have before := next.before_le due
  have near := next.le due
  rw [nsmul_eq_mul, Nat.cast_sub next.later, Nat.cast_one] at before
  rw [nsmul_eq_mul] at near
  exact ⟨_, next, advancePeriodicDeadline_of_next set positive due next, advance_of_next next, before, near⟩

/-- A worker that wakes 10 ms late with a period of 2 ms goes on at 12 ms, after six rounds of the loop. -/
theorem schedulers_agree_delayed : advancePeriodicDeadline 1000000000 2000000 1010000000 = 1012000000 ∧
    advance 1000000000 2000000 1010000000 6 = some 1012000000 := by
  obtain ⟨k, next, division, loop, -, -⟩ :=
    schedulers_agree 1000000000 2000000 1010000000 (by decide) (by decide) (by decide)
  have counted : advancePeriodicDeadline 1000000000 2000000 1010000000 = 1012000000 := by decide
  obtain rfl : k = 6 := by omega
  exact ⟨counted, loop 6⟩

/-! ## The ticks of a run -/

/-- The ticks that a worker serves at the instants at which it wakes, and the deadline that it leaves: it serves a
deadline that is due and moves it. -/
def serve (move : ℤ → ℤ → Option ℤ) : ℤ → List ℤ → Option (List ℤ × ℤ)
  | deadline, [] => some ([], deadline)
  | deadline, now :: wakes =>
    if deadline ≤ now then do
      let moved ← move deadline now
      let (ticks, last) ← serve move moved wakes
      return (deadline :: ticks, last)
    else serve move deadline wakes

/-- A tick comes a positive number of periods after another one. -/
def Later (period tick tick' : ℤ) : Prop := ∃ k : ℕ, 1 ≤ k ∧ tick' = tick + k * period

/-- In every run of wakes both schedulers serve the same ticks, and each tick lies a positive number of periods after
the one before. -/
theorem serve_agree {rounds : ℕ} (positive : 0 < period) (wakes : List ℤ) (set : 0 < deadline)
    (many : ∀ now ∈ wakes, now - deadline < rounds) :
    ∃ ticks last, serve (fun deadline now => some (advancePeriodicDeadline deadline period now)) deadline wakes =
        some (ticks, last) ∧
      serve (fun deadline now => advance deadline period now rounds) deadline wakes = some (ticks, last) ∧
      (ticks ++ [last]).head? = some deadline ∧ (ticks ++ [last]).IsChain (Later period) := by
  induction wakes generalizing deadline with
  | nil => exact ⟨[], deadline, rfl, rfl, rfl, .singleton _⟩
  | cons now wakes ih =>
    have later := fun now' (member : now' ∈ wakes) => many now' (List.mem_cons_of_mem now member)
    by_cases due : deadline ≤ now
    · obtain ⟨k, next, division, loop, before, -⟩ := schedulers_agree deadline period now set.ne' positive due
      have apart : deadline < deadline + k * period := due.trans_lt (by simpa using next.after)
      have few : k ≤ rounds := by
        have bound := many now List.mem_cons_self
        have periods : (k - 1 : ℤ) * 1 ≤ (k - 1) * period := by
          have counted := next.later
          exact mul_le_mul_of_nonneg_left positive (by omega)
        omega
      obtain ⟨ticks, last, first, second, head, chain⟩ := ih (set.trans apart)
        fun now' member => (sub_lt_sub_left apart now').trans (later now' member)
      refine ⟨deadline :: ticks, last, ?_, ?_, rfl, ?_⟩
      · rw [serve, if_pos due, division]
        simp only [Option.bind_eq_bind, Option.bind_some, first]
        rfl
      · rw [serve, if_pos due, loop, if_pos few]
        simp only [Option.bind_eq_bind, Option.bind_some, second]
        rfl
      · rw [List.cons_append]
        refine List.isChain_cons.mpr ⟨fun tick found => ?_, chain⟩
        obtain rfl : deadline + k * period = tick := Option.some.inj (head.symm.trans found)
        exact ⟨k, next.later, rfl⟩
    · obtain ⟨ticks, last, first, second, rest⟩ := ih set later
      refine ⟨ticks, last, ?_, ?_, rest⟩
      · rw [serve, if_neg due, first]
      · rw [serve, if_neg due, second]

end Agreement

end MotorDrive.Schedule
