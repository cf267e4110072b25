import MotorDrive.Library.Numerals

/-!
# Histories of a sequential object

An object is a state type with a step function that answers each call.  `run step s calls` is the
history of a list of calls made from `s`: one entry per call, with the states before and after it
and the answer.  `final step s calls` is the state the calls leave.

`history_induction` is the rule every property of whole histories is proved with: a relation between
the history so far and the current state that holds at the start and survives one more call holds
after every list of calls.

A register of the object holds one holder at a time, and holders are numbered from a counter.
`tenure_of_run` says what follows for the history: every holder that was installed and is gone was
removed by exactly one call, no later than the next holder was installed.

A streak of a list is a number of last elements that all have a property.  A window of a list goes from an element that
opens it to the end (`Since`).
-/

namespace History

variable {σ ι ω : Type}

/-- One call of a history. -/
structure Entry (σ ι ω : Type) where
  before : σ
  call : ι
  answer : ω
  after : σ

/-- The entry a call leaves in the history. -/
def entry (step : σ → ι → σ × ω) (s : σ) (i : ι) : Entry σ ι ω :=
  ⟨s, i, (step s i).2, (step s i).1⟩

/-- The history of a list of calls. -/
def run (step : σ → ι → σ × ω) : σ → List ι → List (Entry σ ι ω)
  | _, [] => []
  | s, i :: calls => entry step s i :: run step (step s i).1 calls

/-- The state after a list of calls. -/
def final (step : σ → ι → σ × ω) : σ → List ι → σ
  | s, [] => s
  | s, i :: calls => final step (step s i).1 calls

section Rules

variable (step : σ → ι → σ × ω)

@[simp] theorem entry_before (s : σ) (i : ι) : (entry step s i).before = s := rfl

@[simp] theorem entry_call (s : σ) (i : ι) : (entry step s i).call = i := rfl

@[simp] theorem entry_answer (s : σ) (i : ι) : (entry step s i).answer = (step s i).2 := rfl

@[simp] theorem entry_after (s : σ) (i : ι) : (entry step s i).after = (step s i).1 := rfl

theorem final_append (s : σ) (calls : List ι) (i : ι) :
    final step s (calls ++ [i]) = (step (final step s calls) i).1 := by
  induction calls generalizing s with
  | nil => rfl
  | cons j calls ih => exact ih _

theorem run_append (s : σ) (calls : List ι) (i : ι) :
    run step s (calls ++ [i]) = run step s calls ++ [entry step (final step s calls) i] := by
  induction calls generalizing s with
  | nil => rfl
  | cons j calls ih => exact congrArg _ (ih _)

/-- A relation between the history and the state that one more call preserves holds of every run. -/
theorem history_induction {H : List (Entry σ ι ω) → σ → Prop} {s : σ} (start : H [] s)
    (more : ∀ h m i, H h m → H (h ++ [entry step m i]) (step m i).1) (calls : List ι) :
    H (run step s calls) (final step s calls) := by
  induction calls using List.reverseRecOn with
  | nil => exact start
  | append_singleton calls i ih =>
    rw [run_append, final_append]
    exact more _ _ i ih

/-- A run has the calls it was made from. -/
theorem map_call_run (s : σ) (calls : List ι) : (run step s calls).map Entry.call = calls := by
  induction calls generalizing s with
  | nil => rfl
  | cons i calls ih => exact congrArg (i :: ·) (ih _)

/-- Every entry of a run is the entry of some call. -/
theorem exists_entry_of_mem {s : σ} {calls : List ι} {e : Entry σ ι ω}
    (found : e ∈ run step s calls) : ∃ m i, e = entry step m i := by
  induction calls generalizing s with
  | nil => cases found
  | cons i calls ih =>
    rcases List.mem_cons.mp found with rfl | later
    · exact ⟨s, i, rfl⟩
    · exact ih later

/-- An entry of a run stands behind the run of the calls before it. -/
theorem run_split {s : σ} {calls : List ι} {older newer : List (Entry σ ι ω)} {e : Entry σ ι ω}
    (split : run step s calls = older ++ e :: newer) :
    ∃ earlier i later, calls = earlier ++ i :: later ∧ older = run step s earlier ∧
      e = entry step (final step s earlier) i := by
  induction older generalizing s calls with
  | nil =>
    cases calls with
    | nil => cases split
    | cons i later => exact ⟨[], i, later, rfl, rfl, (List.cons.inj split).1.symm⟩
  | cons first older ih =>
    cases calls with
    | nil => cases split
    | cons j calls =>
      obtain ⟨same, rest⟩ := List.cons.inj split
      obtain ⟨earlier, i, later, rfl, rfl, rfl⟩ := ih rest
      exact ⟨j :: earlier, i, later, rfl, congrArg (· :: _) same.symm, rfl⟩

/-- A call begins where the call before it has ended. -/
theorem before_of_succ {s : σ} {calls : List ι} {n : ℕ} {e e' : Entry σ ι ω}
    (found : (run step s calls)[n]? = some e) (next : (run step s calls)[n + 1]? = some e') :
    e'.before = e.after := by
  induction calls generalizing s n with
  | nil => cases found
  | cons i calls ih =>
    cases n with
    | zero =>
      cases found
      cases calls with
      | nil => cases next
      | cons j later =>
        cases next
        rfl
    | succ n => exact ih found next

/-- What no call between two calls changes is after the first what it is before the second. -/
theorem kept_between {β : Type} (view : σ → β) {s : σ} {calls : List ι} {n m : ℕ} {first last : Entry σ ι ω}
    (before : n < m) (found : (run step s calls)[n]? = some first) (found' : (run step s calls)[m]? = some last)
    (kept : ∀ k e, n < k → k < m → (run step s calls)[k]? = some e → view e.after = view e.before) :
    view last.before = view first.after := by
  induction m generalizing last with
  | zero => omega
  | succ m ih =>
    rcases Nat.lt_succ_iff_lt_or_eq.mp before with earlier | rfl
    · have bound := (List.getElem?_eq_some_iff.mp found').1
      have middle := List.getElem?_eq_getElem (l := run step s calls) (i := m) (by omega)
      rw [before_of_succ step middle found', kept m _ earlier (Nat.lt_succ_self m) middle]
      exact ih earlier middle fun k e after until_m at_k => kept k e after (by omega) at_k
    · rw [before_of_succ step found found']

end Rules

/-! ## Positions in a history -/

theorem lt_length_of_getElem? {α : Type} {l : List α} {a : α} {n : ℕ} (h : l[n]? = some a) :
    n < l.length :=
  (List.getElem?_eq_some_iff.mp h).1

/-- Some entry at position `n` has the property. -/
def At (h : List (Entry σ ι ω)) (n : ℕ) (P : Entry σ ι ω → Prop) : Prop :=
  ∃ e, h[n]? = some e ∧ P e

theorem At.mono {h : List (Entry σ ι ω)} {n : ℕ} {P Q : Entry σ ι ω → Prop} (at_n : At h n P)
    (weaker : ∀ e ∈ h, P e → Q e) : At h n Q := by
  obtain ⟨e, found, holds⟩ := at_n
  exact ⟨e, found, weaker e (List.mem_of_getElem? found) holds⟩

theorem At.lt_length {h : List (Entry σ ι ω)} {n : ℕ} {P : Entry σ ι ω → Prop} (at_n : At h n P) :
    n < h.length := by
  obtain ⟨e, found, -⟩ := at_n
  exact lt_length_of_getElem? found

/-- A position of a history with one more entry is an old position or the last one. -/
theorem at_concat {h : List (Entry σ ι ω)} {e : Entry σ ι ω} {n : ℕ} {P : Entry σ ι ω → Prop} :
    At (h ++ [e]) n P ↔ At h n P ∨ n = h.length ∧ P e := by
  constructor
  · rintro ⟨e', found, holds⟩
    by_cases old : n < h.length
    · exact Or.inl ⟨e', by rwa [List.getElem?_append_left old] at found, holds⟩
    · have bound := lt_length_of_getElem? found
      have last : n = h.length := by
        simp only [List.length_append, List.length_singleton] at bound
        omega
      subst last
      simp only [List.getElem?_concat_length, Option.some.injEq] at found
      exact Or.inr ⟨rfl, found ▸ holds⟩
  · rintro (⟨e', found, holds⟩ | ⟨rfl, holds⟩)
    · exact ⟨e', by rwa [List.getElem?_append_left (lt_length_of_getElem? found)], holds⟩
    · exact ⟨e, List.getElem?_concat_length, holds⟩

/-! ## Logs, newest entry first -/

/-- Every entry of the log stands in the relation to the entries before it. -/
def Always {α : Type} (P : α → List α → Prop) : List α → Prop
  | [] => True
  | e :: older => P e older ∧ Always P older

theorem Always.split {α : Type} {P : α → List α → Prop} {newer older : List α} {e : α}
    (always : Always P (newer ++ e :: older)) : P e older := by
  induction newer with
  | nil => exact always.1
  | cons _ newer ih => exact ih always.2

/-! ## Logs, oldest entry first -/

section Added

variable {α : Type} {a : α} {old mid new : List α}

/-- The element is one of those that a growing log gained. -/
def Added (old new : List α) (a : α) : Prop := a ∈ new.drop old.length

theorem Added.mem (added : Added old new a) : a ∈ new := List.mem_of_mem_drop added

theorem added_append {more : List α} : Added old (old ++ more) a ↔ a ∈ more := by
  rw [Added, List.drop_left]

/-- What a log gained in two steps it gained in one of them. -/
theorem added_trans (first : old <+: mid) (second : mid <+: new) :
    Added old new a ↔ Added old mid a ∨ Added mid new a := by
  obtain ⟨more, rfl⟩ := first
  obtain ⟨rest, rfl⟩ := second
  rw [List.append_assoc, added_append, added_append, ← List.append_assoc, added_append, List.mem_append]

/-- An element of a log was there or was added. -/
theorem mem_or_added (grows : old <+: new) (member : a ∈ new) : a ∈ old ∨ Added old new a := by
  obtain ⟨more, rfl⟩ := grows
  exact (List.mem_append.mp member).imp_right added_append.mpr

theorem getElem?_grows {k : ℕ} (grows : old <+: new) (found : old[k]? = some a) : new[k]? = some a := by
  obtain ⟨more, rfl⟩ := grows
  exact List.getElem?_append_left (lt_length_of_getElem? found) ▸ found

end Added

/-! ## Streaks -/

section Streak

variable {α : Type} {P : α → Prop} {l : List α} {n : ℕ}

/-- The last `n` elements have the property.  A counter that starts over at each element without the property
never exceeds such an `n`. -/
def Streak (P : α → Prop) (l : List α) (n : ℕ) : Prop :=
  ∃ older recent, l = older ++ recent ∧ recent.length = n ∧ ∀ a ∈ recent, P a

theorem streak_zero : Streak P l 0 :=
  ⟨l, [], (List.append_nil l).symm, rfl, fun _ member => absurd member List.not_mem_nil⟩

/-- One more element with the property. -/
theorem Streak.concat (streak : Streak P l n) {a : α} (holds : P a) : Streak P (l ++ [a]) (n + 1) := by
  obtain ⟨older, recent, rfl, rfl, all⟩ := streak
  refine ⟨older, recent ++ [a], List.append_assoc .., by simp, fun b member => ?_⟩
  rcases List.mem_append.mp member with before | last
  · exact all b before
  · exact List.mem_singleton.mp last ▸ holds

theorem Streak.le {m : ℕ} (streak : Streak P l n) (fewer : m ≤ n) : Streak P l m := by
  obtain ⟨older, recent, rfl, rfl, all⟩ := streak
  refine ⟨older ++ recent.take (recent.length - m), recent.drop (recent.length - m), ?_, ?_, ?_⟩
  · rw [List.append_assoc, List.take_append_drop]
  · rw [List.length_drop]
    omega
  · exact fun a member => all a (List.mem_of_mem_drop member)

end Streak

/-! ## Windows -/

section Since

variable {α : Type} {opens opens' keeps keeps' : α → Prop} {l : List α} {a : α}

/-- A window has been open since an element that opens it, and all later elements keep it. -/
def Since (opens keeps : α → Prop) (l : List α) : Prop :=
  ∃ first rest, first :: rest <:+ l ∧ opens first ∧ ∀ a ∈ rest, keeps a

theorem since_concat (opening : opens a) : Since opens keeps (l ++ [a]) :=
  ⟨a, [], List.suffix_append l [a], opening, fun _ member => absurd member List.not_mem_nil⟩

theorem Since.concat (since : Since opens keeps l) (keeping : keeps a) : Since opens keeps (l ++ [a]) := by
  obtain ⟨first, rest, ⟨older, rfl⟩, opening, kept⟩ := since
  refine ⟨first, rest ++ [a], ⟨older, by simp⟩, opening, fun b member => ?_⟩
  rcases List.mem_append.mp member with before | last
  · exact kept b before
  · exact List.mem_singleton.mp last ▸ keeping

/-- The last element opens the window or keeps it. -/
theorem Since.last (since : Since opens keeps (l ++ [a])) : opens a ∨ keeps a := by
  obtain ⟨first, rest, ⟨older, split⟩, opening, kept⟩ := since
  rcases List.eq_nil_or_concat rest with rfl | ⟨rest, b, rfl⟩
  · obtain rfl : first = a := List.singleton_inj.mp (List.append_inj' split rfl).2
    exact .inl opening
  · rw [List.concat_eq_append, ← List.cons_append, ← List.append_assoc] at split
    obtain rfl : b = a := List.singleton_inj.mp (List.append_inj' split rfl).2
    exact .inr (kept b (by simp))

theorem Since.mono (since : Since opens keeps l) (open_of : ∀ a, opens a → opens' a)
    (keep_of : ∀ a, keeps a → keeps' a) : Since opens' keeps' l := by
  obtain ⟨first, rest, suffix, opening, kept⟩ := since
  exact ⟨first, rest, suffix, open_of first opening, fun a member => keep_of a (kept a member)⟩

end Since

/-! ## Tenures of a register -/

section Tenure

variable {step : σ → ι → σ × ω} (holder : σ → Option ℕ) (next : σ → ℕ)

/-- The entry installs the holder `id`. -/
def Installs (id : ℕ) (e : Entry σ ι ω) : Prop :=
  holder e.before ≠ some id ∧ holder e.after = some id

/-- The entry removes the holder `id`. -/
def Removes (id : ℕ) (e : Entry σ ι ω) : Prop :=
  holder e.before = some id ∧ holder e.after ≠ some id

/-- Every call keeps the holder, removes it, or installs the next number of the counter. -/
def Numbered (step : σ → ι → σ × ω) : Prop :=
  ∀ s i, (holder (step s i).1 = holder s ∧ next (step s i).1 = next s) ∨
    (holder (step s i).1 = none ∧ next (step s i).1 = next s) ∨
    (holder (step s i).1 = some (next s) ∧ next (step s i).1 = next s + 1)

/-- What a history of numbered holders says about the holders it had. -/
structure Tenure (h : List (Entry σ ι ω)) (s : σ) : Prop where
  holder_lt : ∀ id, holder s = some id → id < next s
  before_lt : ∀ e ∈ h, ∀ id, holder e.before = some id → id < next e.before
  installed_lt : ∀ n id, At h n (Installs holder id) → id < next s
  installed_once : ∀ p q id, At h p (Installs holder id) → At h q (Installs holder id) → p = q
  current : ∀ id, holder s = some id → (∀ n, ¬ At h n (Removes holder id)) ∧
    ∃ p, At h p (Installs holder id) ∧ ∀ q id', At h q (Installs holder id') → q ≤ p
  past : ∀ p id, At h p (Installs holder id) → holder s ≠ some id →
    ∃ n, p < n ∧ At h n (Removes holder id) ∧ (∀ m, At h m (Removes holder id) → m = n) ∧
      ∀ q id', At h q (Installs holder id') → p < q → n ≤ q
  installed_before : ∀ n id, At h n (Removes holder id) → ∃ p, p < n ∧ At h p (Installs holder id)

variable {holder next}

theorem tenure_nil {s : σ} (vacant : holder s = none) :
    Tenure holder next ([] : List (Entry σ ι ω)) s where
  holder_lt id held := by simp [vacant] at held
  before_lt e found := by cases found
  installed_lt n id found := absurd found.lt_length (by simp)
  installed_once p q id found := absurd found.lt_length (by simp)
  current id held := by simp [vacant] at held
  past p id found := absurd found.lt_length (by simp)
  installed_before n id found := absurd found.lt_length (by simp)

theorem Tenure.before_lt_concat {h : List (Entry σ ι ω)} {s : σ} {i : ι}
    (tenure : Tenure holder next h s) :
    ∀ e ∈ h ++ [entry step s i], ∀ id, holder e.before = some id → id < next e.before := by
  intro e found id held
  rcases List.mem_append.mp found with earlier | last
  · exact tenure.before_lt e earlier id held
  · obtain rfl := List.mem_singleton.mp last
    exact tenure.holder_lt id held

/-- A call that leaves the register alone. -/
theorem Tenure.keep {h : List (Entry σ ι ω)} {s : σ} {i : ι} (tenure : Tenure holder next h s)
    (same : holder (step s i).1 = holder s) (count : next (step s i).1 = next s) :
    Tenure holder next (h ++ [entry step s i]) (step s i).1 := by
  have installs : ∀ n id, At (h ++ [entry step s i]) n (Installs holder id) ↔
      At h n (Installs holder id) := by
    intro n id
    rw [at_concat, or_iff_left]
    rintro ⟨-, absent, present⟩
    exact absent (same ▸ present)
  have removes : ∀ n id, At (h ++ [entry step s i]) n (Removes holder id) ↔
      At h n (Removes holder id) := by
    intro n id
    rw [at_concat, or_iff_left]
    rintro ⟨-, present, absent⟩
    exact absent (same.trans present)
  refine ⟨?_, tenure.before_lt_concat, ?_, ?_, ?_, ?_, ?_⟩ <;>
    simp only [installs, removes, same, count]
  · exact tenure.holder_lt
  · exact tenure.installed_lt
  · exact tenure.installed_once
  · exact tenure.current
  · exact tenure.past
  · exact tenure.installed_before

/-- The call that ends a tenure: what the next holder is does not matter, as long as it is new. -/
theorem Tenure.past_of_change {h : List (Entry σ ι ω)} {s : σ} {i : ι}
    (tenure : Tenure holder next h s)
    (change : ∀ id, holder (step s i).1 = some id → next s ≤ id) (p id : ℕ)
    (installed : At h p (Installs holder id)) :
    ∃ n, p < n ∧ At (h ++ [entry step s i]) n (Removes holder id) ∧
      (∀ m, At (h ++ [entry step s i]) m (Removes holder id) → m = n) ∧
      ∀ q id', At (h ++ [entry step s i]) q (Installs holder id') → p < q → n ≤ q := by
  have older : id < next s := tenure.installed_lt p id installed
  have gone : holder (step s i).1 ≠ some id := fun held => by
    have := change id held
    omega
  by_cases held : holder s = some id
  · obtain ⟨kept, p', installed', last⟩ := tenure.current id held
    refine ⟨h.length, installed.lt_length, at_concat.mpr (Or.inr ⟨rfl, held, gone⟩), ?_, ?_⟩
    · intro m removed
      rcases at_concat.mp removed with earlier | ⟨rfl, -⟩
      · exact absurd earlier (kept m)
      · rfl
    · intro q id' installedq later
      rcases at_concat.mp installedq with earlier | ⟨rfl, -⟩
      · have same := tenure.installed_once p p' id installed installed'
        have := last q id' earlier
        omega
      · exact le_rfl
  · obtain ⟨n, after, removed, unique, before⟩ := tenure.past p id installed held
    refine ⟨n, after, at_concat.mpr (Or.inl removed), ?_, ?_⟩
    · intro m removed'
      rcases at_concat.mp removed' with earlier | ⟨-, held', -⟩
      · exact unique m earlier
      · exact absurd held' held
    · intro q id' installedq later
      rcases at_concat.mp installedq with earlier | ⟨rfl, -⟩
      · exact before q id' earlier later
      · exact removed.lt_length.le

theorem Tenure.installed_before_of_change {h : List (Entry σ ι ω)} {s : σ} {i : ι}
    (tenure : Tenure holder next h s) (n id : ℕ)
    (removed : At (h ++ [entry step s i]) n (Removes holder id)) :
    ∃ p, p < n ∧ At (h ++ [entry step s i]) p (Installs holder id) := by
  rcases at_concat.mp removed with earlier | ⟨rfl, held, -⟩
  · obtain ⟨p, before, installed⟩ := tenure.installed_before n id earlier
    exact ⟨p, before, at_concat.mpr (Or.inl installed)⟩
  · obtain ⟨-, p, installed, -⟩ := tenure.current id held
    exact ⟨p, installed.lt_length, at_concat.mpr (Or.inl installed)⟩

/-- A call that empties the register. -/
theorem Tenure.vacate {h : List (Entry σ ι ω)} {s : σ} {i : ι} (tenure : Tenure holder next h s)
    (vacant : holder (step s i).1 = none) (count : next (step s i).1 = next s) :
    Tenure holder next (h ++ [entry step s i]) (step s i).1 := by
  have installs : ∀ n id, At (h ++ [entry step s i]) n (Installs holder id) →
      At h n (Installs holder id) := by
    intro n id found
    rcases at_concat.mp found with earlier | ⟨-, -, present⟩
    · exact earlier
    · exact absurd present (by simp [vacant])
  refine ⟨by simp [vacant], tenure.before_lt_concat, ?_, ?_, by simp [vacant], ?_,
    tenure.installed_before_of_change⟩
  · intro n id found
    exact count ▸ tenure.installed_lt n id (installs n id found)
  · intro p q id first second
    exact tenure.installed_once p q id (installs p id first) (installs q id second)
  · intro p id found _
    exact tenure.past_of_change (by simp [vacant]) p id (installs p id found)

/-- A call that installs the next holder, whatever the register held. -/
theorem Tenure.install {h : List (Entry σ ι ω)} {s : σ} {i : ι} (tenure : Tenure holder next h s)
    (new : holder (step s i).1 = some (next s)) (count : next (step s i).1 = next s + 1) :
    Tenure holder next (h ++ [entry step s i]) (step s i).1 := by
  have installs : ∀ n id, At (h ++ [entry step s i]) n (Installs holder id) →
      At h n (Installs holder id) ∨ n = h.length ∧ id = next s := by
    intro n id found
    rcases at_concat.mp found with earlier | ⟨last, -, present⟩
    · exact Or.inl earlier
    · exact Or.inr ⟨last, (Option.some.inj (new.symm.trans present)).symm⟩
  have unused : ∀ n, ¬ At h n (Installs holder (next s)) := fun n found =>
    absurd (tenure.installed_lt n _ found) (lt_irrefl _)
  have installed : At (h ++ [entry step s i]) h.length (Installs holder (next s)) :=
    at_concat.mpr (Or.inr ⟨rfl, fun held => absurd (tenure.holder_lt _ held) (lt_irrefl _), new⟩)
  refine ⟨?_, tenure.before_lt_concat, ?_, ?_, ?_, ?_, tenure.installed_before_of_change⟩
  · intro id held
    rw [new, Option.some.injEq] at held
    omega
  · intro n id found
    rcases installs n id found with earlier | ⟨-, rfl⟩
    · have := tenure.installed_lt n id earlier
      omega
    · omega
  · intro p q id first second
    rcases installs p id first with first | ⟨rfl, rfl⟩
    · rcases installs q id second with second | ⟨rfl, rfl⟩
      · exact tenure.installed_once p q id first second
      · exact absurd first (unused p)
    · rcases installs q _ second with second | ⟨rfl, -⟩
      · exact absurd second (unused q)
      · rfl
  · intro id held
    rw [new, Option.some.injEq] at held
    subst held
    refine ⟨?_, h.length, installed, fun q id' found => ?_⟩
    · intro n removed
      rcases at_concat.mp removed with earlier | ⟨-, -, absent⟩
      · obtain ⟨p, -, before⟩ := tenure.installed_before n _ earlier
        exact unused p before
      · exact absent new
    · have bound := found.lt_length
      simp only [List.length_append, List.length_singleton] at bound
      omega
  · intro p id found absent
    rcases installs p id found with earlier | ⟨-, rfl⟩
    · refine tenure.past_of_change (fun id' present => ?_) p id earlier
      exact (Option.some.inj (new.symm.trans present)).le
    · exact absurd new absent

/-- Every run of an object with numbered holders keeps the tenure record. -/
theorem tenure_of_run (numbered : Numbered holder next step) {s : σ} (vacant : holder s = none)
    (calls : List ι) : Tenure holder next (run step s calls) (final step s calls) := by
  refine history_induction step (tenure_nil vacant) (fun h m i tenure => ?_) calls
  rcases numbered m i with ⟨same, count⟩ | ⟨vacant, count⟩ | ⟨new, count⟩
  · exact tenure.keep same count
  · exact tenure.vacate vacant count
  · exact tenure.install new count

end Tenure

end History
