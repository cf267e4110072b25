import MotorDrive.Library.Numerals

/-!
# Validation

Rules for computations in `Except` that reject or continue: what a success says about the tests, about
every item of a traversal and about the states that a fold goes through.
-/

namespace Validate

variable {ε α β σ : Type}

/-- The test that ends a validation with an error. -/
def reject (wrong : Prop) [Decidable wrong] (error : ε) : Except ε Unit :=
  if wrong then .error error else .ok ()

@[simp] theorem reject_eq_ok {wrong : Prop} [Decidable wrong] {error : ε} {u : Unit} :
    reject wrong error = .ok u ↔ ¬ wrong := by
  unfold reject
  split_ifs with h <;> simp [h]

@[simp] theorem ok_bind (a : α) (next : α → Except ε β) : ((Except.ok a : Except ε α) >>= next) = next a := rfl

@[simp] theorem map_ok (a : α) (f : α → β) : f <$> (Except.ok a : Except ε α) = .ok (f a) := rfl

@[simp] theorem pure_eq_ok (a : α) : (pure a : Except ε α) = .ok a := rfl

theorem bind_eq_ok {first : Except ε α} {next : α → Except ε β} {b : β} (ok : (first >>= next) = .ok b) :
    ∃ a, first = .ok a ∧ next a = .ok b := by
  cases first with
  | error e => cases ok
  | ok a => exact ⟨a, rfl, ok⟩

/-- A passed test in front of a validation. -/
theorem reject_bind_eq_ok {wrong : Prop} [Decidable wrong] {error : ε} {next : Unit → Except ε β} {b : β}
    (ok : (reject wrong error >>= next) = .ok b) : ¬ wrong ∧ next () = .ok b := by
  obtain ⟨_, passed, rest⟩ := bind_eq_ok ok
  exact ⟨reject_eq_ok.mp passed, rest⟩

theorem reject_bind_of_not {wrong : Prop} [Decidable wrong] {error : ε} {next : Unit → Except ε β} (right : ¬ wrong) :
    (reject wrong error >>= next) = next () := by
  have passed : reject wrong error = .ok () := reject_eq_ok.mpr right
  rw [passed]
  rfl

theorem forM_eq_ok {items : List α} {check : α → Except ε Unit} (ok : items.forM check = .ok ()) :
    ∀ item ∈ items, check item = .ok () := by
  induction items with
  | nil => nofun
  | cons head rest ih =>
    obtain ⟨_, first, later⟩ := bind_eq_ok ok
    intro item member
    rcases List.mem_cons.mp member with rfl | member
    · exact first
    · exact ih later item member

theorem forM_ok {items : List α} {check : α → Except ε Unit} (each : ∀ item ∈ items, check item = .ok ()) :
    items.forM check = .ok () := by
  induction items with
  | nil => rfl
  | cons head rest ih =>
    change (check head >>= fun _ => rest.forM check) = .ok ()
    rw [each head (List.mem_cons_self ..)]
    exact ih fun item member => each item (List.mem_cons_of_mem _ member)

theorem mapM_ok {items : List α} {f : α → Except ε β} {g : α → β} (each : ∀ item ∈ items, f item = .ok (g item)) :
    items.mapM f = .ok (items.map g) := by
  induction items with
  | nil => rfl
  | cons head rest ih =>
    rw [List.mapM_cons, each head (List.mem_cons_self ..),
      ih fun item member => each item (List.mem_cons_of_mem _ member)]
    rfl

/-- Every item of a successful traversal has its result. -/
theorem mapM_eq_ok {items : List α} {f : α → Except ε β} {results : List β} (ok : items.mapM f = .ok results) :
    results.length = items.length ∧
      ∀ (n : ℕ) (item : α), items[n]? = some item → ∃ result, results[n]? = some result ∧ f item = .ok result := by
  induction items generalizing results with
  | nil =>
    cases ok
    exact ⟨rfl, nofun⟩
  | cons head rest ih =>
    rw [List.mapM_cons] at ok
    obtain ⟨b, first, later⟩ := bind_eq_ok ok
    obtain ⟨bs, others, result⟩ := bind_eq_ok later
    cases result
    obtain ⟨same, each⟩ := ih others
    refine ⟨congrArg (· + 1) same, fun n item found => ?_⟩
    cases n with
    | zero =>
      cases found
      exact ⟨b, rfl, first⟩
    | succ n => exact each n item found

/-- Every result of a successful traversal is the one of an item. -/
theorem mem_of_mapM_eq_ok {items : List α} {f : α → Except ε β} {results : List β}
    (ok : items.mapM f = .ok results) : ∀ result ∈ results, ∃ item ∈ items, f item = .ok result := by
  intro result member
  obtain ⟨same, each⟩ := mapM_eq_ok ok
  obtain ⟨n, bound, rfl⟩ := List.getElem_of_mem member
  have found : items[n]? = some items[n] := List.getElem?_eq_getElem (same ▸ bound)
  obtain ⟨result', place, made⟩ := each n _ found
  rw [List.getElem?_eq_getElem bound, Option.some.injEq] at place
  exact ⟨_, List.getElem_mem _, place ▸ made⟩

/-- A traversal succeeds when each item has a result, and the results keep what is known of them. -/
theorem exists_mapM {items : List α} {f : α → Except ε β} (known : ℕ → β → Prop)
    (each : ∀ (k : ℕ) (item : α), items[k]? = some item → ∃ b, f item = .ok b ∧ known k b) :
    ∃ results, items.mapM f = .ok results ∧ results.length = items.length ∧
      ∀ (k : ℕ) (b : β), results[k]? = some b → known k b := by
  induction items generalizing known with
  | nil => exact ⟨[], rfl, rfl, nofun⟩
  | cons head rest ih =>
    obtain ⟨b, first, knows⟩ := each 0 head rfl
    obtain ⟨bs, others, same, known'⟩ := ih (fun k => known (k + 1)) fun k item found =>
      each (k + 1) item found
    refine ⟨b :: bs, ?_, congrArg (· + 1) same, fun k b' found => ?_⟩
    · rw [List.mapM_cons, first, ok_bind, others]
      rfl
    · cases k with
      | zero =>
        cases found
        exact knows
      | succ k => exact known' k b' found

/-- A fold succeeds when each turn keeps an invariant. -/
theorem exists_foldlM {items : List α} {f : σ → α → Except ε σ} {first : σ} (invariant : ℕ → σ → Prop)
    (start : invariant 0 first)
    (turn : ∀ (k : ℕ) (item : α) (state : σ), items[k]? = some item → invariant k state →
      ∃ state', f state item = .ok state' ∧ invariant (k + 1) state') :
    ∃ last, items.foldlM f first = .ok last ∧ invariant items.length last := by
  induction items generalizing first invariant with
  | nil => exact ⟨first, rfl, start⟩
  | cons head rest ih =>
    obtain ⟨next, step, keeps⟩ := turn 0 head first rfl start
    obtain ⟨last, folded, ends⟩ := ih (fun k => invariant (k + 1)) keeps fun k item state found =>
      turn (k + 1) item state found
    exact ⟨last, by rw [List.foldlM_cons, step, ok_bind, folded], ends⟩

/-- The states that a successful fold goes through. -/
theorem foldlM_eq_ok {items : List α} {f : σ → α → Except ε σ} {first last : σ}
    (ok : items.foldlM f first = .ok last) :
    ∃ states : ℕ → σ, states 0 = first ∧ states items.length = last ∧
      ∀ (k : ℕ) (item : α), items[k]? = some item → f (states k) item = .ok (states (k + 1)) := by
  induction items generalizing first with
  | nil =>
    cases ok
    exact ⟨fun _ => last, rfl, rfl, nofun⟩
  | cons head rest ih =>
    rw [List.foldlM_cons] at ok
    obtain ⟨next, step, later⟩ := bind_eq_ok ok
    obtain ⟨states, start, finish, steps⟩ := ih later
    refine ⟨fun k => Nat.casesOn k first states, rfl, finish, fun k item at_k => ?_⟩
    cases k with
    | zero =>
      cases at_k
      exact step.trans (congrArg _ start.symm)
    | succ k => exact steps k item at_k

/-- A loop whose turns update one entry each of a family, by what the entry was. -/
theorem foldlM_update_eq_ok {ι : Type} [DecidableEq ι] {check : ι → σ → Except ε σ} {items : List ι}
    (distinct : items.Nodup) {first last : ι → σ} :
    items.foldlM (fun family i => (check i (family i)).map (Function.update family i)) first = .ok last ↔
      (∀ i ∈ items, check i (first i) = .ok (last i)) ∧ ∀ i ∉ items, last i = first i := by
  induction items generalizing first with
  | nil =>
    refine ⟨fun ok => ⟨fun _ member => absurd member List.not_mem_nil, fun i _ => ?_⟩, fun same => ?_⟩
    · rw [Except.ok.inj ok]
    · exact congrArg Except.ok (funext fun i => (same.2 i List.not_mem_nil).symm)
  | cons head rest ih =>
    obtain ⟨fresh, distinct⟩ := List.nodup_cons.mp distinct
    have others (entry : σ) {i : ι} (member : i ∈ rest) : Function.update first head entry i = first i :=
      Function.update_of_ne (fun same : i = head => fresh (same ▸ member)) _ _
    rw [List.foldlM_cons]
    constructor
    · intro ok
      obtain ⟨family, checked, later⟩ := bind_eq_ok ok
      cases found : check head (first head) with
      | error e =>
        rw [found] at checked
        cases checked
      | ok entry =>
        rw [found] at checked
        cases checked
        obtain ⟨each, kept⟩ := (ih distinct).mp later
        have at_head : last head = entry := (kept head fresh).trans (Function.update_self ..)
        refine ⟨fun i member => ?_, fun i absent => ?_⟩
        · rcases List.mem_cons.mp member with rfl | member
          · rw [found, at_head]
          · exact others entry member ▸ each i member
        · obtain ⟨other, absent⟩ := not_or.mp (fun either => absent (List.mem_cons.mpr either))
          rw [kept i absent, Function.update_of_ne other]
    · rintro ⟨each, kept⟩
      rw [each head List.mem_cons_self]
      refine (ih distinct).mpr ⟨fun i member => ?_, fun i absent => ?_⟩
      · rw [others _ member]
        exact each i (List.mem_cons_of_mem _ member)
      · by_cases same : i = head
        · rw [same, Function.update_self]
        · rw [Function.update_of_ne same]
          exact kept i fun member => (List.mem_cons.mp member).elim same absent

end Validate
