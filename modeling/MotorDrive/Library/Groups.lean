import MotorDrive.Library.Numerals

/-!
# Maximal groups of a list

What one more element does to the groups of `List.splitBy`: it continues the last group or begins a new one.
-/

namespace Groups

variable {α : Type} {r : α → α → Bool} {l group : List α} {groups : List (List α)} {a : α}

/-- An element that is related to the last one continues its group. -/
theorem splitBy_concat_of_related (split : l.splitBy r = groups ++ [group])
    (related : ∀ b ∈ group.getLast?, r b a = true) : (l ++ [a]).splitBy r = groups ++ [group ++ [a]] := by
  obtain ⟨rfl, nonempty, chains, ends⟩ := List.splitBy_eq_iff.mp split
  rw [List.mem_append, not_or, List.mem_singleton] at nonempty
  have last : group.IsChain fun x y => r x y := chains group (by simp)
  refine List.splitBy_eq_iff.mpr ⟨by simp, ?_, fun m member => ?_, ?_⟩
  · simpa using nonempty.1
  · rcases List.mem_append.mp member with earlier | final
    · exact chains m (List.mem_append_left _ earlier)
    · rw [List.mem_singleton.mp final]
      refine List.isChain_append.mpr ⟨last, List.isChain_singleton _, fun b at_end c first => ?_⟩
      cases first
      exact related b at_end
  · obtain ⟨before, -, between⟩ := List.isChain_append.mp ends
    refine List.isChain_append.mpr ⟨before, List.isChain_singleton _, fun first at_end second head => ?_⟩
    cases head
    obtain ⟨some, others, apart⟩ := between first at_end group rfl
    exact ⟨some, by simp, by rwa [List.head_append_of_ne_nil]⟩

/-- An element that is not related to the last one begins a group. -/
theorem splitBy_concat_of_not_related (apart : ∀ b ∈ l.getLast?, r b a = false) :
    (l ++ [a]).splitBy r = l.splitBy r ++ [[a]] :=
  List.splitBy_append_cons [] apart

/-- The last element of a list is that of its last group. -/
theorem getLast?_of_split (split : l.splitBy r = groups ++ [group]) : l.getLast? = group.getLast? := by
  obtain ⟨rfl, nonempty, -, -⟩ := List.splitBy_eq_iff.mp split
  rw [List.mem_append, not_or, List.mem_singleton] at nonempty
  rw [List.flatten_append, List.flatten_singleton]
  exact List.getLast?_append_of_ne_nil _ fun none => nonempty.2 none.symm

/-- The groups of a list other than the first and the last. -/
def inner (groups : List (List α)) : List (List α) := groups.tail.dropLast

theorem inner_concat (groups : List (List α)) (group : List α) : inner (groups ++ [group]) = groups.tail := by
  cases groups with
  | nil => rfl
  | cons first rest => simp [inner]

/-- One more element leaves the groups between the first and the last. -/
theorem mem_inner_concat (member : group ∈ inner (l.splitBy r)) : group ∈ inner ((l ++ [a]).splitBy r) := by
  rcases List.eq_nil_or_concat (l.splitBy r) with none | ⟨groups, last, split⟩
  · rw [none] at member
    exact absurd member List.not_mem_nil
  · rw [List.concat_eq_append] at split
    rw [split, inner_concat] at member
    by_cases related : ∀ b ∈ last.getLast?, r b a = true
    · rw [splitBy_concat_of_related split related, inner_concat]
      exact member
    · push Not at related
      obtain ⟨b, ends, apart⟩ := related
      rw [splitBy_concat_of_not_related, split, inner_concat]
      · cases groups with
        | nil => exact absurd member List.not_mem_nil
        | cons first rest => exact List.mem_append_left _ member
      · intro c at_end
        rw [getLast?_of_split split] at at_end
        cases Option.mem_unique ends at_end
        exact Bool.eq_false_iff.mpr apart

end Groups
