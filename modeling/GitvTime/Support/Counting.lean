import Mathlib.Data.Set.Card

/-!
# Counting the keys whose value has a property

The number of keys satisfying a property changes by the difference at the one
key that is written.
-/
namespace GitvTime.Support

open Classical in
/-- Two sets that agree away from one point differ in size by their difference
at that point. -/
theorem ncard_change_at {ι : Type} {before : Set ι} (after : Set ι) (point : ι)
    (finite : before.Finite)
    (same : ∀ i, i ≠ point → (i ∈ after ↔ i ∈ before)) :
    (after.ncard : ℤ) - (if point ∈ after then 1 else 0) =
      (before.ncard : ℤ) - (if point ∈ before then 1 else 0) := by
  have rest : after \ {point} = before \ {point} := by
    ext i
    simp only [Set.mem_sdiff, Set.mem_singleton_iff]
    constructor
    · rintro ⟨member, different⟩
      exact ⟨(same i different).mp member, different⟩
    · rintro ⟨member, different⟩
      exact ⟨(same i different).mpr member, different⟩
  have finite' : after.Finite := by
    refine (finite.insert point).subset fun i member => ?_
    by_cases h : i = point
    · exact .inl h
    · exact .inr ((same i h).mp member)
  have count : ∀ s : Set ι, s.Finite →
      (s.ncard : ℤ) - (if point ∈ s then 1 else 0) = ((s \ {point}).ncard : ℤ) := by
    intro s hs
    by_cases member : point ∈ s
    · have h := Set.ncard_sdiff_singleton_add_one member hs
      simp only [member, if_true]
      omega
    · rw [Set.sdiff_singleton_eq_self member]
      simp [member]
  rw [count after finite', count before finite, rest]

end GitvTime.Support
