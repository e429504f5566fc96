import GitvTime.Support.HashedSet

/-!
# What a bounded set with a descending comparator keeps

Under `descending` the least element of a full set is the one with the largest
key, so each record breaker replaces the one before it: the set keeps the objects
that filled it, with one of the largest of them exchanged for the champion of the
later ones.
-/
namespace GitvTime.Support.HashedSet

variable {α κ ρ : Type} [LinearOrder κ] [LinearOrder ρ] {key : α → κ}

/-! ### The comparator -/

theorem descending_neg {x y : κ} : descending x y < 0 ↔ y < x := by
  unfold descending
  split
  · rename_i larger
    exact iff_of_true (by omega) larger
  · rename_i not_larger
    refine iff_of_false ?_ not_larger
    split <;> omega

theorem descending_le {x y : κ} : descending x y ≤ 0 ↔ y ≤ x := by
  unfold descending
  split
  · rename_i larger
    exact iff_of_true (by omega) (le_of_lt larger)
  · split
    · rename_i same
      exact iff_of_true (by omega) (le_of_eq same.symm)
    · rename_i not_larger different
      refine iff_of_false (by omega) fun le => ?_
      rcases lt_or_eq_of_le le with less | same
      · exact not_larger less
      · exact different same.symm

/-- The largest key so far, the first of equal ones. -/
def champion (key : α → κ) (start : Ref α) (rest : List (Ref α)) : Ref α :=
  rest.foldl (fun best next => if key best.val < key next.val then next else best) start

theorem champion_cons (start next : Ref α) (rest : List (Ref α)) :
    champion key start (next :: rest) =
      champion key (if key start.val < key next.val then next else start) rest := rfl

theorem champion_mem (key : α → κ) (start : Ref α) (rest : List (Ref α)) :
    champion key start rest = start ∨ champion key start rest ∈ rest := by
  induction rest generalizing start with
  | nil => exact .inl rfl
  | cons next rest ih =>
    rw [champion_cons]
    split
    · rcases ih next with same | later
      · exact .inr (by simp [same])
      · exact .inr (by simp [later])
    · rcases ih start with same | later
      · exact .inl same
      · exact .inr (by simp [later])

theorem champion_start_le (start : Ref α) (rest : List (Ref α)) :
    key start.val ≤ key (champion key start rest).val := by
  induction rest generalizing start with
  | nil => exact le_refl _
  | cons next rest ih =>
    rw [champion_cons]
    split
    · rename_i larger
      exact le_trans (le_of_lt larger) (ih next)
    · exact ih start

theorem le_champion (start : Ref α) {rest : List (Ref α)} {other : Ref α} (member : other ∈ rest) :
    key other.val ≤ key (champion key start rest).val := by
  induction rest generalizing start with
  | nil => cases member
  | cons next rest ih =>
    rw [champion_cons]
    rcases List.mem_cons.mp member with rfl | later
    · split
      · exact champion_start_le _ rest
      · rename_i not_larger
        exact le_trans (not_lt.mp not_larger) (champion_start_le _ rest)
    · exact ih _ later

/-- Nobody beats an element whose key is an upper bound. -/
theorem champion_of_bound {start : Ref α} {rest : List (Ref α)}
    (bound : ∀ other ∈ rest, key other.val ≤ key start.val) : champion key start rest = start := by
  induction rest with
  | nil => rfl
  | cons next rest ih =>
    rw [champion_cons, if_neg (not_lt.mpr (bound next (by simp)))]
    exact ih fun other member => bound other (by simp [member])

/-- Nobody in the rest beats a start that remains the champion. -/
theorem bound_of_champion {start : Ref α} {rest : List (Ref α)}
    (reigns : champion key start rest = start) {other : Ref α} (member : other ∈ rest) :
    key other.val ≤ key start.val :=
  calc key other.val ≤ key (champion key start rest).val := le_champion start member
    _ = key start.val := by rw [reigns]

/-- A new champion has a larger key than the old one. -/
theorem champion_lt {start : Ref α} {rest : List (Ref α)} (new : champion key start rest ≠ start) :
    key start.val < key (champion key start rest).val := by
  by_contra not_larger
  refine new (champion_of_bound fun other member => ?_)
  exact le_trans (le_champion start member) (not_lt.mp not_larger)

/-- The first of the elements with the largest key. -/
def FirstLargest (key : α → κ) (list : List (Ref α)) (winner : Ref α) : Prop :=
  ∃ before after, list = before ++ winner :: after ∧
    (∀ other ∈ before, key other.val < key winner.val) ∧
      ∀ other ∈ after, key other.val ≤ key winner.val

theorem FirstLargest.mem {list : List (Ref α)} {winner : Ref α}
    (first : FirstLargest key list winner) : winner ∈ list := by
  obtain ⟨before, after, rfl, _, _⟩ := first
  simp

/-- A start with a smaller key is beaten by the first of the largest. -/
theorem champion_of_first {start winner : Ref α} {rest : List (Ref α)}
    (first : FirstLargest key rest winner) (beats : key start.val < key winner.val) :
    champion key start rest = winner := by
  obtain ⟨before, after, rfl, smaller, bound⟩ := first
  induction before generalizing start with
  | nil =>
    rw [List.nil_append, champion_cons, if_pos beats]
    exact champion_of_bound bound
  | cons next before ih =>
    have tail : ∀ other ∈ before, key other.val < key winner.val :=
      fun other member => smaller other (by simp [member])
    rw [List.cons_append, champion_cons]
    split
    · exact ih (smaller next (by simp)) tail
    · exact ih beats tail

/-- A new champion is the first of the largest. -/
theorem first_of_champion {start : Ref α} {rest : List (Ref α)}
    (new : champion key start rest ≠ start) : FirstLargest key rest (champion key start rest) := by
  induction rest generalizing start with
  | nil => exact absurd rfl new
  | cons next rest ih =>
    rw [champion_cons] at new ⊢
    by_cases larger : key start.val < key next.val
    · rw [if_pos larger] at new ⊢
      by_cases same : champion key next rest = next
      · refine ⟨[], rest, by rw [same]; rfl, by simp, fun other member => ?_⟩
        exact le_champion next member
      · obtain ⟨before, after, split, smaller, bound⟩ := ih same
        refine ⟨next :: before, after, by rw [List.cons_append, ← split], ?_, bound⟩
        intro other member
        rcases List.mem_cons.mp member with rfl | early
        · exact champion_lt same
        · exact smaller other early
    · rw [if_neg larger] at new ⊢
      obtain ⟨before, after, split, smaller, bound⟩ := ih new
      refine ⟨next :: before, after, by rw [List.cons_append, ← split], ?_, bound⟩
      intro other member
      rcases List.mem_cons.mp member with rfl | early
      · exact lt_of_le_of_lt (not_lt.mp larger) (champion_lt new)
      · exact smaller other early

/-! ### The least element -/

theorem leastBy_cons (first : Ref α) (rest : List (Ref α)) :
    leastBy (fun a b : Ref α => descending (key a.val) (key b.val)) (first :: rest) =
      some (champion key first rest) := by
  simp only [leastBy, descending_neg, champion]

/-- The least element under `descending` has the largest key. -/
theorem leastBy_spec (key : α → κ) {set : List (Ref α)} (nonempty : set ≠ []) :
    ∃ least, leastBy (fun a b : Ref α => descending (key a.val) (key b.val)) set = some least ∧
      least ∈ set ∧ ∀ other ∈ set, key other.val ≤ key least.val := by
  cases set with
  | nil => exact absurd rfl nonempty
  | cons first rest =>
    refine ⟨_, leastBy_cons first rest, ?_, fun other member => ?_⟩
    · rcases champion_mem key first rest with same | later
      · simp [same]
      · simp [later]
    · rcases List.mem_cons.mp member with rfl | later
      · exact champion_start_le _ rest
      · exact le_champion _ later

/-- The least element of a set that is iterated from one of its largest. -/
theorem least_first {first : Ref α} {rest : List (Ref α)}
    (bound : ∀ other ∈ rest, key other.val ≤ key first.val) :
    leastBy (fun a b : Ref α => descending (key a.val) (key b.val)) (first :: rest) = some first := by
  rw [leastBy_cons, champion_of_bound bound]

/-- The least element of the iterated set. -/
theorem least_of (key : α → κ) (iteration : Iteration (Ref α)) {set : List (Ref α)} (nonempty : set ≠ []) :
    ∃ least, leastBy (fun a b : Ref α => descending (key a.val) (key b.val))
        (iteration.order set) = some least ∧
      least ∈ set ∧ ∀ other ∈ set, key other.val ≤ key least.val := by
  have perm := iteration.perm set
  obtain ⟨least, found, member, largest⟩ := leastBy_spec key
    (fun empty => nonempty (List.Perm.nil_eq (empty ▸ perm)).symm)
  exact ⟨least, found, perm.mem_iff.mp member,
    fun other there => largest other (perm.mem_iff.mpr there)⟩

/-- The least element of a set whose last element has the strictly largest key. -/
theorem least_of_larger (iteration : Iteration (Ref α)) {set : List (Ref α)} {element : Ref α}
    (larger : ∀ other ∈ set, key other.val < key element.val) :
    leastBy (fun a b : Ref α => descending (key a.val) (key b.val))
      (iteration.order (set ++ [element])) = some element := by
  obtain ⟨least, found, member, largest⟩ :=
    least_of key iteration (by simp : set ++ [element] ≠ [])
  rcases List.mem_append.mp member with early | last
  · exact absurd (larger least early) (not_lt.mpr (largest element (by simp)))
  · rw [found, List.mem_singleton.mp last]

/-! ### A full set -/

variable [DecidableEq α] {capacity : Nat} {hash : Nat → Int} {equals : α → α → Bool}
  {iteration : Iteration (Ref α)} {elements : List (Ref α)}

/-- An element with a larger key than all others is added. -/
theorem add_of_larger (eq : KeyEquals equals key elements) {set : List (Ref α)} {element : Ref α}
    (larger : ∀ other ∈ set, key other.val < key element.val) :
    add hash equals set element = set ++ [element] := by
  unfold HashedSet.add
  rw [if_neg]
  simp only [List.any_eq_true, not_exists, not_and]
  intro other member same
  have same_key := sameKey_key eq same
  exact absurd (larger other member) (by rw [same_key]; exact lt_irrefl _)

theorem IsSet.append_larger (eq : KeyEquals equals key elements) {set : List (Ref α)}
    (is_set : IsSet hash equals set) {element : Ref α}
    (larger : ∀ other ∈ set, key other.val < key element.val) :
    IsSet hash equals (set ++ [element]) := by
  have apart : ∀ other ∈ set, ¬ key other.val = key element.val := fun other member =>
    ne_of_lt (larger other member)
  refine ⟨List.nodup_append.mpr ⟨is_set.nodup, by simp, fun a ha b hb => ?_⟩, ?_⟩
  · rintro rfl
    exact apart a ha (by rw [List.mem_singleton.mp hb])
  · intro a ha b hb same
    have same_key := sameKey_key eq same
    rcases List.mem_append.mp ha with ha | ha <;> rcases List.mem_append.mp hb with hb | hb
    · exact is_set.distinct a ha b hb same
    · cases List.mem_singleton.mp hb
      exact absurd same_key (apart a ha)
    · cases List.mem_singleton.mp ha
      exact absurd same_key.symm (apart b hb)
    · rw [List.mem_singleton.mp ha, List.mem_singleton.mp hb]

theorem push_below {set : List (Ref α)} (room : set.length < capacity) (element : Ref α) :
    push capacity hash equals key iteration set element = add hash equals set element := by
  simp only [push, if_pos room]

/-- A full set ends with its least element exchanged for the champion. -/
theorem pushes_full (eq : KeyEquals equals key elements) (rest : List (Ref α))
    {set : List (Ref α)} {least : Ref α} (is_set : IsSet hash equals set)
    (full : set.length = capacity)
    (found : leastBy (fun a b : Ref α => descending (key a.val) (key b.val))
      (iteration.order set) = some least) (member : least ∈ set)
    (largest : ∀ other ∈ set, key other.val ≤ key least.val) :
    (rest.foldl (push capacity hash equals key iteration) set).Perm
      (champion key least rest :: set.erase least) := by
  induction rest generalizing set least with
  | nil => exact List.perm_cons_erase member
  | cons next rest ih =>
    rw [List.foldl_cons, champion_cons]
    have step : push capacity hash equals key iteration set next =
        if key least.val < key next.val then
          add hash equals (remove hash equals set least) next
        else set := by
      simp only [push, full, Nat.lt_irrefl, if_false, found]
    rw [step]
    split
    · rename_i larger
      have others : ∀ other ∈ set.erase least, key other.val < key next.val := fun other there =>
        lt_of_le_of_lt (largest other (List.mem_of_mem_erase there)) larger
      rw [is_set.remove_eq member, add_of_larger eq others]
      have absent : next ∉ set.erase least := fun there => lt_irrefl _ (others next there)
      have is_set' := (is_set.erase least).append_larger eq others
      have length : (set.erase least ++ [next]).length = capacity := by
        have some : 0 < set.length := List.length_pos_of_mem member
        rw [List.length_append, List.length_erase_of_mem member, List.length_singleton]
        omega
      have exchanged := ih is_set' length (least_of_larger iteration others) (by simp) (by
        intro other there
        rcases List.mem_append.mp there with early | last
        · exact le_of_lt (others other early)
        · rw [List.mem_singleton.mp last])
      refine exchanged.trans (List.Perm.cons _ ?_)
      rw [List.erase_append_right _ absent]
      simp
    · exact ih is_set full found member largest

theorem pushes_split (set elements : List (Ref α)) :
    elements.foldl (push capacity hash equals key iteration) set =
      (later capacity hash equals set elements).foldl (push capacity hash equals key iteration)
        (taken capacity hash equals set elements) := by
  induction elements generalizing set with
  | nil => rfl
  | cons next rest ih =>
    rw [taken, later, List.foldl_cons]
    split
    · rename_i room
      rw [push_below room, ih]
    · rename_i full
      rfl

end GitvTime.Support.HashedSet
