import Mathlib.Data.List.Perm.Subperm
import Mathlib.Order.Lattice

/-!
# Hash sets of objects

Objects with an identity, kept in a set by their hash code and `equals`. The
order in which a set is iterated is not specified, so it is a parameter. A bounded
set takes a new object once it is full only for one that a comparator calls the
least.
-/
namespace GitvTime.Support

/-- An object: its identity and what it holds. -/
structure Ref (α : Type) where
  id : Nat
  val : α
  deriving DecidableEq, Repr

/-- The order in which a set with these elements is iterated. -/
structure Iteration (β : Type) where
  order : List β → List β
  perm : ∀ set, (order set).Perm set

/-- The order in which the elements were added. -/
def Iteration.added {β : Type} : Iteration β := ⟨id, fun _ => List.Perm.refl _⟩

namespace HashedSet

section
variable {α : Type} [DecidableEq α] (hash : Nat → Int) (equals : α → α → Bool)

/-- Two objects that the set cannot tell apart. -/
def sameKey (a b : Ref α) : Bool := hash a.id == hash b.id && (a == b || equals a.val b.val)

def add (set : List (Ref α)) (element : Ref α) : List (Ref α) :=
  if set.any (sameKey hash equals element) = true then set else set ++ [element]

def remove (set : List (Ref α)) (element : Ref α) : List (Ref α) :=
  set.eraseP (sameKey hash equals element)

end

/-- The first element in iteration order that no other one is less than; `none`
on an empty collection. -/
def leastBy {β : Type} (compareTo : β → β → Int) : List β → Option β
  | [] => none
  | first :: rest => some (rest.foldl (fun candidate next =>
      if compareTo next candidate < 0 then next else candidate) first)

/-- A comparison that puts the larger key first. -/
def descending {κ : Type} [LinearOrder κ] (x y : κ) : Int :=
  if x > y then -1 else if x = y then 0 else 1

section
variable {α κ : Type} [DecidableEq α] [LinearOrder κ] (capacity : Nat) (hash : Nat → Int)
  (equals : α → α → Bool) (key : α → κ) (iteration : Iteration (Ref α))

/-- Offer an element to a bounded set: below the capacity it is added, then only
in the place of the least element under `descending`, and only with a larger key. -/
def push (set : List (Ref α)) (element : Ref α) : List (Ref α) :=
  if set.length < capacity then add hash equals set element
  else
    match leastBy (fun a b : Ref α => descending (key a.val) (key b.val)) (iteration.order set) with
    | some least =>
      if key least.val < key element.val then
        add hash equals (remove hash equals set least) element
      else set
    | none => set

/-- `addAll` to a list and a stable sort. -/
def sorted (set : List (Ref α)) : List (Ref α) :=
  (iteration.order set).mergeSort fun a b => decide (descending (key a.val) (key b.val) ≤ 0)

end

/-! ### Elements that the set can tell apart -/

section Elements

variable {α κ : Type} {key : α → κ} {equals : α → α → Bool} {elements : List (Ref α)}

/-- What the bounded set relies on: `equals` compares the key and is symmetric on
the elements. -/
structure KeyEquals (equals : α → α → Bool) (key : α → κ) (elements : List (Ref α)) : Prop where
  same_key : ∀ a b, equals a b = true → key a = key b
  symm : ∀ a ∈ elements, ∀ b ∈ elements, equals a.val b.val = true → equals b.val a.val = true

theorem KeyEquals.mono (eq : KeyEquals equals key elements) {fewer : List (Ref α)}
    (subset : fewer ⊆ elements) : KeyEquals equals key fewer :=
  ⟨eq.same_key, fun a ha b hb => eq.symm a (subset ha) b (subset hb)⟩

variable [DecidableEq α] {capacity : Nat} {hash : Nat → Int}

theorem sameKey_key (eq : KeyEquals equals key elements) {a b : Ref α}
    (same : sameKey hash equals a b = true) : key a.val = key b.val := by
  simp only [sameKey, Bool.and_eq_true, Bool.or_eq_true, beq_iff_eq] at same
  rcases same.2 with object | equal
  · rw [object]
  · exact eq.same_key _ _ equal

theorem sameKey_symm (eq : KeyEquals equals key elements) {a b : Ref α} (ha : a ∈ elements)
    (hb : b ∈ elements) (same : sameKey hash equals a b = true) :
    sameKey hash equals b a = true := by
  simp only [sameKey, Bool.and_eq_true, Bool.or_eq_true, beq_iff_eq] at same ⊢
  refine ⟨same.1.symm, ?_⟩
  rcases same.2 with object | equal
  · exact .inl object.symm
  · exact .inr (eq.symm a ha b hb equal)

theorem sameKey_self (a : Ref α) : sameKey hash equals a a = true := by
  simp [sameKey]

/-- No two elements have the same key. -/
structure IsSet (hash : Nat → Int) (equals : α → α → Bool) (set : List (Ref α)) : Prop where
  nodup : set.Nodup
  distinct : ∀ a ∈ set, ∀ b ∈ set, sameKey hash equals a b = true → a = b

theorem IsSet.nil : IsSet hash equals ([] : List (Ref α)) :=
  ⟨List.nodup_nil, fun _ member => nomatch member⟩

theorem IsSet.erase {set : List (Ref α)} (is_set : IsSet hash equals set) (element : Ref α) :
    IsSet hash equals (set.erase element) :=
  ⟨is_set.nodup.erase element, fun a ha b hb =>
    is_set.distinct a (List.mem_of_mem_erase ha) b (List.mem_of_mem_erase hb)⟩

theorem IsSet.add {set : List (Ref α)} {element : Ref α}
    (eq : KeyEquals equals key (element :: set)) (is_set : IsSet hash equals set) :
    IsSet hash equals (add hash equals set element) := by
  unfold HashedSet.add
  split
  · exact is_set
  · rename_i absent
    have new : ∀ other ∈ set, ¬ sameKey hash equals element other = true := by
      simpa using absent
    refine ⟨?_, fun a ha b hb same => ?_⟩
    · refine List.nodup_append.mpr ⟨is_set.nodup, by simp, fun a ha b hb => ?_⟩
      rintro rfl
      cases List.mem_singleton.mp hb
      exact new _ ha (sameKey_self _)
    · rcases List.mem_append.mp ha with ha | ha
      · rcases List.mem_append.mp hb with hb | hb
        · exact is_set.distinct a ha b hb same
        · cases List.mem_singleton.mp hb
          exact absurd (sameKey_symm eq (by simp [ha]) (by simp) same) (new a ha)
      · cases List.mem_singleton.mp ha
        rcases List.mem_append.mp hb with hb | hb
        · exact absurd same (new b hb)
        · cases List.mem_singleton.mp hb
          rfl

theorem eraseP_eq_erase {p : Ref α → Bool} {set : List (Ref α)} {element : Ref α}
    (holds : p element = true) (only : ∀ other ∈ set, p other = true → other = element) :
    set.eraseP p = set.erase element := by
  induction set with
  | nil => rfl
  | cons first rest ih =>
    by_cases here : p first = true
    · cases only first (by simp) here
      rw [List.eraseP_cons_of_pos here, List.erase_cons_head]
    · have different : first ≠ element := by
        rintro rfl
        exact here holds
      rw [List.eraseP_cons_of_neg here, List.erase_cons_tail (by simpa using different),
        ih fun other member => only other (by simp [member])]

/-- An element of a set is removed itself. -/
theorem IsSet.remove_eq {set : List (Ref α)} (is_set : IsSet hash equals set) {element : Ref α}
    (member : element ∈ set) : remove hash equals set element = set.erase element :=
  eraseP_eq_erase (sameKey_self element) fun other there same =>
    (is_set.distinct element member other there same).symm

/-! ### The elements that fill the set, and the later ones -/

/-- What the set holds when it is full, or after all elements. -/
def taken (capacity : Nat) (hash : Nat → Int) (equals : α → α → Bool) :
    List (Ref α) → List (Ref α) → List (Ref α)
  | set, [] => set
  | set, next :: rest =>
    if set.length < capacity then taken capacity hash equals (add hash equals set next) rest
    else set

/-- The elements that find the set full. -/
def later (capacity : Nat) (hash : Nat → Int) (equals : α → α → Bool) :
    List (Ref α) → List (Ref α) → List (Ref α)
  | _, [] => []
  | set, next :: rest =>
    if set.length < capacity then later capacity hash equals (add hash equals set next) rest
    else next :: rest

theorem add_subset (set : List (Ref α)) (element : Ref α) :
    ∀ other ∈ add hash equals set element, other ∈ set ∨ other = element := by
  intro other member
  unfold add at member
  split at member
  · exact .inl member
  · simpa using member

theorem add_length (hash : Nat → Int) (equals : α → α → Bool) (set : List (Ref α))
    (element : Ref α) :
    (add hash equals set element).length ≤ set.length + 1 ∧
      set.length ≤ (add hash equals set element).length := by
  unfold add
  split <;> simp

theorem taken_isSet {set : List (Ref α)} (is_set : IsSet hash equals set)
    (eq : KeyEquals equals key (set ++ elements)) :
    IsSet hash equals (taken capacity hash equals set elements) := by
  induction elements generalizing set with
  | nil => exact is_set
  | cons next rest ih =>
    rw [taken]
    split
    · have offered : KeyEquals equals key (next :: set) := eq.mono fun other member => by
        rcases List.mem_cons.mp member with first | old
        · simp [first]
        · simp [old]
      refine ih (is_set.add offered) (eq.mono fun other member => ?_)
      rcases List.mem_append.mp member with early | late
      · rcases add_subset set next other early with old | rfl
        · simp [old]
        · simp
      · simp [late]
    · exact is_set

theorem taken_keeps {set : List (Ref α)} {element : Ref α} (member : element ∈ set)
    (elements : List (Ref α)) : element ∈ taken capacity hash equals set elements := by
  induction elements generalizing set with
  | nil => exact member
  | cons next rest ih =>
    rw [taken]
    split
    · refine ih ?_
      unfold add
      split
      · exact member
      · exact List.mem_append_left _ member
    · exact member

theorem taken_nonempty (hash : Nat → Int) (equals : α → α → Bool) (positive : 0 < capacity)
    {elements : List (Ref α)} (some : elements ≠ []) :
    taken capacity hash equals [] elements ≠ [] := by
  cases elements with
  | nil => exact absurd rfl some
  | cons next rest =>
    have first : next ∈ taken capacity hash equals [] (next :: rest) := by
      rw [taken, List.length_nil, if_pos positive]
      exact taken_keeps (by simp [add]) rest
    exact List.ne_nil_of_mem first

/-- The set is full when an element comes later. -/
theorem taken_full {set elements : List (Ref α)} (fits : set.length ≤ capacity)
    (overflow : later capacity hash equals set elements ≠ []) :
    (taken capacity hash equals set elements).length = capacity := by
  induction elements generalizing set with
  | nil => exact absurd rfl overflow
  | cons next rest ih =>
    rw [later] at overflow
    rw [taken]
    split
    · rename_i room
      rw [if_pos room] at overflow
      have added := (add_length hash equals set next).1
      exact ih (by omega) overflow
    · omega

/-- What is taken comes before what is later. -/
theorem taken_before (capacity : Nat) (hash : Nat → Int) (equals : α → α → Bool)
    (set elements : List (Ref α)) :
    ∃ before, elements = before ++ later capacity hash equals set elements ∧
      ∀ other ∈ taken capacity hash equals set elements, other ∈ set ∨ other ∈ before := by
  induction elements generalizing set with
  | nil => exact ⟨[], rfl, fun other member => .inl member⟩
  | cons next rest ih =>
    rw [taken, later]
    split
    · obtain ⟨before, split, from_before⟩ := ih (add hash equals set next)
      refine ⟨next :: before, by rw [List.cons_append, ← split], fun other member => ?_⟩
      rcases from_before other member with added | early
      · rcases add_subset set next other added with old | rfl
        · exact .inl old
        · exact .inr (by simp)
      · exact .inr (by simp [early])
    · exact ⟨[], rfl, fun other member => .inl member⟩

/-- Elements that the set can tell apart fill it in their order. -/
theorem taken_of_distinct {set : List (Ref α)}
    (distinct : (set ++ elements).Pairwise fun a b => ¬ sameKey hash equals b a = true) :
    taken capacity hash equals set elements = set ++ elements.take (capacity - set.length) := by
  induction elements generalizing set with
  | nil => simp [taken]
  | cons next rest ih =>
    rw [taken]
    split
    · rename_i room
      have new : ¬ set.any (sameKey hash equals next) = true := by
        simp only [List.any_eq_true, not_exists, not_and]
        intro other member
        exact (List.pairwise_append.mp distinct).2.2 other member next List.mem_cons_self
      have added : add hash equals set next = set ++ [next] := if_neg new
      have one : capacity - set.length = (capacity - (set ++ [next]).length) + 1 := by
        rw [List.length_append, List.length_singleton]
        omega
      rw [added, ih (by simpa using distinct), one, List.take_succ_cons]
      simp
    · rename_i full
      rw [Nat.sub_eq_zero_of_le (by omega), List.take_zero, List.append_nil]

end Elements

end HashedSet

end GitvTime.Support
