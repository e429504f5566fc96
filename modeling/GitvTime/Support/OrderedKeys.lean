import Mathlib.Data.List.Basic
import Mathlib.Order.Lattice

/-!
# Sets ordered by a key

A set that keeps its elements in the order of a key and takes no second element of a key.
`trimHead` drops elements in front as long as the next one continues them.
-/
namespace GitvTime.Support

variable {α κ : Type} [LinearOrder κ] {key : α → κ}

/-- The elements in order. -/
structure OrderedKeys (α : Type) {κ : Type} [LinearOrder κ] (key : α → κ) where
  elements : List α
  sorted : elements.Pairwise fun x y => key x < key y

namespace OrderedKeys

/-- The list with one element more, unless its key is taken. -/
def insert (key : α → κ) (x : α) : List α → List α
  | [] => [x]
  | y :: rest =>
    if key x < key y then x :: y :: rest
    else if key x = key y then y :: rest
    else y :: insert key x rest

/-- Drop the front while the second element continues the first. -/
def trim (isNext : α → α → Bool) : List α → List α
  | head :: head2 :: rest =>
    if isNext head head2 then trim isNext (head2 :: rest) else head :: head2 :: rest
  | short => short

theorem mem_of_mem_insert {x z : α} {l : List α} (member : z ∈ insert key x l) :
    z = x ∨ z ∈ l := by
  induction l with
  | nil => exact .inl (List.mem_singleton.mp member)
  | cons y rest ih =>
    rw [insert] at member
    split at member
    · exact List.mem_cons.mp member
    · split at member
      · exact .inr member
      · rcases List.mem_cons.mp member with rfl | member
        · exact .inr List.mem_cons_self
        · exact (ih member).imp_right (List.mem_cons_of_mem y)

theorem mem_insert_of_mem {x z : α} {l : List α} (member : z ∈ l) : z ∈ insert key x l := by
  induction l with
  | nil => cases member
  | cons y rest ih =>
    rw [insert]
    split
    · exact List.mem_cons_of_mem x member
    · split
      · exact member
      · rcases List.mem_cons.mp member with rfl | member
        · exact List.mem_cons_self
        · exact List.mem_cons_of_mem y (ih member)

/-- A new key is taken in. -/
theorem mem_insert_self {x : α} {l : List α} (new : ∀ y ∈ l, key y ≠ key x) :
    x ∈ insert key x l := by
  induction l with
  | nil => exact List.mem_singleton.mpr rfl
  | cons y rest ih =>
    rw [insert, if_neg (Ne.symm (new y List.mem_cons_self))]
    split
    · exact List.mem_cons_self
    · exact List.mem_cons_of_mem y (ih fun z member => new z (List.mem_cons_of_mem y member))

theorem length_insert {x : α} {l : List α} (new : ∀ y ∈ l, key y ≠ key x) :
    (insert key x l).length = l.length + 1 := by
  induction l with
  | nil => rfl
  | cons y rest ih =>
    rw [insert, if_neg (Ne.symm (new y List.mem_cons_self))]
    split
    · rfl
    · have later := ih fun z member => new z (List.mem_cons_of_mem y member)
      rw [List.length_cons, List.length_cons, later]

theorem insert_sorted {x : α} {l : List α} (sorted : l.Pairwise fun x y => key x < key y) :
    (insert key x l).Pairwise fun x y => key x < key y := by
  induction l with
  | nil => exact List.pairwise_singleton _ x
  | cons y rest ih =>
    obtain ⟨first, later⟩ := List.pairwise_cons.mp sorted
    rw [insert]
    split
    case isTrue before =>
      refine List.pairwise_cons.mpr ⟨fun z member => ?_, sorted⟩
      rcases List.mem_cons.mp member with rfl | member
      · exact before
      · exact lt_trans before (first z member)
    case isFalse not_before =>
      split
      · exact sorted
      case isFalse other =>
        refine List.pairwise_cons.mpr ⟨fun z member => ?_, ih later⟩
        rcases mem_of_mem_insert member with rfl | member
        · exact lt_of_le_of_ne (not_lt.mp not_before) (Ne.symm other)
        · exact first z member

theorem trim_suffix (isNext : α → α → Bool) (l : List α) : trim isNext l <:+ l := by
  fun_induction trim isNext l with
  | case1 head head2 rest next ih => exact ih.trans (List.suffix_cons _ _)
  | case2 => exact List.suffix_rfl
  | case3 => exact List.suffix_rfl

/-- The set with one element more. -/
def add (x : α) (set : OrderedKeys α key) : OrderedKeys α key where
  elements := insert key x set.elements
  sorted := insert_sorted set.sorted

def trimHead (isNext : α → α → Bool) (set : OrderedKeys α key) : OrderedKeys α key where
  elements := trim isNext set.elements
  sorted := set.sorted.sublist (trim_suffix isNext set.elements).sublist

def first (set : OrderedKeys α key) : Option α := set.elements.head?

def size (set : OrderedKeys α key) : Nat := set.elements.length

def empty : OrderedKeys α key := ⟨[], List.Pairwise.nil⟩

end OrderedKeys

end GitvTime.Support
