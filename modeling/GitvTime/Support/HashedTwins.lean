import Mathlib.Data.Finset.Card
import GitvTime.Support.BoundedSelection

/-!
# Equal objects in a bounded hash set

A hash set compares objects only when their hash codes agree, so two equal objects
with different hash codes can both be in it. Here the objects are those of a list on
which `equals` compares a content. While the bounded set has room it takes every
object with a new pair of hash code and content; the larger ones that it takes later
are equal to nothing in it.
-/
namespace GitvTime.Support.HashedSet

variable {α κ γ : Type} {key : α → κ}

/-- No object is twice in the set, and no two objects in it are equal. -/
structure NoTwins (equals : α → α → Bool) (set : List (Ref α)) : Prop where
  nodup : set.Nodup
  apart : ∀ a ∈ set, ∀ b ∈ set, equals a.val b.val = true → a = b

/-- `equals` compares a content. -/
def Compares (equals : α → α → Bool) (content : α → γ) (elements : List (Ref α)) : Prop :=
  ∀ a ∈ elements, ∀ b ∈ elements, equals a.val b.val = true ↔ content a.val = content b.val

/-- What the set can tell apart. -/
def code (hash : Nat → Int) (content : α → γ) (element : Ref α) : Int × γ :=
  (hash element.id, content element.val)

variable {hash : Nat → Int} {content : α → γ} {equals : α → α → Bool} {elements : List (Ref α)}

theorem NoTwins.mono {set fewer : List (Ref α)} (apart : NoTwins equals set)
    (nodup : fewer.Nodup) (subset : fewer ⊆ set) : NoTwins equals fewer :=
  ⟨nodup, fun a ha b hb => apart.apart a (subset ha) b (subset hb)⟩

theorem NoTwins.perm {set set' : List (Ref α)} (apart : NoTwins equals set)
    (perm : set'.Perm set) : NoTwins equals set' :=
  apart.mono (perm.nodup_iff.mpr apart.nodup) perm.subset

theorem Compares.mono (compares : Compares equals content elements) {fewer : List (Ref α)}
    (subset : fewer ⊆ elements) : Compares equals content fewer :=
  fun a ha b hb => compares a (subset ha) b (subset hb)

/-- An object with a larger key than all others is the twin of none. -/
theorem NoTwins.cons_larger [LinearOrder κ] {set : List (Ref α)} (apart : NoTwins equals set) {element : Ref α}
    (eq : KeyEquals equals key elements)
    (larger : ∀ other ∈ set, key other.val < key element.val) :
    NoTwins equals (element :: set) := by
  have new : ∀ other ∈ set, key other.val ≠ key element.val := by
    intro other member
    exact ne_of_lt (larger other member)
  constructor
  · apply List.nodup_cons.mpr
    exact ⟨fun member => new element member rfl, apart.nodup⟩
  · intro a ha b hb equal
    have same := eq.same_key _ _ equal
    rcases List.mem_cons.mp ha with first | ha <;> rcases List.mem_cons.mp hb with second | hb
    · rw [first, second]
    · rw [first] at same
      exact absurd same.symm (new b hb)
    · rw [second] at same
      exact absurd same (new a ha)
    · exact apart.apart a ha b hb equal

theorem split_at {j : Nat} {b : Ref α} (found : elements[j]? = some b) :
    elements = elements.take j ++ b :: elements.drop (j + 1) := by
  obtain ⟨bound, rfl⟩ := List.getElem?_eq_some_iff.mp found
  simp

theorem sameKey_iff [DecidableEq α] (compares : Compares equals content elements) {a b : Ref α}
    (ha : a ∈ elements) (hb : b ∈ elements) :
    sameKey hash equals a b = true ↔ code hash content a = code hash content b := by
  simp only [sameKey, Bool.and_eq_true, Bool.or_eq_true, beq_iff_eq, code, Prod.mk.injEq,
    compares a ha b hb]
  constructor
  · rintro ⟨same, rfl | equal⟩
    · exact ⟨same, rfl⟩
    · exact ⟨same, equal⟩
  · rintro ⟨same, equal⟩
    exact ⟨same, .inr equal⟩

variable [DecidableEq γ]

def codes (hash : Nat → Int) (content : α → γ) (elements : List (Ref α)) : Finset (Int × γ) :=
  (elements.map (code hash content)).toFinset

/-- Equal objects have the same hash code when the later one finds room. -/
def HashedAlike (capacity : Nat) (hash : Nat → Int) (equals : α → α → Bool) (content : α → γ)
    (elements : List (Ref α)) : Prop :=
  ∀ i j a b, i < j → elements[i]? = some a → elements[j]? = some b →
    equals a.val b.val = true → (codes hash content (elements.take j)).card < capacity →
      hash a.id = hash b.id

theorem mem_codes {value : Int × γ} :
    value ∈ codes hash content elements ↔ ∃ a ∈ elements, code hash content a = value := by
  simp [codes]

theorem codes_mono {fewer : List (Ref α)} (subset : fewer ⊆ elements) :
    codes hash content fewer ⊆ codes hash content elements := by
  intro value member
  obtain ⟨a, there, same⟩ := mem_codes.mp member
  exact mem_codes.mpr ⟨a, subset there, same⟩

variable [DecidableEq α]

/-! ### The codes of the taken objects -/

theorem codes_add {set : List (Ref α)} {element : Ref α}
    (compares : Compares equals content (element :: set)) :
    codes hash content (add hash equals set element) =
      codes hash content (set ++ [element]) := by
  unfold add
  split
  · rename_i present
    obtain ⟨other, there, same⟩ := List.any_eq_true.mp present
    have found := (sameKey_iff compares List.mem_cons_self (List.mem_cons_of_mem _ there)).mp same
    apply Finset.Subset.antisymm
    · exact codes_mono (List.subset_append_left _ _)
    · intro value member
      obtain ⟨a, early | last, rfl⟩ := by
        simpa only [mem_codes, List.mem_append] using member
      · exact mem_codes.mpr ⟨a, early, rfl⟩
      · rw [List.mem_singleton.mp last, found]
        exact mem_codes.mpr ⟨other, there, rfl⟩
  · rfl

variable {capacity : Nat}

theorem taken_append (set before after : List (Ref α)) :
    taken capacity hash equals set (before ++ after) =
      taken capacity hash equals (taken capacity hash equals set before) after := by
  induction before generalizing set with
  | nil => rfl
  | cons next rest ih =>
    rw [List.cons_append, taken, taken]
    split
    · exact ih _
    · rename_i full
      cases after with
      | nil => rfl
      | cons later rest => rw [taken, if_neg full]

theorem mem_of_mem_taken {set : List (Ref α)} {element : Ref α}
    (member : element ∈ taken capacity hash equals set elements) :
    element ∈ set ∨ element ∈ elements := by
  obtain ⟨before, split, from_before⟩ := taken_before capacity hash equals set elements
  rcases from_before element member with old | early
  · exact .inl old
  · rw [split]
    exact .inr (List.mem_append_left _ early)

/-- A set with room has seen everything. -/
theorem codes_taken {set : List (Ref α)} (compares : Compares equals content (set ++ elements))
    (room : (taken capacity hash equals set elements).length < capacity) :
    codes hash content (taken capacity hash equals set elements) =
      codes hash content (set ++ elements) := by
  induction elements generalizing set with
  | nil => rw [List.append_nil, taken]
  | cons next rest ih =>
    rw [taken] at room ⊢
    by_cases fits : set.length < capacity
    · rw [if_pos fits] at room ⊢
      have here : Compares equals content (next :: set) := by
        apply compares.mono
        intro a member
        rcases List.mem_cons.mp member with rfl | old
        · simp
        · simp [old]
      have offered : Compares equals content (add hash equals set next ++ rest) := by
        apply compares.mono
        intro a member
        rcases List.mem_append.mp member with early | late
        · rcases add_subset set next a early with old | rfl
          · simp [old]
          · simp
        · simp [late]
      have added : codes hash content (add hash equals set next) =
          codes hash content (set ++ [next]) := codes_add here
      rw [ih offered room]
      ext value
      have one := Finset.ext_iff.mp added value
      simp only [mem_codes, List.mem_append, List.mem_cons, List.not_mem_nil, or_false,
        or_and_right, exists_or] at one ⊢
      rw [one, or_assoc]
    · rw [if_neg fits] at room
      exact absurd room fits

theorem length_eq_card {set : List (Ref α)} (compares : Compares equals content set)
    (is_set : IsSet hash equals set) : set.length = (codes hash content set).card := by
  have nodup : (set.map (code hash content)).Nodup := by
    apply List.Nodup.map_on _ is_set.nodup
    intro a ha b hb same
    exact is_set.distinct a ha b hb ((sameKey_iff compares ha hb).mpr same)
  rw [codes, List.toFinset_card_of_nodup nodup, List.length_map]

theorem isSet_taken (eq : KeyEquals equals key elements) :
    IsSet hash equals (taken capacity hash equals [] elements) := by
  apply taken_isSet .nil
  rwa [List.nil_append]

/-- The set has room after some objects exactly when they have few codes. -/
theorem room_iff (compares : Compares equals content elements)
    (eq : KeyEquals equals key elements) :
    (taken capacity hash equals [] elements).length < capacity ↔
      (codes hash content elements).card < capacity := by
  have inside : taken capacity hash equals [] elements ⊆ elements := by
    intro a member
    simpa using mem_of_mem_taken member
  have is_set : IsSet hash equals (taken capacity hash equals [] elements) := isSet_taken eq
  have length := length_eq_card (compares.mono inside) is_set
  constructor
  · intro room
    rw [codes_taken (by simpa using compares) room, List.nil_append] at length
    omega
  · intro few
    have le : (codes hash content (taken capacity hash equals [] elements)).card ≤
        (codes hash content elements).card := Finset.card_le_card (codes_mono inside)
    omega

/-! ### Twins among the taken objects -/

/-- An object is taken only while there is room. -/
theorem room_of_taken (nodup : elements.Nodup) {j : Nat} {b : Ref α}
    (found : elements[j]? = some b) (member : b ∈ taken capacity hash equals [] elements) :
    (taken capacity hash equals [] (elements.take j)).length < capacity := by
  by_contra full
  have new : b ∉ elements.take j := by
    rw [split_at found] at nodup
    intro early
    exact (List.nodup_append.mp nodup).2.2 b early b (by simp) rfl
  rw [split_at found, taken_append, taken, if_neg full] at member
  apply new
  simpa using mem_of_mem_taken member

theorem noTwins_taken_iff (compares : Compares equals content elements)
    (eq : KeyEquals equals key elements) (nodup : elements.Nodup) :
    NoTwins equals (taken capacity hash equals [] elements) ↔
      HashedAlike capacity hash equals content elements := by
  have is_set : IsSet hash equals (taken capacity hash equals [] elements) := isSet_taken eq
  constructor
  · intro apart i j a b before first second equal few
    have early : elements.take j ⊆ elements := List.take_subset j elements
    have room := (room_iff (compares.mono early) (eq.mono early)).mpr few
    -- the set holds objects with the codes of both
    have mem_a : a ∈ elements := List.mem_of_getElem? first
    have mem_b : b ∈ elements := List.mem_of_getElem? second
    have inside : taken capacity hash equals [] (elements.take j) ⊆ elements := by
      intro other member
      apply early
      simpa using mem_of_mem_taken member
    have kept : add hash equals (taken capacity hash equals [] (elements.take j)) b ⊆
        taken capacity hash equals [] elements := by
      intro other member
      rw [split_at second, taken_append, taken, if_pos room]
      exact taken_keeps member _
    have offered : codes hash content
        (add hash equals (taken capacity hash equals [] (elements.take j)) b) =
          codes hash content (taken capacity hash equals [] (elements.take j) ++ [b]) :=
      codes_add (compares.mono (List.cons_subset.mpr ⟨mem_b, inside⟩))
    have seen : codes hash content (taken capacity hash equals [] (elements.take j)) =
        codes hash content ([] ++ elements.take j) :=
      codes_taken (by simpa using compares.mono early) room
    have code_a : code hash content a ∈
        codes hash content (add hash equals (taken capacity hash equals [] (elements.take j)) b) := by
      rw [offered]
      apply codes_mono (List.subset_append_left _ _)
      rw [seen, List.nil_append]
      exact mem_codes.mpr ⟨a, List.mem_of_getElem? (List.getElem?_take_of_lt before ▸ first), rfl⟩
    have code_b : code hash content b ∈
        codes hash content (add hash equals (taken capacity hash equals [] (elements.take j)) b) := by
      rw [offered]
      exact mem_codes.mpr ⟨b, by simp, rfl⟩
    obtain ⟨a', there, same_a⟩ := mem_codes.mp code_a
    obtain ⟨b', there', same_b⟩ := mem_codes.mp code_b
    have content_eq : content a'.val = content b'.val := by
      rw [(Prod.mk.inj same_a).2, (Prod.mk.inj same_b).2]
      exact (compares a mem_a b mem_b).mp equal
    have twins : a' = b' := by
      apply apart.apart a' (kept there) b' (kept there')
      apply (compares a' _ b' _).mpr content_eq
      · simpa using mem_of_mem_taken (kept there)
      · simpa using mem_of_mem_taken (kept there')
    rw [← (Prod.mk.inj same_a).1, ← (Prod.mk.inj same_b).1, twins]
  · intro alike
    have ordered : ∀ (i j : Nat) a b, i < j → elements[i]? = some a → elements[j]? = some b →
        a ∈ taken capacity hash equals [] elements → b ∈ taken capacity hash equals [] elements →
          equals a.val b.val = true → a = b := by
      intro i j a b before first second mem_a mem_b equal
      have early : elements.take j ⊆ elements := List.take_subset j elements
      have few := (room_iff (compares.mono early) (eq.mono early)).mp
        (room_of_taken nodup second mem_b)
      have hashes := alike i j a b before first second equal few
      apply is_set.distinct a mem_a b mem_b
      simp [sameKey, hashes, equal]
    refine ⟨is_set.nodup, fun a ha b hb equal => ?_⟩
    obtain ⟨i, first⟩ := List.getElem?_of_mem (by simpa using mem_of_mem_taken ha : a ∈ elements)
    obtain ⟨j, second⟩ := List.getElem?_of_mem (by simpa using mem_of_mem_taken hb : b ∈ elements)
    rcases Nat.lt_trichotomy i j with before | same | after
    · exact ordered i j a b before first second ha hb equal
    · rw [same, second] at first
      exact (Option.some.inj first).symm
    · have equal' := eq.symm a (List.mem_of_getElem? first) b (List.mem_of_getElem? second) equal
      exact (ordered j i b a after second first hb ha equal').symm

/-! ### Twins after any number of pushes -/

variable [LinearOrder κ] {iteration : Iteration (Ref α)}

theorem exists_pushes_taken (set : List (Ref α)) :
    ∃ n, (elements.take n).foldl (push capacity hash equals key iteration) set =
      taken capacity hash equals set elements := by
  induction elements generalizing set with
  | nil => exact ⟨0, rfl⟩
  | cons next rest ih =>
    rw [taken]
    split
    · rename_i room
      obtain ⟨n, found⟩ := ih (add hash equals set next)
      refine ⟨n + 1, ?_⟩
      rw [List.take_succ_cons, List.foldl_cons, push_below room, found]
    · exact ⟨0, rfl⟩

theorem noTwins_pushes (eq : KeyEquals equals key elements) (positive : 0 < capacity)
    (apart : NoTwins equals (taken capacity hash equals [] elements)) :
    NoTwins equals (elements.foldl (push capacity hash equals key iteration) []) := by
  rw [pushes_split]
  by_cases done : later capacity hash equals [] elements = []
  · rw [done]
    exact apart
  have full := taken_full (by simp) done
  have is_set : IsSet hash equals (taken capacity hash equals [] elements) := isSet_taken eq
  have nonempty : taken capacity hash equals [] elements ≠ [] := by
    apply List.ne_nil_of_length_pos
    omega
  obtain ⟨least, found, member, largest⟩ := least_of key iteration nonempty
  have perm := pushes_full eq (later capacity hash equals [] elements) is_set full found member
    largest
  apply NoTwins.perm _ perm
  by_cases reigns : champion key least (later capacity hash equals [] elements) = least
  · rw [reigns]
    exact apart.perm (List.perm_cons_erase member).symm
  · apply NoTwins.cons_larger _ eq
    · intro other there
      exact lt_of_le_of_lt (largest other (List.mem_of_mem_erase there)) (champion_lt reigns)
    · exact apart.mono (is_set.nodup.erase least) (List.erase_subset)

/-- The set never holds two equal objects exactly when equal objects that find room
are hashed alike. -/
theorem noTwins_iff (compares : Compares equals content elements)
    (eq : KeyEquals equals key elements) (nodup : elements.Nodup) (positive : 0 < capacity) :
    (∀ n, NoTwins equals
      ((elements.take n).foldl (push capacity hash equals key iteration) [])) ↔
        HashedAlike capacity hash equals content elements := by
  rw [← noTwins_taken_iff compares eq nodup]
  constructor
  · intro always
    obtain ⟨n, found⟩ : ∃ n, (elements.take n).foldl (push capacity hash equals key iteration) [] =
        taken capacity hash equals [] elements := exists_pushes_taken []
    rw [← found]
    exact always n
  · intro apart n
    have early : elements.take n ⊆ elements := List.take_subset n elements
    apply noTwins_pushes (eq.mono early) positive
    have is_set : IsSet hash equals (taken capacity hash equals [] (elements.take n)) :=
      isSet_taken (eq.mono early)
    apply apart.mono is_set.nodup
    intro other member
    rw [← List.take_append_drop n elements, taken_append]
    exact taken_keeps member _

end GitvTime.Support.HashedSet
