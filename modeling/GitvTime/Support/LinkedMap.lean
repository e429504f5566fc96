import Mathlib.Data.List.Nodup

/-!
# Maps that remember an order

A linked hash map is a list of entries with distinct keys, the eldest first. In
insertion order a key keeps its place when its value is replaced; in access
order a use of the key moves it to the end. A bounded map drops its eldest entry
when an insertion makes it too large.
-/
namespace GitvTime.Support

/-- The entries, eldest first. -/
structure LinkedMap (κ ν : Type) where
  entries : List (κ × ν)
  distinct : (entries.map Prod.fst).Nodup

namespace LinkedMap

variable {κ ν : Type}

def empty : LinkedMap κ ν := ⟨[], List.nodup_nil⟩

def keys (m : LinkedMap κ ν) : List κ := m.entries.map Prod.fst

def values (m : LinkedMap κ ν) : List ν := m.entries.map Prod.snd

def size (m : LinkedMap κ ν) : Nat := m.entries.length

/-- Drop the eldest entry of a map that has grown over its bound. -/
def evict (m : LinkedMap κ ν) (bound : Nat) : LinkedMap κ ν :=
  if bound < m.size then ⟨m.entries.tail, by rw [List.map_tail]; exact m.distinct.tail⟩ else m

theorem mem_keys {m : LinkedMap κ ν} {key : κ} :
    key ∈ m.keys ↔ ∃ value, (key, value) ∈ m.entries := by
  simp [keys]

theorem mem_values {m : LinkedMap κ ν} {value : ν} :
    value ∈ m.values ↔ ∃ key, (key, value) ∈ m.entries := by
  simp [values]

/-- A key has one value. -/
theorem value_unique (m : LinkedMap κ ν) {key : κ} {v w : ν} (first : (key, v) ∈ m.entries)
    (second : (key, w) ∈ m.entries) : v = w := by
  have same := List.inj_on_of_nodup_map m.distinct first second rfl
  exact congrArg Prod.snd same

theorem evict_of_room {m : LinkedMap κ ν} {bound : Nat} (room : m.size ≤ bound) :
    m.evict bound = m :=
  if_neg (Nat.not_lt.mpr room)

theorem mem_of_mem_evict {m : LinkedMap κ ν} {bound : Nat} {entry : κ × ν}
    (member : entry ∈ (m.evict bound).entries) : entry ∈ m.entries := by
  unfold evict at member
  split at member
  · exact List.mem_of_mem_tail member
  · exact member

/-- A map that is too large loses the key of its eldest entry. -/
theorem evict_loses_key {m : LinkedMap κ ν} {bound : Nat} (large : bound < m.size) :
    ∃ key ∈ m.keys, key ∉ (m.evict bound).keys := by
  obtain ⟨entries, distinct⟩ := m
  cases entries with
  | nil => exact absurd large (Nat.not_lt_zero _)
  | cons eldest rest =>
    refine ⟨eldest.1, by simp [keys], ?_⟩
    rw [evict, if_pos large]
    exact (List.nodup_cons.mp distinct).1

variable [DecidableEq κ]

def get? (m : LinkedMap κ ν) (key : κ) : Option ν :=
  (m.entries.find? fun entry => entry.1 = key).map Prod.snd

def remove (m : LinkedMap κ ν) (key : κ) : LinkedMap κ ν :=
  ⟨m.entries.filter fun entry => entry.1 ≠ key,
    (m.distinct.sublist (List.filter_sublist.map Prod.fst))⟩

/-- The key with the value becomes the youngest entry. -/
def putLast (m : LinkedMap κ ν) (key : κ) (value : ν) : LinkedMap κ ν where
  entries := (m.remove key).entries ++ [(key, value)]
  distinct := by
    rw [List.map_append, List.nodup_append]
    refine ⟨(m.remove key).distinct, List.nodup_singleton _, ?_⟩
    intro k kept last listed
    rw [List.map_singleton, List.mem_singleton] at listed
    obtain ⟨entry, member, rfl⟩ := List.mem_map.mp kept
    have other := (List.mem_filter.mp member).2
    rw [listed]
    exact of_decide_eq_true other

/-- The value of a key is replaced where it stands. -/
def replace (m : LinkedMap κ ν) (key : κ) (value : ν) : LinkedMap κ ν where
  entries := m.entries.map fun entry => if entry.1 = key then (key, value) else entry
  distinct := by
    have same : (m.entries.map fun entry => if entry.1 = key then (key, value) else entry).map
        Prod.fst = m.entries.map Prod.fst := by
      rw [List.map_map]
      refine List.map_congr_left fun entry _ => ?_
      rw [Function.comp_apply]
      split
      · rename_i here
        exact here.symm
      · rfl
    rw [same]
    exact m.distinct

/-- `put` in insertion order. -/
def put (m : LinkedMap κ ν) (key : κ) (value : ν) : LinkedMap κ ν :=
  if key ∈ m.keys then m.replace key value else m.putLast key value

/-- `get` in access order: the map it leaves. -/
def touch (m : LinkedMap κ ν) (key : κ) : LinkedMap κ ν :=
  match m.get? key with
  | some value => m.putLast key value
  | none => m

/-- `put` of a bounded map in access order. -/
def putBounded (m : LinkedMap κ ν) (key : κ) (value : ν) (bound : Nat) : LinkedMap κ ν :=
  (m.putLast key value).evict bound

theorem get?_eq_some {m : LinkedMap κ ν} {key : κ} {value : ν} :
    m.get? key = some value ↔ (key, value) ∈ m.entries := by
  constructor
  · intro found
    obtain ⟨entry, at_key, rfl⟩ := Option.map_eq_some_iff.mp found
    have here : entry.1 = key := by simpa using List.find?_some at_key
    rw [← here]
    exact List.mem_of_find?_eq_some at_key
  · intro member
    cases at_key : m.entries.find? fun entry => entry.1 = key with
    | none => simpa using List.find?_eq_none.mp at_key _ member
    | some entry =>
      have here : entry.1 = key := by simpa using List.find?_some at_key
      have listed := List.mem_of_find?_eq_some at_key
      have same := List.inj_on_of_nodup_map m.distinct listed member here
      rw [get?, at_key, same]
      rfl

theorem get?_eq_none {m : LinkedMap κ ν} {key : κ} : m.get? key = none ↔ key ∉ m.keys := by
  rw [mem_keys]
  constructor
  · rintro missing ⟨value, member⟩
    rw [get?_eq_some.mpr member] at missing
    cases missing
  · intro absent
    cases found : m.get? key with
    | none => rfl
    | some value => exact absurd ⟨value, get?_eq_some.mp found⟩ absent

@[simp] theorem mem_remove {m : LinkedMap κ ν} {key : κ} {entry : κ × ν} :
    entry ∈ (m.remove key).entries ↔ entry ∈ m.entries ∧ entry.1 ≠ key := by
  simp [remove]

@[simp] theorem mem_putLast {m : LinkedMap κ ν} {key : κ} {value : ν} {entry : κ × ν} :
    entry ∈ (m.putLast key value).entries ↔
      (entry ∈ m.entries ∧ entry.1 ≠ key) ∨ entry = (key, value) := by
  simp [putLast]

/-- Access changes the order only. -/
@[simp] theorem mem_touch {m : LinkedMap κ ν} {key : κ} {entry : κ × ν} :
    entry ∈ (m.touch key).entries ↔ entry ∈ m.entries := by
  unfold touch
  split
  · rename_i value found
    have present := get?_eq_some.mp found
    rw [mem_putLast]
    constructor
    · rintro (⟨member, _⟩ | rfl)
      · exact member
      · exact present
    · intro member
      by_cases here : entry.1 = key
      · right
        have value_eq := m.value_unique (v := entry.2) (w := value) (by rw [← here]; exact member)
          present
        rw [← here, ← value_eq]
      · exact .inl ⟨member, here⟩
  · rfl

@[simp] theorem mem_keys_remove {m : LinkedMap κ ν} {key k : κ} :
    k ∈ (m.remove key).keys ↔ k ∈ m.keys ∧ k ≠ key := by
  simp [mem_keys]

@[simp] theorem mem_keys_putLast {m : LinkedMap κ ν} {key k : κ} {value : ν} :
    k ∈ (m.putLast key value).keys ↔ k ∈ m.keys ∨ k = key := by
  rw [mem_keys, mem_keys]
  constructor
  · rintro ⟨v, member⟩
    rcases mem_putLast.mp member with ⟨old, _⟩ | same
    · exact .inl ⟨v, old⟩
    · exact .inr (congrArg Prod.fst same)
  · intro member
    by_cases here : k = key
    · exact ⟨value, mem_putLast.mpr (.inr (by rw [here]))⟩
    · obtain ⟨v, old⟩ := member.resolve_right here
      exact ⟨v, mem_putLast.mpr (.inl ⟨old, here⟩)⟩

@[simp] theorem mem_keys_touch {m : LinkedMap κ ν} {key k : κ} :
    k ∈ (m.touch key).keys ↔ k ∈ m.keys := by
  simp [mem_keys]

@[simp] theorem mem_keys_put {m : LinkedMap κ ν} {key k : κ} {value : ν} :
    k ∈ (m.put key value).keys ↔ k ∈ m.keys ∨ k = key := by
  unfold put
  split
  · rename_i present
    have same : (m.replace key value).keys = m.keys := by
      unfold keys replace
      rw [List.map_map]
      refine List.map_congr_left fun entry _ => ?_
      rw [Function.comp_apply]
      split
      · rename_i here
        exact here.symm
      · rfl
    rw [same]
    refine ⟨.inl, ?_⟩
    rintro (member | rfl)
    · exact member
    · exact present
  · exact mem_keys_putLast

theorem putLast_entries_of_absent {m : LinkedMap κ ν} {key : κ} (absent : key ∉ m.keys)
    (value : ν) : (m.putLast key value).entries = m.entries ++ [(key, value)] := by
  have kept : (m.remove key).entries = m.entries := by
    refine List.filter_eq_self.mpr fun entry member => ?_
    refine decide_eq_true fun here => absent ?_
    exact mem_keys.mpr ⟨entry.2, by rw [← here]; exact member⟩
  exact congrArg (· ++ [(key, value)]) kept

theorem size_putLast {m : LinkedMap κ ν} {key : κ} (absent : key ∉ m.keys) (value : ν) :
    (m.putLast key value).size = m.size + 1 := by
  rw [size, putLast_entries_of_absent absent, List.length_append]
  rfl

/-- An insertion that finds room drops nothing. -/
theorem putBounded_of_room {m : LinkedMap κ ν} {key : κ} {bound : Nat} (absent : key ∉ m.keys)
    (value : ν) (room : m.size < bound) :
    (m.putBounded key value bound).entries = m.entries ++ [(key, value)] := by
  have grown := size_putLast absent value
  rw [putBounded, evict_of_room (by omega), putLast_entries_of_absent absent]

/-- An insertion into a full map drops the eldest entry. -/
theorem putBounded_of_full {m : LinkedMap κ ν} {key : κ} {bound : Nat} (absent : key ∉ m.keys)
    (value : ν) (full : bound ≤ m.size) :
    (m.putBounded key value bound).entries = (m.entries ++ [(key, value)]).tail := by
  have grown := size_putLast absent value
  rw [putBounded, evict, if_pos (by omega)]
  exact congrArg List.tail (putLast_entries_of_absent absent value)

/-- What a fold over the entries makes of a field that only one key sets. -/
theorem foldl_field {σ β : Type} (m : LinkedMap κ ν) {step : σ → κ × ν → σ} {field : σ → β}
    {key : κ} {written : ν → β}
    (others : ∀ state entry, entry.1 ≠ key → field (step state entry) = field state)
    (here : ∀ state value, field (step state (key, value)) = written value) (state : σ) :
    field (m.entries.foldl step state) = ((m.get? key).map written).getD (field state) := by
  obtain ⟨entries, distinct⟩ := m
  have untouched : ∀ (later : List (κ × ν)) (s : σ), key ∉ later.map Prod.fst →
      field (later.foldl step s) = field s := by
    intro later
    induction later with
    | nil => exact fun _ _ => rfl
    | cons entry rest ih =>
      intro s absent
      obtain ⟨other, absent⟩ := List.ne_and_not_mem_of_not_mem_cons absent
      rw [List.foldl_cons, ih _ absent, others _ _ (Ne.symm other)]
  simp only [get?]
  induction entries generalizing state with
  | nil => rfl
  | cons entry rest ih =>
    obtain ⟨absent, distinct⟩ := List.nodup_cons.mp distinct
    rw [List.foldl_cons]
    by_cases at_key : entry.1 = key
    · obtain ⟨k, value⟩ := entry
      cases at_key
      rw [untouched rest _ absent, here, List.find?_cons_of_pos (by simp)]
      rfl
    · rw [ih _ distinct, others _ _ at_key, List.find?_cons_of_neg (by simpa using at_key)]

end LinkedMap

end GitvTime.Support
