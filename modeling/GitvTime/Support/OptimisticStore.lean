import Mathlib.Data.List.Basic

/-!
# A keyed store with optimistic locking

Every key carries the number of its modifications. Watching keys records these
numbers; a transaction guarded by the recorded watch goes through only when
none of them has changed. Entries may also lapse (time out), which a server may
or may not count as a modification, so the only thing an unchanged count of a
key rules out is a rewritten value, not a lapsed one.
-/
namespace GitvTime.Support

structure Store (κ ν : Type) where
  value : κ → Option ν
  version : κ → Nat

/-- The keys a connection watches, each with its count at the time. -/
abbrev Watch (κ : Type) := List (κ × Nat)

namespace Store

variable {κ ν : Type} [DecidableEq κ]

def empty : Store κ ν := ⟨fun _ => none, fun _ => 0⟩

/-- Replace or remove the value of a key; counts as a modification. -/
def write (store : Store κ ν) (key : κ) (value : Option ν) : Store κ ν where
  value := fun k => if k = key then value else store.value k
  version := fun k => if k = key then store.version k + 1 else store.version k

/-- The entry of a key times out. -/
def lapse (store : Store κ ν) (key : κ) (counts : Bool) : Store κ ν where
  value := fun k => if k = key then none else store.value k
  version := fun k => if k = key ∧ counts = true then store.version k + 1 else store.version k

def watch (store : Store κ ν) (keys : List κ) : Watch κ :=
  keys.map fun key => (key, store.version key)

def unmodified (store : Store κ ν) (watch : Watch κ) : Bool :=
  watch.all fun entry => store.version entry.1 == entry.2

@[simp] theorem write_value_self (store : Store κ ν) (key : κ) (value : Option ν) :
    (store.write key value).value key = value := by simp [write]

theorem write_value_ne (store : Store κ ν) {key other : κ} (value : Option ν)
    (different : other ≠ key) : (store.write key value).value other = store.value other := by
  simp [write, different]

@[simp] theorem write_version_self (store : Store κ ν) (key : κ) (value : Option ν) :
    (store.write key value).version key = store.version key + 1 := by simp [write]

theorem write_version_ne (store : Store κ ν) {key other : κ} (value : Option ν)
    (different : other ≠ key) : (store.write key value).version other = store.version other := by
  simp [write, different]

@[simp] theorem lapse_value_self (store : Store κ ν) (key : κ) (counts : Bool) :
    (store.lapse key counts).value key = none := by simp [lapse]

theorem lapse_value_ne (store : Store κ ν) {key other : κ} (counts : Bool)
    (different : other ≠ key) : (store.lapse key counts).value other = store.value other := by
  simp [lapse, different]

theorem lapse_version_ne (store : Store κ ν) {key other : κ} (counts : Bool)
    (different : other ≠ key) : (store.lapse key counts).version other = store.version other := by
  simp [lapse, different]

omit [DecidableEq κ] in
theorem unmodified_iff (store : Store κ ν) (watch : Watch κ) :
    store.unmodified watch = true ↔ ∀ entry ∈ watch, store.version entry.1 = entry.2 := by
  simp [unmodified]

omit [DecidableEq κ] in
@[simp] theorem unmodified_nil (store : Store κ ν) : store.unmodified [] = true := rfl

omit [DecidableEq κ] in
@[simp] theorem unmodified_watch (store : Store κ ν) (keys : List κ) :
    store.unmodified (store.watch keys) = true := by
  simp [unmodified_iff, watch]

omit [DecidableEq κ] in
/-- Keys whose counts are the same in both stores carry a watch over. -/
theorem unmodified_congr {before after : Store κ ν} {watch : Watch κ}
    (same : ∀ entry ∈ watch, after.version entry.1 = before.version entry.1) :
    after.unmodified watch = before.unmodified watch := by
  rw [Bool.eq_iff_iff, unmodified_iff, unmodified_iff]
  constructor
  · intro h entry member
    rw [← same entry member]
    exact h entry member
  · intro h entry member
    rw [same entry member]
    exact h entry member

omit [DecidableEq κ] in
/-- A watch that was overtaken stays overtaken. -/
theorem unmodified_false_of_lt {store : Store κ ν} {watch : Watch κ} {entry : κ × Nat}
    (member : entry ∈ watch) (later : entry.2 < store.version entry.1) :
    store.unmodified watch = false := by
  rw [Bool.eq_false_iff]
  intro h
  have same := (store.unmodified_iff watch).mp h entry member
  omega

/-- What any sequence of writes and lapses does to a store: counts only grow,
and a key whose count is unchanged kept its value or lost it by lapsing.
`lapses` are the values that may time out. -/
structure Evolves (lapses : ν → Prop) (before after : Store κ ν) : Prop where
  counts : ∀ key, before.version key ≤ after.version key
  values : ∀ key, after.version key = before.version key →
    after.value key = before.value key ∨
      after.value key = none ∧ ∃ v, before.value key = some v ∧ lapses v

namespace Evolves

variable {lapses : ν → Prop}

omit [DecidableEq κ] in
theorem refl (store : Store κ ν) : Evolves lapses store store :=
  ⟨fun _ => Nat.le_refl _, fun _ _ => .inl rfl⟩

omit [DecidableEq κ] in
theorem trans {a b c : Store κ ν} (first : Evolves lapses a b) (second : Evolves lapses b c) :
    Evolves lapses a c := by
  refine ⟨fun key => Nat.le_trans (first.counts key) (second.counts key), ?_⟩
  intro key same
  have hab := first.counts key
  have hbc := second.counts key
  rcases first.values key (by omega) with kept | lost
  · rcases second.values key (by omega) with kept' | ⟨gone, v, present, timed⟩
    · exact .inl (kept'.trans kept)
    · exact .inr ⟨gone, v, by rw [← kept]; exact present, timed⟩
  · rcases second.values key (by omega) with kept' | ⟨gone, _⟩
    · exact .inr ⟨kept'.trans lost.1, lost.2⟩
    · exact .inr ⟨gone, lost.2⟩

theorem write (store : Store κ ν) (key : κ) (value : Option ν) :
    Evolves lapses store (store.write key value) := by
  constructor
  · intro k
    by_cases h : k = key <;> simp [Store.write, h]
  · intro k same
    by_cases h : k = key
    · subst k
      simp at same
    · exact .inl (store.write_value_ne value h)

theorem lapse (store : Store κ ν) {key : κ} (counts : Bool)
    (timed : ∀ v, store.value key = some v → lapses v) :
    Evolves lapses store (store.lapse key counts) := by
  constructor
  · intro k
    simp only [Store.lapse]
    split <;> omega
  · intro k _
    by_cases h : k = key
    · subst k
      cases present : store.value key with
      | none => exact .inl (by simp)
      | some v => exact .inr ⟨by simp, v, rfl, timed v present⟩
    · exact .inl (store.lapse_value_ne counts h)

omit [DecidableEq κ] in
/-- A watch that is still good was good before, for keys recorded no later. -/
theorem unmodified_before {before after : Store κ ν} (step : Evolves lapses before after)
    {watch : Watch κ} (recorded : ∀ entry ∈ watch, entry.2 ≤ before.version entry.1)
    (good : after.unmodified watch = true) : before.unmodified watch = true := by
  rw [unmodified_iff] at good ⊢
  intro entry member
  have h₁ := good entry member
  have h₂ := recorded entry member
  have h₃ := step.counts entry.1
  omega

end Evolves

end Store

end GitvTime.Support
