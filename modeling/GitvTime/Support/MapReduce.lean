import Mathlib.Data.List.Nodup
import Mathlib.Data.List.Perm.Basic

/-!
# Stages and their shuffle

A stage calls a function on each input and fails as a whole when one call does.
Between two stages the records are grouped by their keys: the groups, the records
in each and the order of both are free.
-/
namespace GitvTime.Support.MapReduce

section
variable {α β : Type}

/-- The records of the calls that write one; `none` is a call that fails. -/
def written (call : α → Option (Option β)) (inputs : List α) : List β :=
  inputs.filterMap fun input => (call input).join

/-- A failing call fails the stage. -/
def stage (call : α → Option (Option β)) (inputs : List α) : Option (List β) :=
  if inputs.all fun input => (call input).isSome then some (written call inputs) else none

variable {call : α → Option (Option β)} {inputs : List α}

theorem mem_written {record : β} :
    record ∈ written call inputs ↔ ∃ input ∈ inputs, call input = some (some record) := by
  simp [written, Option.join_eq_some_iff]

theorem written_map {γ : Type} (view : γ → α) (inputs : List γ) :
    written call (inputs.map view) = written (fun input => call (view input)) inputs :=
  List.filterMap_map ..

theorem stage_map {γ : Type} (view : γ → α) (inputs : List γ) :
    stage call (inputs.map view) = stage (fun input => call (view input)) inputs := by
  rw [stage, stage, written_map, List.all_map]
  rfl

/-- A stage writes its records or fails at an input. -/
theorem stage_eq_some_iff {records : List β} :
    stage call inputs = some records ↔
      (∀ input ∈ inputs, call input ≠ none) ∧ written call inputs = records := by
  unfold stage
  split
  · rename_i all
    simp only [List.all_eq_true, Option.isSome_iff_ne_none] at all
    simp only [Option.some.injEq]
    exact ⟨fun same => ⟨all, same⟩, And.right⟩
  · rename_i all
    simp only [List.all_eq_true, Option.isSome_iff_ne_none] at all
    exact iff_of_false nofun fun ⟨finished, _⟩ => all finished

theorem stage_ne_none_iff : stage call inputs ≠ none ↔ ∀ input ∈ inputs, call input ≠ none := by
  rw [← Option.isSome_iff_ne_none, Option.isSome_iff_exists]
  simp [stage_eq_some_iff]

theorem stage_eq_none_iff : stage call inputs = none ↔ ∃ input ∈ inputs, call input = none := by
  rw [← not_iff_not, ← ne_eq, stage_ne_none_iff]
  simp

/-- A stage whose calls all write. -/
theorem stage_of_forall {result : α → β}
    (calls : ∀ input ∈ inputs, call input = some (some (result input))) :
    stage call inputs = some (inputs.map result) := by
  refine stage_eq_some_iff.mpr ⟨fun input member => by simp [calls input member], ?_⟩
  rw [← List.filterMap_eq_map]
  exact List.filterMap_congr fun input member => by simp [calls input member]

/-- So does a failing element of a traversal. -/
theorem mapM_ne_none_iff {f : α → Option β} :
    inputs.mapM f ≠ none ↔ ∀ input ∈ inputs, f input ≠ none := by
  induction inputs with
  | nil => simp
  | cons head tail ih =>
    rw [List.mapM_cons, List.forall_mem_cons, ← ih]
    cases f head with
    | none => simp
    | some result => cases tail.mapM f <;> simp

end

variable {κ ν : Type}

/-- The groups that a shuffle may make of the records. -/
structure Shuffle (records : List (κ × ν)) (groups : List (κ × List ν)) : Prop where
  keys_nodup : (groups.map Prod.fst).Nodup
  nonempty : ∀ group ∈ groups, group.2 ≠ []
  perm : (groups.flatMap fun group => group.2.map (group.1, ·)).Perm records

namespace Shuffle

theorem single (key : κ) (value : ν) : Shuffle [(key, value)] [(key, [value])] where
  keys_nodup := List.nodup_singleton key
  nonempty := by simp
  perm := .refl _

variable {records : List (κ × ν)} {groups : List (κ × List ν)}

theorem mem_records (shuffled : Shuffle records groups) {key : κ} {value : ν} :
    (key, value) ∈ records ↔ ∃ group ∈ groups, group.1 = key ∧ value ∈ group.2 := by
  rw [← shuffled.perm.mem_iff, List.mem_flatMap]
  constructor
  · rintro ⟨group, member, belongs⟩
    obtain ⟨value', found, pair⟩ := List.mem_map.mp belongs
    cases pair
    exact ⟨group, member, rfl, found⟩
  · rintro ⟨group, member, rfl, found⟩
    exact ⟨group, member, List.mem_map_of_mem found⟩

theorem exists_group (shuffled : Shuffle records groups) {record : κ × ν}
    (member : record ∈ records) : ∃ group ∈ groups, group.1 = record.1 := by
  obtain ⟨group, found, key, _⟩ := shuffled.mem_records.mp member
  exact ⟨group, found, key⟩

/-- One group for each key. -/
theorem group_inj (shuffled : Shuffle records groups) {group group' : κ × List ν}
    (member : group ∈ groups) (member' : group' ∈ groups) (key : group.1 = group'.1) :
    group = group' :=
  List.inj_on_of_nodup_map shuffled.keys_nodup member member' key

theorem nodup (shuffled : Shuffle records groups) : groups.Nodup :=
  List.Nodup.of_map Prod.fst shuffled.keys_nodup

theorem filter_groups [DecidableEq κ] (shuffled : Shuffle records groups) {group : κ × List ν}
    (member : group ∈ groups) : groups.filter (·.1 = group.1) = [group] := by
  refine List.perm_singleton.mp ((List.perm_ext_iff_of_nodup (shuffled.nodup.filter _)
    (List.nodup_singleton group)).mpr fun other => ?_)
  simp only [List.mem_filter, decide_eq_true_eq, List.mem_singleton]
  constructor
  · rintro ⟨found, key⟩
    exact shuffled.group_inj found member key
  · rintro rfl
    exact ⟨member, rfl⟩

/-- A group has the values of its key, in any order. -/
theorem values_perm [DecidableEq κ] (shuffled : Shuffle records groups) {group : κ × List ν}
    (member : group ∈ groups) :
    group.2.Perm ((records.filter (·.1 = group.1)).map Prod.snd) := by
  have collected : (groups.flatMap fun other => other.2.map (other.1, ·)).filter
      (·.1 = group.1) = group.2.map (group.1, ·) := by
    have others : ∀ part : List (κ × List ν), group.1 ∉ part.map Prod.fst →
        (part.flatMap fun other => other.2.map (other.1, ·)).filter (·.1 = group.1) = [] := by
      intro part absent
      rw [List.filter_eq_nil_iff]
      simp only [List.mem_flatMap, List.mem_map, decide_eq_true_eq]
      rintro _ ⟨other, found, value, _, rfl⟩ key
      exact absent (key ▸ List.mem_map_of_mem found)
    obtain ⟨front, back, rfl⟩ := List.append_of_mem member
    have distinct := shuffled.keys_nodup
    rw [List.map_append, List.map_cons, List.nodup_middle, List.nodup_cons, List.mem_append,
      not_or] at distinct
    rw [List.flatMap_append, List.flatMap_cons, List.filter_append, List.filter_append,
      others front distinct.1.1, others back distinct.1.2, List.nil_append, List.append_nil,
      List.filter_eq_self]
    simp
  have same := (shuffled.perm.filter (·.1 = group.1)).map Prod.snd
  rw [collected, List.map_map] at same
  simpa [Function.comp_def] using same

end Shuffle

end GitvTime.Support.MapReduce
