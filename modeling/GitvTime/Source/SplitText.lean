import Mathlib.Data.List.DropRight

/-!
# Splitting texts

`String.split` at a character, which drops the empty pieces at the end, and with a limit.
-/
namespace GitvTime.Source.SplitText

/-- `split(sep)`; a text without the character is its own piece. -/
def split (sep : Char) (text : String) : List String :=
  if sep ∈ text.toList then
    (((text.toList.splitOn sep).rdropWhile fun piece => piece.isEmpty)).map String.ofList
  else [text]

/-- `split(sep, limit)` for a positive limit: what is behind the last cut is one piece. -/
def splitLimit (sep : Char) (limit : Nat) (text : String) : List String :=
  let pieces := text.toList.splitOn sep
  if pieces.length ≤ limit then pieces.map String.ofList
  else
    (pieces.take (limit - 1)).map String.ofList ++
      [String.ofList ([sep].intercalate (pieces.drop (limit - 1)))]

/-- A text that does not end in an empty piece has all its pieces. -/
theorem split_eq_splitOn {sep : Char} {text : String}
    (closed : ∀ last ∈ (text.toList.splitOn sep).getLast?, last ≠ []) :
    split sep text = (text.toList.splitOn sep).map String.ofList := by
  unfold split
  split
  case isTrue =>
    congr 1
    refine List.rdropWhile_eq_self_iff.mpr fun nonempty empty => ?_
    exact closed _ (List.getLast?_eq_some_getLast nonempty) (List.isEmpty_iff.mp empty)
  case isFalse free =>
    rw [List.splitOn_eq_singleton free]
    simp

theorem splitLimit_one {sep : Char} {first : List Char} (free : sep ∉ first) :
    splitLimit sep 3 (String.ofList first) = [String.ofList first] := by
  unfold splitLimit
  rw [String.toList_ofList, List.splitOn_eq_singleton free]
  rfl

theorem splitLimit_two {sep : Char} {first second : List Char} (free : sep ∉ first)
    (free' : sep ∉ second) :
    splitLimit sep 3 (String.ofList (first ++ sep :: second)) =
      [String.ofList first, String.ofList second] := by
  unfold splitLimit
  rw [String.toList_ofList, List.splitOn_append_cons_self_of_not_mem free,
    List.splitOn_eq_singleton free']
  rfl

/-- The third piece keeps the separators in it. -/
theorem splitLimit_three {sep : Char} {first second : List Char} (free : sep ∉ first)
    (free' : sep ∉ second) (third : List Char) :
    splitLimit sep 3 (String.ofList (first ++ sep :: (second ++ sep :: third))) =
      [String.ofList first, String.ofList second, String.ofList third] := by
  unfold splitLimit
  rw [String.toList_ofList, List.splitOn_append_cons_self_of_not_mem free,
    List.splitOn_append_cons_self_of_not_mem free']
  have whole : [sep].intercalate (third.splitOn sep) = third := List.intercalate_splitOn sep
  cases pieces : third.splitOn sep with
  | nil => exact absurd pieces (List.splitOn_ne_nil _ _)
  | cons piece rest =>
    rw [pieces] at whole
    cases rest with
    | nil =>
      have same : piece = third := by simpa using whole
      simp [same]
    | cons piece' rest => simp [whole]

theorem subset_intercalate {sep piece : List Char} {pieces : List (List Char)}
    (member : piece ∈ pieces) : piece ⊆ sep.intercalate pieces := by
  induction pieces with
  | nil => cases member
  | cons head tail ih =>
    cases tail with
    | nil =>
      rw [List.intercalate_singleton, List.mem_singleton.mp member]
      exact List.Subset.refl _
    | cons head' tail' =>
      rw [List.intercalate_cons_cons]
      rcases List.mem_cons.mp member with rfl | behind
      · exact fun c inside => List.mem_append_left _ (List.mem_append_left _ inside)
      · exact fun c inside => List.mem_append_right _ (ih behind inside)

theorem intercalate_drop_subset (sep : List Char) (pieces : List (List Char)) (n : Nat) :
    sep.intercalate (pieces.drop n) ⊆ sep.intercalate pieces := by
  induction pieces generalizing n with
  | nil =>
    rw [List.drop_nil]
    exact List.Subset.refl _
  | cons head tail ih =>
    cases n with
    | zero => exact List.Subset.refl _
    | succ n =>
      rw [List.drop_succ_cons]
      intro c inside
      have kept : c ∈ sep.intercalate tail := ih n inside
      cases tail with
      | nil => cases kept
      | cons head' tail' =>
        rw [List.intercalate_cons_cons]
        exact List.mem_append_right _ kept

/-- The pieces are made of characters of the text. -/
theorem subset_of_mem_splitLimit {sep : Char} {limit : Nat} {text piece : String}
    (member : piece ∈ splitLimit sep limit text) : piece.toList ⊆ text.toList := by
  have whole : [sep].intercalate (text.toList.splitOn sep) = text.toList :=
    List.intercalate_splitOn sep
  have single : ∀ chars ∈ text.toList.splitOn sep, chars ⊆ text.toList := fun chars inside =>
    whole ▸ subset_intercalate inside
  unfold splitLimit at member
  dsimp only at member
  split at member
  case isTrue =>
    obtain ⟨chars, inside, rfl⟩ := List.mem_map.mp member
    rw [String.toList_ofList]
    exact single chars inside
  case isFalse =>
    rcases List.mem_append.mp member with front | behind
    · obtain ⟨chars, inside, rfl⟩ := List.mem_map.mp front
      rw [String.toList_ofList]
      exact single chars (List.mem_of_mem_take inside)
    · rw [List.mem_singleton.mp behind, String.toList_ofList]
      have rest := intercalate_drop_subset [sep] (text.toList.splitOn sep) (limit - 1)
      rwa [whole] at rest

end GitvTime.Source.SplitText
