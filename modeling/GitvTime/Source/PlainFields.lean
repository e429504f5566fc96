import GitvTime.Source.Numbers
import GitvTime.Source.Patterns
import Mathlib.Data.List.DropRight

/-!
# Fields that survive a line

Pieces of a trimmed split are separator-free and trimmed, and a join of such
fields splits back into them. Cleaned texts and printed numbers are such fields.
-/
namespace GitvTime.Source.StringHandle
open GitvTime.Source.Numbers GitvTime.Source.Patterns

/-- A text that a trimmed split gives back as it is. -/
structure Plain (s : String) : Prop where
  free : BarFree s
  trimmed : trim s = s

theorem trim_toList (s : String) :
    (trim s).toList = (s.toList.dropWhile guavaWhitespace).rdropWhile guavaWhitespace := by
  rw [trim, String.toList_ofList]
  rfl

/-- What is left of a trimmed text does not begin with white space. -/
theorem dropWhile_rdropWhile {α : Type} (p : α → Bool) (l : List α) :
    ((l.dropWhile p).rdropWhile p).dropWhile p = (l.dropWhile p).rdropWhile p := by
  cases kept : l.dropWhile p with
  | nil => simp
  | cons head tail =>
    have visible : p head = false := by
      have first := List.head?_dropWhile_not p l
      simpa [kept] using first
    obtain ⟨rest, whole⟩ := List.rdropWhile_prefix p (head :: tail)
    cases dropped : (head :: tail).rdropWhile p with
    | nil => simp
    | cons head' tail' =>
      rw [dropped] at whole
      cases whole
      rw [List.dropWhile_cons_of_neg (by simp [visible])]

theorem trim_trim (s : String) : trim (trim s) = trim s := by
  rw [← String.toList_inj, trim_toList, trim_toList, dropWhile_rdropWhile,
    List.rdropWhile_idempotent]

theorem trim_subset (s : String) : (trim s).toList ⊆ s.toList := by
  intro c member
  rw [trim_toList] at member
  exact List.dropWhile_subset _ ((List.rdropWhile_prefix _ _).subset member)

theorem plain_of_mem_strSplitTrim {content piece : String}
    (member : piece ∈ strSplitTrim content) : Plain piece := by
  obtain ⟨untrimmed, split, rfl⟩ := List.mem_map.mp member
  exact ⟨fun bar => barFree_of_mem_strSplit split (trim_subset untrimmed bar), trim_trim untrimmed⟩

theorem strSplitTrim_strJoin {strs : List String} (nonempty : strs ≠ [])
    (plain : ∀ s ∈ strs, Plain s) : strSplitTrim (strJoin strs) = strs := by
  rw [strSplitTrim, strSplit_strJoin strs nonempty fun s member => (plain s member).free]
  calc strs.map trim = strs.map id := List.map_congr_left fun s member => (plain s member).trimmed
    _ = strs := List.map_id strs

/-- Plain fields can be read off their line. -/
theorem strJoin_inj {strs others : List String} (nonempty : strs ≠ []) (nonempty' : others ≠ [])
    (plain : ∀ s ∈ strs, Plain s) (plain' : ∀ s ∈ others, Plain s)
    (same : strJoin strs = strJoin others) : strs = others := by
  rw [← strSplitTrim_strJoin nonempty plain, same, strSplitTrim_strJoin nonempty' plain']

theorem strJoin_eq_intercalate {strs : List String} (nonempty : strs ≠ []) :
    strJoin strs = "|".intercalate strs := by
  rw [← String.toList_inj, strJoin_toList _ nonempty, String.toList_intercalate]
  rfl

theorem strJoin_cons {head : String} {rest : List String} (nonempty : rest ≠ []) :
    strJoin (head :: rest) = strJoin₂ head (strJoin rest) := by
  rw [strJoin_eq_intercalate (List.cons_ne_nil _ _), strJoin_eq_intercalate nonempty,
    String.intercalate_cons_of_ne_nil nonempty]
  rfl

theorem strSplitTrim_strJoin₂ {str1 : String} (free : BarFree str1) (str2 : String) :
    strSplitTrim (strJoin₂ str1 str2) = trim str1 :: strSplitTrim str2 := by
  rw [strSplitTrim, strSplit_strJoin₂ free, List.map_cons, ← strSplitTrim]

/-- A join of a join and more is one join. -/
theorem strJoin_strJoin {front back : List String} (nonempty : front ≠ []) (nonempty' : back ≠ []) :
    strJoin (strJoin front :: back) = strJoin (front ++ back) := by
  rw [strJoin_eq_intercalate (List.cons_ne_nil _ _), strJoin_eq_intercalate nonempty,
    strJoin_eq_intercalate (by simp [nonempty]), String.intercalate_cons_of_ne_nil nonempty',
    String.intercalate_append_of_ne_nil nonempty nonempty']

/-- A text without separators and white space is plain. -/
theorem plain_of_visible {s : String}
    (visible : ∀ c ∈ s.toList, c ≠ '|' ∧ guavaWhitespace c = false) : Plain s := by
  refine ⟨fun bar => (visible _ bar).1 rfl, ?_⟩
  rw [← String.toList_inj, trim_toList]
  have kept : s.toList.dropWhile guavaWhitespace = s.toList := by
    cases chars : s.toList with
    | nil => rfl
    | cons head tail =>
      have first := (visible head (chars ▸ List.mem_cons_self)).2
      rw [List.dropWhile_cons_of_neg (by simp [first])]
  rw [kept, List.rdropWhile_eq_self_iff]
  intro nonempty
  simp [(visible _ (List.getLast_mem nonempty)).2]

/-- The range of a digit's code, or the minus sign's. -/
theorem toNat_of_digit {c : Char} (digit : c.isDigit ∨ c = '-') :
    48 ≤ c.toNat ∧ c.toNat ≤ 57 ∨ c.toNat = 45 := by
  rcases digit with digit | rfl
  · left
    simpa [Char.isDigit, Char.le_def, UInt32.le_iff_toNat_le] using digit
  · exact .inr rfl

theorem ne_of_digit {c other : Char} (digit : c.isDigit ∨ c = '-')
    (outside : ¬ (48 ≤ other.toNat ∧ other.toNat ≤ 57 ∨ other.toNat = 45)) : c ≠ other := by
  rintro rfl
  exact outside (toNat_of_digit digit)

theorem plain_toString (x : Int) : Plain (toString x) := by
  refine plain_of_visible fun c member => ⟨ne_of_digit (mem_toString member) (by decide), ?_⟩
  have range := toNat_of_digit (mem_toString member)
  simp only [guavaWhitespace, Bool.or_eq_false_iff, Bool.and_eq_false_iff, decide_eq_false_iff_not,
    beq_eq_false_iff_ne]
  omega

/-- Printed numbers are legal. -/
theorem isLegal_toString (x : Int) : isLegal (some (toString x)) = true := by
  have digit : ∀ c ∈ (toString x).toList, c.isDigit ∨ c = '-' := fun c member => mem_toString member
  have named : equalsIgnoreCaseNull (toString x) = false := by
    unfold equalsIgnoreCaseNull
    split
    · rename_i n u l l' chars
      have first := digit n (chars ▸ List.mem_cons_self)
      have lower : n ≠ 'n' := ne_of_digit first (by decide)
      have upper : n ≠ 'N' := ne_of_digit first (by decide)
      simp [lower, upper]
    · rfl
  have shown : isBlank (some (toString x)) = false := by
    obtain ⟨c, member⟩ := List.exists_mem_of_ne_nil _ (toString_ne_empty x)
    have range := toNat_of_digit (digit c member)
    have visible : isWhitespace c = false := by
      simp only [isWhitespace, Bool.or_eq_false_iff, Bool.and_eq_false_iff,
        decide_eq_false_iff_not, beq_eq_false_iff_ne]
      omega
    rw [isBlank, List.all_eq_false]
    exact ⟨c, member, by simp [visible]⟩
  rw [isLegal, Option.elim_some, named, shown]
  rfl

/-- The cleaning removes the white space that `trim` knows. -/
theorem noSee_of_guavaWhitespace (otherC : Char → Bool) {c : Char}
    (space : guavaWhitespace c = true) : noSee otherC c = true := by
  simp only [guavaWhitespace, Bool.or_eq_true, Bool.and_eq_true, decide_eq_true_eq,
    beq_iff_eq] at space
  simp only [noSee, isControl, isSeparator, Bool.or_eq_true, Bool.and_eq_true, decide_eq_true_eq,
    beq_iff_eq]
  omega

theorem plain_clean (otherC : Char → Bool) {content : String} (free : BarFree content) :
    Plain (pt.removeFrom ((noSeePattern otherC).removeFrom content)) := by
  refine plain_of_visible fun c member => ⟨?_, ?_⟩
  · rintro rfl
    exact (barFree_clean otherC content).mpr free member
  · have seen : noSee otherC c = false := by
      have kept : c ∈ content.toList.filter fun c => !noSee otherC c := by
        simpa [pt, noSeePattern, Pattern.removeFrom] using member
      simpa using (List.mem_filter.mp kept).2
    by_contra space
    rw [noSee_of_guavaWhitespace otherC (by simpa using space)] at seen
    exact absurd seen (by decide)

end GitvTime.Source.StringHandle
