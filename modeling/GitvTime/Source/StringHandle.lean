import Mathlib.Data.List.Basic

/-!
# Joining and splitting by the column separator

`utils/StringHandle.java` of the realtime, launcher and viscosity modules: the
builder behind `str_join`, Guava's `Splitter.on('|')` behind `str_split` (with
`trimResults` in the launcher module), and commons-lang's `isBlank`. A Java
string is a Lean string; `|` and white space are single UTF-16 units, so the
unit and the code point views of these functions agree.
-/
namespace GitvTime.Source.StringHandle

/-- `str_join(String str1, String str2)`. -/
def strJoin₂ (str1 str2 : String) : String := str1 ++ "|" ++ str2

/-- `str_join(String... strs)`: every item is followed by the separator and the
last character is deleted. Every caller passes at least two items; on no item
Java's `deleteCharAt(-1)` throws, which no caller reaches. -/
def strJoin (strs : List String) : String :=
  let sb := strs.foldl (fun sb item => sb ++ item ++ "|") ""
  String.ofList sb.toList.dropLast

/-- `str_split`: all pieces are kept, the empty ones included. -/
def strSplit (content : String) : List String :=
  (content.toList.splitOn '|').map String.ofList

/-- `CharMatcher.WHITESPACE` of Guava 19, without U+180E. -/
def guavaWhitespace (c : Char) : Bool :=
  let n := c.toNat
  (0x09 ≤ n && n ≤ 0x0D) || n == 0x20 || n == 0x85 || n == 0xA0 || n == 0x1680 ||
    (0x2000 ≤ n && n ≤ 0x200A) || n == 0x2028 || n == 0x2029 || n == 0x202F || n == 0x205F ||
    n == 0x3000

def trim (s : String) : String :=
  String.ofList ((s.toList.dropWhile guavaWhitespace).reverse.dropWhile guavaWhitespace).reverse

/-- `str_split` with `trimResults`. -/
def strSplitTrim (content : String) : List String := (strSplit content).map trim

/-- `Character.isWhitespace` of Java 8, where U+180E is a space; from Java 9 on it is not. -/
def isWhitespace (c : Char) : Bool :=
  let n := c.toNat
  (0x09 ≤ n && n ≤ 0x0D) || (0x1C ≤ n && n ≤ 0x20) || n == 0x1680 || n == 0x180E ||
    (0x2000 ≤ n && n ≤ 0x2006) || (0x2008 ≤ n && n ≤ 0x200A) || n == 0x2028 || n == 0x2029 ||
    n == 0x205F || n == 0x3000

/-- commons-lang `StringUtils.isBlank`, where `none` is Java's null. -/
def isBlank : Option String → Bool
  | none => true
  | some s => s.toList.all isWhitespace

/-- The string has no separator in it. -/
def BarFree (s : String) : Prop := '|' ∉ s.toList

instance (s : String) : Decidable (BarFree s) := by unfold BarFree; infer_instance

theorem strSplit_ne_nil (content : String) : strSplit content ≠ [] := by
  simp [strSplit, List.splitOn_ne_nil]

/-- A value has a second piece or is one piece. -/
theorem strSplit_cases (content : String) :
    (∃ channel partner rest, strSplit content = channel :: partner :: rest) ∨
      ∃ only, strSplit content = [only] := by
  match pieces : strSplit content with
  | [] => exact absurd pieces (strSplit_ne_nil content)
  | [only] => exact .inr ⟨only, rfl⟩
  | channel :: partner :: rest => exact .inl ⟨channel, partner, rest, rfl⟩

/-- A separator-free head is the first piece, whatever follows. -/
theorem strSplit_strJoin₂ {str1 : String} (free : BarFree str1) (str2 : String) :
    strSplit (strJoin₂ str1 str2) = str1 :: strSplit str2 := by
  have chars : (strJoin₂ str1 str2).toList = str1.toList ++ '|' :: str2.toList := by
    simp [strJoin₂, String.toList_append]
  unfold strSplit
  rw [chars, List.splitOn_append_cons_self_of_not_mem free]
  simp

/-- The pieces of a joined text are those of its two halves. -/
theorem strSplit_append (str1 str2 : String) :
    strSplit (strJoin₂ str1 str2) = strSplit str1 ++ strSplit str2 := by
  have chars : (strJoin₂ str1 str2).toList = str1.toList ++ '|' :: str2.toList := by
    simp [strJoin₂, String.toList_append]
  unfold strSplit
  rw [chars, List.splitOn_append_cons_self, List.map_append]

theorem strSplit_of_barFree {s : String} (free : BarFree s) : strSplit s = [s] := by
  unfold strSplit
  rw [List.splitOn_eq_singleton free]
  simp

theorem strSplit_pair {channel partner : String} (hc : BarFree channel) (hp : BarFree partner) :
    strSplit (strJoin₂ channel partner) = [channel, partner] := by
  rw [strSplit_strJoin₂ hc, strSplit_of_barFree hp]

private theorem builder_toList (strs : List String) (sb : String) :
    (strs.foldl (fun sb item => sb ++ item ++ "|") sb).toList =
      sb.toList ++ strs.flatMap fun item => item.toList ++ ['|'] := by
  induction strs generalizing sb with
  | nil => simp
  | cons head tail ih => simp [ih, String.toList_append, List.append_assoc]

/-- Deleting the builder's last separator leaves the items with a separator
between neighbours. -/
theorem strJoin_toList (strs : List String) (nonempty : strs ≠ []) :
    (strJoin strs).toList = ['|'].intercalate (strs.map String.toList) := by
  have dropped : ∀ l : List String, l ≠ [] →
      (l.flatMap fun item => item.toList ++ ['|']).dropLast =
        ['|'].intercalate (l.map String.toList) := by
    intro l
    induction l with
    | nil => simp
    | cons head tail ih =>
      intro _
      cases tail with
      | nil => simp
      | cons second rest =>
        have step := ih (by simp)
        have tail_ne : (second :: rest).flatMap (fun item => item.toList ++ ['|']) ≠ [] := by simp
        rw [List.flatMap_cons, List.dropLast_append_of_ne_nil tail_ne, step]
        simp [List.intercalate]
  simp only [strJoin, String.toList_ofList, builder_toList]
  simpa using dropped strs nonempty

theorem strJoin_triple (str1 str2 str3 : String) :
    strJoin [str1, str2, str3] = strJoin₂ str1 (strJoin₂ str2 str3) := by
  rw [← String.toList_inj, strJoin_toList _ (by simp)]
  simp [strJoin₂, String.toList_append, List.intercalate]

/-- Splitting undoes joining when no piece contains the separator. -/
theorem strSplit_strJoin (strs : List String) (nonempty : strs ≠ [])
    (free : ∀ s ∈ strs, BarFree s) : strSplit (strJoin strs) = strs := by
  have pieces : ∀ l ∈ strs.map String.toList, '|' ∉ l := by
    intro l member
    obtain ⟨s, belongs, rfl⟩ := List.mem_map.mp member
    exact free s belongs
  unfold strSplit
  rw [strJoin_toList strs nonempty,
    List.splitOn_intercalate '|' pieces (by simpa using nonempty)]
  simp [Function.comp_def]

/-- Joining undoes splitting, for every string. -/
theorem strJoin_strSplit (content : String) : strJoin (strSplit content) = content := by
  rw [← String.toList_inj, strJoin_toList _ (strSplit_ne_nil content)]
  simp [strSplit, Function.comp_def, List.intercalate_splitOn]

/-- No piece of a split contains the separator. -/
theorem barFree_of_mem_strSplit {content piece : String} (member : piece ∈ strSplit content) :
    BarFree piece := by
  obtain ⟨chars, belongs, rfl⟩ := List.mem_map.mp member
  suffices ∀ l : List Char, ∀ p ∈ l.splitOn '|', '|' ∉ p by
    simpa [BarFree] using this _ _ belongs
  intro l
  induction l with
  | nil => simp
  | cons head tail ih =>
    intro p hp
    rw [List.splitOn_cons_eq_if_modifyHead] at hp
    split at hp
    · rcases List.mem_cons.mp hp with rfl | rest
      · simp
      · exact ih p rest
    · rename_i different
      cases pieces : tail.splitOn '|' with
      | nil => exact absurd pieces (List.splitOn_ne_nil _ _)
      | cons first others =>
        rw [pieces] at ih hp
        simp only [List.modifyHead_cons, List.mem_cons] at hp
        rcases hp with rfl | rest
        · have := ih first (by simp)
          simp only [List.mem_cons, not_or]
          exact ⟨fun h => different (by simp [← h]), this⟩
        · exact ih p (by simp [rest])

theorem strJoin₂_inj {a b c d : String} (ha : BarFree a) (hc : BarFree c)
    (same : strJoin₂ a b = strJoin₂ c d) : a = c ∧ b = d := by
  have split := congrArg strSplit same
  rw [strSplit_strJoin₂ ha, strSplit_strJoin₂ hc] at split
  obtain ⟨head, tail⟩ := List.cons.inj split
  refine ⟨head, ?_⟩
  rw [← strJoin_strSplit b, ← strJoin_strSplit d, tail]

/-- Two joined pairs are equal only piece by piece when one pair is separator-free. -/
theorem strJoin₂_inj_of_free {a b c d : String} (ha : BarFree a) (hb : BarFree b)
    (same : strJoin₂ a b = strJoin₂ c d) : a = c ∧ b = d := by
  refine strJoin₂_inj ha ?_ same
  have bars := congrArg (fun s => s.toList.count '|') same
  simp only [strJoin₂, String.toList_append, List.count_append,
    List.count_eq_zero_of_not_mem ha, List.count_eq_zero_of_not_mem hb] at bars
  exact List.count_eq_zero.mp (by omega)

theorem strJoin₂_right_inj {a b suffix : String} (same : strJoin₂ a suffix = strJoin₂ b suffix) :
    a = b := by
  have chars := congrArg String.toList same
  rw [← String.toList_inj]
  simpa [strJoin₂, String.toList_append] using chars

theorem strJoin₂_not_barFree (a b : String) : ¬ BarFree (strJoin₂ a b) := by
  simp [BarFree, strJoin₂, String.toList_append]

theorem barFree_ne_strJoin₂ {s : String} (free : BarFree s) (a b : String) : s ≠ strJoin₂ a b := by
  rintro rfl
  exact strJoin₂_not_barFree a b free

/-- A joined pair is never blank: the separator is no white space. -/
theorem isBlank_strJoin₂ (a b : String) : isBlank (some (strJoin₂ a b)) = false := by
  have bar : isWhitespace '|' = false := by decide
  simp [isBlank, strJoin₂, String.toList_append, bar]

@[simp] theorem isBlank_none : isBlank none = true := rfl

end GitvTime.Source.StringHandle
