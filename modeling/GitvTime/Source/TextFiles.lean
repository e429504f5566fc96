import GitvTime.Source.PlainFields

/-!
# Text files between two jobs

What `TextOutputFormat` writes for values without keys, and what the
`LineRecordReader` of `TextInputFormat` reads back from such a file. A line ends
at a line feed, at a carriage return or at both together.
-/
namespace GitvTime.Source.TextFiles
open GitvTime.Source.StringHandle GitvTime.Source.Numbers GitvTime.Source.Patterns

/-- The text of a part file: each value and a line feed. -/
def fileText (values : List String) : List Char :=
  values.flatMap fun value => value.toList ++ ['\n']

/-- The lines from here on; a line feed behind a carriage return ends no line of
its own. -/
def linesFrom (line : List Char) (prevCharCR : Bool) : List Char → List (List Char)
  | [] => if line = [] then [] else [line]
  | c :: rest =>
    if c = '\n' then
      if prevCharCR then linesFrom line false rest else line :: linesFrom [] false rest
    else if c = '\r' then line :: linesFrom [] true rest
    else linesFrom (line ++ [c]) false rest

/-- `skipUtfByteOrderMark`: the reader drops a mark at the start of a file. -/
def skipUtfByteOrderMark : List Char → List Char
  | '\uFEFF' :: rest => rest
  | text => text

def readLines (text : List Char) : List String :=
  (linesFrom [] false (skipUtfByteOrderMark text)).map String.ofList

def isBreak (c : Char) : Bool := c == '\n' || c == '\r'

/-- The value stays on one line. -/
def BreakFree (value : String) : Prop := ∀ c ∈ value.toList, isBreak c = false

instance (value : String) : Decidable (BreakFree value) :=
  decidable_of_iff (value.toList.all fun c => !isBreak c) (by simp [BreakFree])

/-- The value as the first line of its file. -/
def unmarked (value : String) : String := String.ofList (skipUtfByteOrderMark value.toList)

/-- The value ends in a character of its own, so that the line feed behind it ends
a line. -/
def Closed (text : List Char) : Prop := ∃ last ∈ text.getLast?, isBreak last = false

theorem closed_of_cons {c : Char} {rest : List Char} (closed : Closed (c :: rest))
    (more : rest ≠ []) : Closed rest := by
  obtain ⟨last, found, visible⟩ := closed
  rw [List.getLast?_cons_of_ne_nil more] at found
  exact ⟨last, found, visible⟩

theorem closed_cases {c : Char} {rest : List Char} (closed : Closed (c :: rest)) :
    rest = [] ∧ isBreak c = false ∨ Closed rest := by
  cases rest with
  | nil =>
    obtain ⟨last, found, visible⟩ := closed
    cases found
    exact .inl ⟨rfl, visible⟩
  | cons head tail => exact .inr (closed_of_cons closed (List.cons_ne_nil _ _))

theorem linesFrom_visible {c : Char} (visible : isBreak c = false) (line : List Char)
    (prevCharCR : Bool) (rest : List Char) :
    linesFrom line prevCharCR (c :: rest) = linesFrom (line ++ [c]) false rest := by
  simp only [isBreak, Bool.or_eq_false_iff, beq_eq_false_iff_ne] at visible
  rw [linesFrom, if_neg visible.1, if_neg visible.2]

theorem linesFrom_ne_nil {text : List Char} (closed : Closed text) (line : List Char)
    (prevCharCR : Bool) : linesFrom line prevCharCR text ≠ [] := by
  induction text generalizing line prevCharCR with
  | nil => obtain ⟨last, found, _⟩ := closed; cases found
  | cons c rest ih =>
    rcases closed_cases closed with ⟨rfl, visible⟩ | closed
    · rw [linesFrom_visible visible, linesFrom]
      simp
    · rw [linesFrom]
      split
      · split
        · exact ih closed _ _
        · exact List.cons_ne_nil _ _
      · split
        · exact List.cons_ne_nil _ _
        · exact ih closed _ _

/-- The lines of a value are read as if it were alone. -/
theorem linesFrom_append {text : List Char} (closed : Closed text) (line : List Char)
    (prevCharCR : Bool) (rest : List Char) :
    linesFrom line prevCharCR (text ++ '\n' :: rest) =
      linesFrom line prevCharCR text ++ linesFrom [] false rest := by
  induction text generalizing line prevCharCR with
  | nil => obtain ⟨last, found, _⟩ := closed; cases found
  | cons c tail ih =>
    rw [List.cons_append]
    rcases closed_cases closed with ⟨rfl, visible⟩ | closed
    · rw [linesFrom_visible visible, linesFrom_visible visible, List.nil_append, linesFrom,
        linesFrom]
      simp
    · simp only [linesFrom, ih closed]
      split
      · split <;> rfl
      · split <;> rfl

theorem linesFrom_fileText {values : List String} (closed : ∀ value ∈ values, Closed value.toList) :
    linesFrom [] false (fileText values) =
      values.flatMap fun value => linesFrom [] false value.toList := by
  induction values with
  | nil => rfl
  | cons value rest ih =>
    have tail := ih fun value' member => closed value' (List.mem_cons_of_mem _ member)
    rw [fileText, List.flatMap_cons, List.append_assoc, List.singleton_append,
      linesFrom_append (closed value List.mem_cons_self), List.flatMap_cons]
    rw [fileText] at tail
    rw [tail]

/-- Nothing but the ends of lines is lost. -/
theorem count_linesFrom {c : Char} (visible : isBreak c = false) (text line : List Char)
    (prevCharCR : Bool) :
    ((linesFrom line prevCharCR text).map (List.count c)).sum = line.count c + text.count c := by
  simp only [isBreak, Bool.or_eq_false_iff, beq_eq_false_iff_ne] at visible
  induction text generalizing line prevCharCR with
  | nil =>
    rw [linesFrom]
    split
    · rename_i empty
      simp [empty]
    · simp
  | cons head rest ih =>
    rw [linesFrom]
    split
    · rename_i feed
      rw [List.count_cons_of_ne (by rw [feed]; exact visible.1.symm)]
      split
      · exact ih line false
      · simp [ih]
    · split
      · rename_i feed
        rw [List.count_cons_of_ne (by rw [feed]; exact visible.2.symm)]
        simp [ih]
      · rw [ih, List.count_append, List.count_cons, List.count_cons]
        simp
        omega

theorem linesFrom_of_breakFree {text : List Char} (free : ∀ c ∈ text, isBreak c = false)
    (nonempty : text ≠ []) (line : List Char) (prevCharCR : Bool) :
    linesFrom line prevCharCR text = [line ++ text] := by
  induction text generalizing line prevCharCR with
  | nil => exact absurd rfl nonempty
  | cons c rest ih =>
    rw [linesFrom_visible (free c List.mem_cons_self)]
    cases rest with
    | nil => simp [linesFrom]
    | cons c' rest' =>
      rw [ih (fun c member => free c (List.mem_cons_of_mem _ member)) (List.cons_ne_nil _ _)]
      simp

/-- A break inside a value makes more lines of it. -/
theorem two_le_length_linesFrom {text : List Char} (closed : Closed text)
    (broken : ∃ c ∈ text, isBreak c = true) (line : List Char) :
    2 ≤ (linesFrom line false text).length := by
  have more : ∀ {rest : List Char}, Closed rest → ∀ prevCharCR,
      1 ≤ (linesFrom [] prevCharCR rest).length := fun closed prevCharCR =>
    List.length_pos_iff.mpr (linesFrom_ne_nil closed [] prevCharCR)
  induction text generalizing line with
  | nil => obtain ⟨last, found, _⟩ := closed; cases found
  | cons c rest ih =>
    obtain ⟨brk, member, isBrk⟩ := broken
    rcases closed_cases closed with ⟨rfl, visible⟩ | closed
    · rw [List.mem_singleton.mp member, visible] at isBrk
      cases isBrk
    · cases visible : isBreak c with
      | true =>
        rw [linesFrom]
        split
        · rw [if_neg (by decide), List.length_cons]
          have := more closed false
          omega
        · rename_i noFeed
          have feed : c = '\r' := by simpa [isBreak, noFeed] using visible
          rw [if_pos feed, List.length_cons]
          have := more closed true
          omega
      | false =>
        have inside : brk ∈ rest := by
          rcases List.mem_cons.mp member with rfl | inside
          · rw [visible] at isBrk; cases isBrk
          · exact inside
        rw [linesFrom_visible visible]
        exact ih closed ⟨brk, inside, isBrk⟩ _

theorem skipUtfByteOrderMark_append {c : Char} (other : c ≠ '\uFEFF') (front back : List Char) :
    skipUtfByteOrderMark (front ++ c :: back) = skipUtfByteOrderMark front ++ c :: back := by
  have kept : ∀ {head : Char} (tail : List Char), head ≠ '\uFEFF' →
      skipUtfByteOrderMark (head :: tail) = head :: tail := by
    intro head tail different
    unfold skipUtfByteOrderMark
    split
    · rename_i same
      exact absurd (List.cons.inj same).1 different
    · rfl
  cases front with
  | nil => exact kept back other
  | cons head tail =>
    by_cases mark : head = '\uFEFF'
    · subst mark; rfl
    · rw [List.cons_append, kept _ mark, kept _ mark, List.cons_append]

theorem skipUtfByteOrderMark_fileText (values : List String) :
    skipUtfByteOrderMark (fileText values) = fileText (values.modifyHead unmarked) := by
  cases values with
  | nil => rfl
  | cons value rest =>
    rw [List.modifyHead_cons, fileText, fileText, List.flatMap_cons, List.flatMap_cons, unmarked,
      String.toList_ofList, List.append_assoc, List.singleton_append,
      skipUtfByteOrderMark_append (by decide), List.append_assoc, List.singleton_append]

/-- What is read of a part file, value by value. -/
theorem readLines_fileText {values : List String}
    (closed : ∀ value ∈ values.modifyHead unmarked, Closed value.toList) :
    readLines (fileText values) = (values.modifyHead unmarked).flatMap fun value =>
      (linesFrom [] false value.toList).map String.ofList := by
  rw [readLines, skipUtfByteOrderMark_fileText, linesFrom_fileText closed, List.map_flatMap]

/-! ### Joined values -/

theorem strJoin₂_toList (str1 str2 : String) :
    (strJoin₂ str1 str2).toList = str1.toList ++ '|' :: str2.toList := by
  simp [strJoin₂, String.toList_append]

theorem unmarked_strJoin₂ (str1 str2 : String) :
    unmarked (strJoin₂ str1 str2) = strJoin₂ (unmarked str1) str2 := by
  rw [← String.toList_inj, unmarked, String.toList_ofList, strJoin₂_toList, strJoin₂_toList,
    skipUtfByteOrderMark_append (by decide), unmarked, String.toList_ofList]

theorem skipUtfByteOrderMark_suffix (text : List Char) : skipUtfByteOrderMark text <:+ text := by
  unfold skipUtfByteOrderMark
  split
  · exact List.suffix_cons _ _
  · exact List.suffix_rfl

theorem barFree_unmarked {value : String} (free : BarFree value) : BarFree (unmarked value) := by
  intro bar
  rw [unmarked, String.toList_ofList] at bar
  exact free ((skipUtfByteOrderMark_suffix _).subset bar)

theorem closed_strJoin₂ (str1 : String) {str2 : String} (closed : Closed str2.toList) :
    Closed (strJoin₂ str1 str2).toList := by
  obtain ⟨last, found, visible⟩ := closed
  refine ⟨last, ?_, visible⟩
  rw [strJoin₂_toList, List.getLast?_append_cons, List.getLast?_cons_of_ne_nil]
  · exact found
  · rintro empty
    rw [empty] at found
    cases found

theorem breakFree_strJoin₂ (str1 str2 : String) :
    BreakFree (strJoin₂ str1 str2) ↔ BreakFree str1 ∧ BreakFree str2 := by
  have bar : isBreak '|' = false := by decide
  simp [BreakFree, strJoin₂_toList, or_imp, forall_and, bar]

theorem breakFree_strJoin {strs : List String} (nonempty : strs ≠ []) :
    BreakFree (strJoin strs) ↔ ∀ s ∈ strs, BreakFree s := by
  induction strs with
  | nil => exact absurd rfl nonempty
  | cons head tail ih =>
    cases tail with
    | nil => simp [strJoin_eq_intercalate]
    | cons second rest =>
      rw [strJoin_cons (List.cons_ne_nil _ _), breakFree_strJoin₂, ih (List.cons_ne_nil _ _)]
      simp

theorem breakFree_toString (x : Int) : BreakFree (toString x) := by
  intro c member
  have digit := mem_toString member
  have feed : c ≠ '\n' := ne_of_digit digit (by decide)
  have return' : c ≠ '\r' := ne_of_digit digit (by decide)
  simp [isBreak, feed, return']

theorem breakFree_of_subset {s s' : String} (free : BreakFree s) (within : s'.toList ⊆ s.toList) :
    BreakFree s' :=
  fun c member => free c (within member)

theorem breakFree_of_mem_strSplitTrim {value piece : String} (free : BreakFree value)
    (member : piece ∈ strSplitTrim value) : BreakFree piece := by
  obtain ⟨untrimmed, split, rfl⟩ := List.mem_map.mp member
  rw [← strJoin_strSplit value, breakFree_strJoin (strSplit_ne_nil value)] at free
  exact breakFree_of_subset (free untrimmed split) (trim_subset untrimmed)

theorem breakFree_unmarked {value : String} (free : BreakFree value) :
    BreakFree (unmarked value) := by
  refine breakFree_of_subset free fun c kept => ?_
  rw [unmarked, String.toList_ofList] at kept
  exact (skipUtfByteOrderMark_suffix _).subset kept

theorem breakFree_clean (otherC : Char → Bool) {content : String} (free : BreakFree content) :
    BreakFree (pt.removeFrom ((noSeePattern otherC).removeFrom content)) := by
  refine breakFree_of_subset free fun c kept => ?_
  simp only [pt, noSeePattern, Pattern.removeFrom, String.toList_ofList, List.mem_filter] at kept
  exact kept.1

theorem isBreak_of_visible {c : Char} (visible : guavaWhitespace c = false) :
    isBreak c = false := by
  by_contra brk
  rw [Bool.not_eq_false, isBreak, Bool.or_eq_true, beq_iff_eq, beq_iff_eq] at brk
  rcases brk with rfl | rfl <;> exact absurd visible (by decide)

/-- Breaks are white space, so a trimmed text ends in no break. -/
theorem closed_of_trim {s : String} (trimmed : trim s = s) (nonempty : s.toList ≠ []) :
    Closed s.toList := by
  refine ⟨s.toList.getLast nonempty, List.getLast?_eq_some_getLast nonempty, ?_⟩
  have chars : (s.toList.dropWhile guavaWhitespace).rdropWhile guavaWhitespace = s.toList := by
    rw [← trim_toList, trimmed]
  have visible := List.rdropWhile_last_not guavaWhitespace (s.toList.dropWhile guavaWhitespace)
    (by rw [chars]; exact nonempty)
  simp only [chars, Bool.not_eq_true] at visible
  exact isBreak_of_visible visible

/-! ### The last line -/

/-- The last line of a text, which has one if it is not empty. -/
def lastLine (text : List Char) : Option (List Char) := (linesFrom [] false text).getLast?

/-- What stands behind a line feed begins a line. -/
theorem linesFrom_feed (text rest line : List Char) (prevCharCR : Bool)
    (fresh : prevCharCR = false ∨ line = []) :
    ∃ front, linesFrom line prevCharCR (text ++ '\n' :: rest) =
      front ++ linesFrom [] false rest := by
  induction text generalizing line prevCharCR with
  | nil =>
    rw [List.nil_append, linesFrom, if_pos rfl]
    split
    · rename_i behind
      rw [fresh.resolve_left (by simp [behind])]
      exact ⟨[], rfl⟩
    · exact ⟨[line], rfl⟩
  | cons c text ih =>
    rw [List.cons_append, linesFrom]
    split
    · split
      · exact ih line false (.inl rfl)
      · obtain ⟨front, whole⟩ := ih [] false (.inl rfl)
        exact ⟨line :: front, by rw [whole, List.cons_append]⟩
    · split
      · obtain ⟨front, whole⟩ := ih [] true (.inr rfl)
        exact ⟨line :: front, by rw [whole, List.cons_append]⟩
      · exact ih (line ++ [c]) false (.inl rfl)

theorem lastLine_line (text : List Char) {line : List Char}
    (free : ∀ c ∈ line, isBreak c = false) (nonempty : line ≠ []) :
    lastLine (text ++ '\n' :: line) = some line := by
  obtain ⟨front, whole⟩ := linesFrom_feed text line [] false (.inl rfl)
  rw [lastLine, whole, linesFrom_of_breakFree free nonempty, List.nil_append,
    List.getLast?_append, List.getLast?_singleton]
  rfl

theorem breakFree_of_mem_linesFrom {text line : List Char} {prevCharCR : Bool}
    (free : ∀ c ∈ line, isBreak c = false) {found : List Char}
    (member : found ∈ linesFrom line prevCharCR text) : ∀ c ∈ found, isBreak c = false := by
  have nothing : ∀ c ∈ ([] : List Char), isBreak c = false := fun c inside => by cases inside
  induction text generalizing line prevCharCR with
  | nil =>
    rw [linesFrom] at member
    split at member
    · cases member
    · rw [List.mem_singleton.mp member]
      exact free
  | cons c text ih =>
    rw [linesFrom] at member
    split at member
    · split at member
      · exact ih free member
      · rcases List.mem_cons.mp member with rfl | behind
        · exact free
        · exact ih nothing behind
    · split at member
      · rcases List.mem_cons.mp member with rfl | behind
        · exact free
        · exact ih nothing behind
      · rename_i noFeed noReturn
        refine ih (fun d inside => ?_) member
        rcases List.mem_append.mp inside with before | last
        · exact free d before
        · simp [List.mem_singleton.mp last, isBreak, noFeed, noReturn]

/-- A line feed alone leaves the last line, or makes an empty one. -/
theorem lastLine_feed (text line : List Char) (prevCharCR : Bool)
    (fresh : prevCharCR = false ∨ line = []) :
    (linesFrom line prevCharCR (text ++ ['\n'])).getLast? =
        (linesFrom line prevCharCR text).getLast? ∨
      (linesFrom line prevCharCR (text ++ ['\n'])).getLast? = some [] := by
  induction text generalizing line prevCharCR with
  | nil =>
    rw [List.nil_append]
    cases prevCharCR with
    | true => exact .inl rfl
    | false =>
      by_cases empty : line = []
      · exact .inr (congrArg some empty)
      · left
        rw [linesFrom, linesFrom, if_pos rfl, if_neg empty]
        rfl
  | cons c text ih =>
    have behind : ∀ cr, (line :: linesFrom [] cr (text ++ ['\n'])).getLast? =
          (line :: linesFrom [] cr text).getLast? ∨
        (line :: linesFrom [] cr (text ++ ['\n'])).getLast? = some [] := by
      intro cr
      rw [List.getLast?_cons, List.getLast?_cons]
      rcases ih [] cr (.inr rfl) with same | empty
      · exact .inl (by rw [same])
      · exact .inr (by rw [empty]; rfl)
    rw [List.cons_append, linesFrom, linesFrom]
    split
    · split
      · exact ih line false (.inl rfl)
      · exact behind false
    · split
      · exact behind true
      · exact ih (line ++ [c]) false (.inl rfl)

/-- A part of a line behind a text: the last line is that of the text, or a part of the
line. -/
theorem lastLine_part (text : List Char) {line part : List Char}
    (free : ∀ c ∈ line, isBreak c = false) (cut : part <+: '\n' :: line) :
    lastLine (text ++ part) = lastLine text ∨
      ∃ tail, tail <+: line ∧ lastLine (text ++ part) = some tail := by
  rcases List.prefix_cons_iff.mp cut with rfl | ⟨tail, rfl, within⟩
  · rw [List.append_nil]
    exact .inl rfl
  · by_cases empty : tail = []
    · subst empty
      refine (lastLine_feed text [] false (.inl rfl)).imp_right fun fed => ?_
      exact ⟨[], List.nil_prefix, fed⟩
    · have free' : ∀ c ∈ tail, isBreak c = false := fun c member =>
        free c (within.subset member)
      exact .inr ⟨tail, within, lastLine_line text free' empty⟩

end GitvTime.Source.TextFiles
