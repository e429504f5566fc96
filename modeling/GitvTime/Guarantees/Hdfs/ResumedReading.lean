import GitvTime.Source.Hdfs.TextFileReader

/-!
# Reading on from an offset

An offset says how many units were read and how many line feeds there were among them.
A reader that starts at the offset of another one, which the lock file keeps as a text,
is that reader.
-/
namespace GitvTime.Guarantees.Hdfs.ResumedReading
open GitvTime.Source.Hdfs.TextFileReader GitvTime.Source.Numbers GitvTime.Source.SplitText

/-- The offset lies in the text and counts its line feeds. -/
def Positioned (text : List UInt16) (offset : Offset) : Prop :=
  ∃ done ahead, text = done ++ ahead ∧ offset.charOffset = done.length ∧
    offset.lineNumber = done.count lineFeed

/-- The reader is where its offset says. -/
def At (text : List UInt16) (reader : Reader) : Prop :=
  ∃ done, text = done ++ reader.ahead ∧ reader.offset.charOffset = done.length ∧
    reader.offset.lineNumber = done.count lineFeed

variable {text : List UInt16} {reader : Reader} {offset : Offset}

theorem create_ahead (done ahead : List UInt16) (chars : offset.charOffset = done.length) :
    Reader.create (done ++ ahead) offset = ⟨ahead, offset⟩ := by
  simp only [Reader.create, chars]
  split
  case isTrue => rw [Int.toNat_natCast, List.drop_left]
  case isFalse start =>
    have nothing : done = [] := List.eq_nil_of_length_eq_zero (by omega)
    rw [nothing, List.nil_append]

theorem at_create (positioned : Positioned text offset) : At text (Reader.create text offset) := by
  obtain ⟨done, ahead, rfl, chars, lines⟩ := positioned
  rw [create_ahead done ahead chars]
  exact ⟨done, rfl, chars, lines⟩

theorem At.eq_create (at_text : At text reader) : Reader.create text reader.offset = reader := by
  obtain ⟨done, whole, chars, _⟩ := at_text
  rw [whole, create_ahead done reader.ahead chars]

theorem At.positioned (at_text : At text reader) : Positioned text reader.offset := by
  obtain ⟨done, whole, chars, lines⟩ := at_text
  exact ⟨done, reader.ahead, whole, chars, lines⟩

theorem positioned_start (text : List UInt16) : Positioned text ⟨0, 0⟩ :=
  ⟨[], text, rfl, rfl, rfl⟩

/-- What a read consumes: a part of what is ahead up to its first line feed, or all of it. -/
structure Consumes (ahead : List UInt16) (offset : Offset) (after : Reader)
    (consumed : List UInt16) : Prop where
  split : ahead = consumed ++ after.ahead
  chars : after.offset.charOffset = offset.charOffset + consumed.length
  lines : after.offset.lineNumber = offset.lineNumber + consumed.count lineFeed
  ends : after.ahead = [] ∧ consumed.count lineFeed = 0 ∨
    ∃ line, consumed = line ++ [lineFeed] ∧ line.count lineFeed = 0

theorem Consumes.cons {ch : UInt16} {rest consumed : List UInt16} {after : Reader}
    (other : ch ≠ lineFeed)
    (consumes : Consumes rest ⟨offset.charOffset + 1, offset.lineNumber⟩ after consumed) :
    Consumes (ch :: rest) offset after (ch :: consumed) := by
  obtain ⟨split, chars, lines, ends⟩ := consumes
  refine ⟨by rw [List.cons_append, ← split], ?_, ?_, ?_⟩
  · rw [chars, List.length_cons]
    dsimp only
    omega
  · rw [lines, List.count_cons_of_ne other]
  · rw [List.count_cons_of_ne other]
    refine ends.imp_right fun ⟨line, whole, feeds⟩ => ⟨ch :: line, by rw [whole]; rfl, ?_⟩
    rw [List.count_cons_of_ne other, feeds]

theorem readLoop_consumes (sb : List UInt16) (offset : Offset) (ahead : List UInt16) :
    ∃ consumed, Consumes ahead offset (Reader.readLoop sb offset ahead).2 consumed := by
  induction ahead generalizing sb offset with
  | nil => exact ⟨[], rfl, (Int.add_zero _).symm, (Int.add_zero _).symm, .inl ⟨rfl, rfl⟩⟩
  | cons ch rest ih =>
    rw [Reader.readLoop]
    split
    case isTrue feed =>
      subst feed
      exact ⟨[lineFeed], rfl, rfl, rfl, .inr ⟨[], rfl, rfl⟩⟩
    case isFalse other =>
      split
      all_goals
        obtain ⟨consumed, consumes⟩ := ih _ ⟨offset.charOffset + 1, offset.lineNumber⟩
        exact ⟨ch :: consumed, consumes.cons other⟩

theorem next_consumes (reader : Reader) :
    ∃ consumed, Consumes reader.ahead reader.offset reader.next.2 consumed ∧
      (reader.next.1 = none ↔ consumed = []) := by
  obtain ⟨consumed, consumes⟩ := readLoop_consumes [] reader.offset reader.ahead
  refine ⟨consumed, consumes, ?_⟩
  have chars := consumes.chars
  simp only [Reader.next]
  split
  case isTrue same =>
    have none_read : consumed.length = 0 := by omega
    simp [List.eq_nil_of_length_eq_zero none_read]
  case isFalse more =>
    refine ⟨nofun, fun nothing => absurd ?_ more⟩
    rw [chars, nothing]
    exact (Int.add_zero _).symm

/-- A read keeps the reader where its offset says. -/
theorem At.next (at_text : At text reader) : At text reader.next.2 := by
  obtain ⟨consumed, ⟨split, chars, lines, _⟩, _⟩ := next_consumes reader
  obtain ⟨done, whole, chars_done, lines_done⟩ := at_text
  refine ⟨done ++ consumed, ?_, ?_, ?_⟩
  · rw [List.append_assoc, ← split, whole]
  · rw [chars, chars_done, List.length_append]
    rfl
  · rw [lines, lines_done, List.count_append]
    rfl

/-- The reader behind `n` reads. -/
def readerAt (text : List UInt16) (start : Offset) : Nat → Reader
  | 0 => Reader.create text start
  | n + 1 => (readerAt text start n).next.2

theorem at_readerAt (positioned : Positioned text offset) (n : Nat) :
    At text (readerAt text offset n) := by
  induction n with
  | zero => exact at_create positioned
  | succ n ih => exact ih.next

/-! ### The text of an offset -/

theorem ne_of_mem_toString {x : Int} {c sep : Char} (member : c ∈ (toString x).toList)
    (plain : ¬ sep.isDigit) (no_sign : sep ≠ '-') : c ≠ sep := by
  rintro rfl
  exact (mem_toString member).elim plain no_sign

/-- The parts of an offset's text. -/
theorem toList_toString (offset : Offset) :
    offset.toString.toList = ("\x7bchar=".toList ++ (toString offset.charOffset).toList) ++ ':' ::
      (("line=".toList ++ (toString offset.lineNumber).toList) ++ ':' :: ['\x7d']) := by
  simp [Offset.toString, String.toList_append]

theorem splitOn_toString (offset : Offset) :
    offset.toString.toList.splitOn ':' =
      ["\x7bchar=".toList ++ (toString offset.charOffset).toList,
        "line=".toList ++ (toString offset.lineNumber).toList, ['\x7d']] := by
  have plain : ∀ x : Int, ':' ∉ (toString x).toList := fun x member =>
    ne_of_mem_toString member (by decide) (by decide) rfl
  rw [toList_toString, List.splitOn_append_cons_self_of_not_mem,
    List.splitOn_append_cons_self_of_not_mem, List.splitOn_eq_singleton (by decide)]
  · simpa using plain offset.lineNumber
  · simpa using plain offset.charOffset

/-- The number of a part is what was printed into it. -/
theorem split_part {name : List Char} (free : '=' ∉ name) (x : Int) :
    split '=' (String.ofList (name ++ '=' :: (toString x).toList)) =
      [String.ofList name, toString x] := by
  have plain : '=' ∉ (toString x).toList := fun member =>
    ne_of_mem_toString member (by decide) (by decide) rfl
  have pieces : (String.ofList (name ++ '=' :: (toString x).toList)).toList.splitOn '=' =
      [name, (toString x).toList] := by
    rw [String.toList_ofList, List.splitOn_append_cons_self_of_not_mem free,
      List.splitOn_eq_singleton plain]
  rw [split_eq_splitOn, pieces]
  · simp
  · rw [pieces]
    rintro _ ⟨⟩
    exact toString_ne_empty x

theorem parse_toString (digits : CharacterDigit) (offset : Offset)
    (chars : longMin ≤ offset.charOffset ∧ offset.charOffset ≤ longMax)
    (lines : longMin ≤ offset.lineNumber ∧ offset.lineNumber ≤ longMax) :
    Offset.parse digits offset.toString = some offset := by
  have not_zero : offset.toString ≠ "0" := by
    intro zero
    have first := congrArg (fun text => text.toList.head?) zero
    rw [toList_toString] at first
    simp at first
  have pieces : split ':' offset.toString =
      [String.ofList ("\x7bchar".toList ++ '=' :: (toString offset.charOffset).toList),
        String.ofList ("line".toList ++ '=' :: (toString offset.lineNumber).toList), "\x7d"] := by
    rw [split_eq_splitOn, splitOn_toString]
    · simp
    · rw [splitOn_toString]
      rintro _ ⟨⟩
      exact List.cons_ne_nil _ _
  have first : Offset.number digits (split ':' offset.toString) 0 = some offset.charOffset := by
    rw [pieces]
    simp only [Offset.number, List.getElem?_cons_zero, Option.bind_eq_bind, Option.bind_some]
    rw [split_part (by decide)]
    exact parseLong_toString digits chars.1 chars.2
  have second : Offset.number digits (split ':' offset.toString) 1 = some offset.lineNumber := by
    rw [pieces]
    simp only [Offset.number, List.getElem?_cons_succ, List.getElem?_cons_zero,
      Option.bind_eq_bind, Option.bind_some]
    rw [split_part (by decide)]
    exact parseLong_toString digits lines.1 lines.2
  rw [Offset.parse, if_neg not_zero]
  simp only [first, second, Option.bind_eq_bind, Option.bind_some]

theorem Positioned.range (positioned : Positioned text offset) (short : text.length ≤ longMax) :
    (longMin ≤ offset.charOffset ∧ offset.charOffset ≤ longMax) ∧
      (longMin ≤ offset.lineNumber ∧ offset.lineNumber ≤ longMax) := by
  obtain ⟨done, ahead, rfl, chars, lines⟩ := positioned
  have feeds : done.count lineFeed ≤ done.length := List.count_le_length
  rw [List.length_append] at short
  have low : longMin ≤ 0 := by decide
  omega

/-- A reader that starts from the committed text of an offset reads on where the reader
behind `n` reads was. -/
theorem resumed_reader (digits : CharacterDigit) (text : List UInt16) (n : Nat)
    (short : text.length ≤ longMax) :
    (Offset.parse digits (readerAt text ⟨0, 0⟩ n).offset.toString).map (Reader.create text) =
      some (readerAt text ⟨0, 0⟩ n) := by
  have at_text := at_readerAt (positioned_start text) n
  obtain ⟨chars, lines⟩ := at_text.positioned.range short
  rw [parse_toString digits _ chars lines, Option.map_some, at_text.eq_create]

/-- Two of three records were read. -/
theorem resumed_reader_two :
    (Offset.parse asciiDigit (readerAt [97, 13, 10, 10, 98] ⟨0, 0⟩ 2).offset.toString).map
        (Reader.create [97, 13, 10, 10, 98]) =
      some (readerAt [97, 13, 10, 10, 98] ⟨0, 0⟩ 2) :=
  resumed_reader asciiDigit [97, 13, 10, 10, 98] 2 (by decide)

/-! ### Terminated texts -/

/-- Every record ends in a line feed. -/
def Terminated (text : List UInt16) : Prop := ∀ last ∈ text.getLast?, last = lineFeed

/-- In a terminated text every read of a record goes on by one line. -/
theorem At.next_line (at_text : At text reader) (terminated : Terminated text)
    (more : reader.ahead ≠ []) :
    reader.next.1.isSome = true ∧
      reader.next.2.offset.lineNumber = reader.offset.lineNumber + 1 ∧
      reader.offset.charOffset < reader.next.2.offset.charOffset := by
  obtain ⟨consumed, ⟨split, chars, lines, ends⟩, nothing⟩ := next_consumes reader
  obtain ⟨done, whole, _⟩ := at_text
  have ended : ∃ line, consumed = line ++ [lineFeed] ∧ line.count lineFeed = 0 := by
    refine ends.resolve_left fun ⟨empty, feeds⟩ => ?_
    rw [empty, List.append_nil] at split
    rw [split] at more whole
    have last := terminated (consumed.getLast more) (by
      rw [whole, List.getLast?_append_of_ne_nil _ more, List.getLast?_eq_some_getLast more]
      rfl)
    have member : lineFeed ∈ consumed := last ▸ List.getLast_mem more
    exact absurd feeds (Nat.ne_of_gt (List.count_pos_iff.mpr member))
  obtain ⟨line, rfl, feeds⟩ := ended
  refine ⟨?_, ?_, ?_⟩
  · rw [Option.isSome_iff_ne_none]
    exact fun none_read => absurd (nothing.mp none_read) (by simp)
  · rw [lines, List.count_append, feeds]
    rfl
  · rw [chars, List.length_append, List.length_singleton]
    omega

theorem next_of_ahead_nil (empty : reader.ahead = []) : reader.next = (none, reader) := by
  obtain ⟨ahead, offset⟩ := reader
  dsimp only at empty
  subst empty
  simp [Reader.next, Reader.readLoop]

theorem interrupted_of_ahead_nil (empty : reader.ahead = []) (units : Nat) :
    reader.interrupted units = reader := by
  obtain ⟨ahead, offset⟩ := reader
  dsimp only at empty
  subst empty
  simp [Reader.interrupted]

end GitvTime.Guarantees.Hdfs.ResumedReading
