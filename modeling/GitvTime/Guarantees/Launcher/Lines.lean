import GitvTime.Source.Launcher.Bolts

/-!
# Round trips of the launcher's lines

A line of a bean with separator-free, trimmed columns reads back as the bean. The
lines with an expanded APK have one column more than `string4ConApkToBeanInit`
asks for, so none of them is read.
-/
namespace GitvTime.Guarantees.Launcher
open GitvTime.Source.StringHandle GitvTime.Source.Launcher

/-! ### Columns of a line -/

/-- A field that survives a line: not null, separator-free, trimmed. -/
structure Column (field : Option String) : Prop where
  present : field.isSome = true
  free : BarFree (print field)
  trimmed : trim (print field) = print field

theorem strSplit_appendColumns {fields : List (Option String)} (nonempty : fields ≠ []) :
    strSplit (appendColumns fields) = (fields.map print).flatMap strSplit := by
  induction fields with
  | nil => exact absurd rfl nonempty
  | cons field rest ih =>
    cases rest with
    | nil => simp [appendColumns]
    | cons next rest =>
      have joined : appendColumns (field :: next :: rest) =
        strJoin₂ (print field) (appendColumns (next :: rest)) := rfl
      rw [joined, strSplit_append, ih (by simp)]
      rfl

/-- A line has at least as many pieces as columns. -/
theorem pieces_ge (fields : List (Option String)) :
    fields.length ≤ ((fields.map print).flatMap strSplit).length := by
  induction fields with
  | nil => exact Nat.le_refl 0
  | cons field rest ih =>
    have one : 0 < (strSplit (print field)).length :=
      List.length_pos_iff.mpr (strSplit_ne_nil _)
    rw [List.map_cons, List.flatMap_cons, List.length_append, List.length_cons]
    omega

/-- A text that is itself a line adds all of its columns. -/
theorem pieces_nested (before after : List (Option String)) {fields : List (Option String)}
    (nonempty : fields ≠ []) :
    before.length + fields.length + after.length ≤
      (strSplitTrim (appendColumns (before ++ [some (appendColumns fields)] ++ after))).length := by
  have outer : strSplit (appendColumns (before ++ [some (appendColumns fields)] ++ after)) = _ :=
    strSplit_appendColumns (by simp)
  have nested : print (some (appendColumns fields)) = appendColumns fields := rfl
  have left := pieces_ge before
  have middle := pieces_ge fields
  have right := pieces_ge after
  rw [strSplitTrim, List.length_map, outer]
  simp only [List.map_append, List.map_cons, List.map_nil, List.flatMap_append, List.flatMap_cons,
    List.flatMap_nil, List.length_append, List.length_nil, nested,
    strSplit_appendColumns nonempty]
  omega

/-- The columns of a bean read back as its fields. -/
theorem columns_read {fields : List (Option String)} (nonempty : fields ≠ [])
    (columns : ∀ field ∈ fields, Column field) :
    (strSplitTrim (appendColumns fields)).map some = fields := by
  rw [strSplitTrim, strSplit_appendColumns nonempty]
  clear nonempty
  induction fields with
  | nil => rfl
  | cons field rest ih =>
    have column := columns field (by simp)
    obtain ⟨text, rfl⟩ := Option.isSome_iff_exists.mp column.present
    rw [List.map_cons, List.flatMap_cons, strSplit_of_barFree column.free, List.singleton_append,
      List.map_cons, List.map_cons, column.trimmed,
      ih fun field member => columns field (by simp [member])]
    rfl

/-! ### Plain lines -/

/-- What the decoder of a bean finds in its line: the right number of columns and
every field at its position. -/
theorem plain_line {fields : List (Option String)} (nonempty : fields ≠ [])
    (columns : ∀ field ∈ fields, Column field) :
    (strSplitTrim (appendColumns fields)).length = fields.length ∧
      ∀ index : Nat, (strSplitTrim (appendColumns fields))[index]? = (fields[index]?).join := by
  have same := columns_read nonempty columns
  have length := congrArg List.length same
  rw [List.length_map] at length
  refine ⟨length, fun index => ?_⟩
  have at_index := congrArg (fun l => (l[index]?).join) same
  rw [← at_index, List.getElem?_map]
  cases (strSplitTrim (appendColumns fields))[index]? <;> rfl

theorem logBean0_read (log : LogBean0) (columns : ∀ field ∈ log.columns, Column field) :
    LogBean0.stringToBeanInit {} log.toString = (true, log) := by
  obtain ⟨count, at_index⟩ : (strSplitTrim log.toString).length = 14 ∧
      ∀ index : Nat, (strSplitTrim log.toString)[index]? = (log.columns[index]?).join :=
    plain_line (by simp [LogBean0.columns]) columns
  simp only [LogBean0.stringToBeanInit, if_pos count]
  simp [LogBean0.init, at_index, LogBean0.columns, LogBean.first, LogBean.last]

theorem logBean1_read (log : LogBean1) (columns : ∀ field ∈ log.columns, Column field) :
    LogBean1.stringToBeanInit {} log.toString = (true, log) := by
  obtain ⟨count, at_index⟩ : (strSplitTrim log.toString).length = 14 ∧
      ∀ index : Nat, (strSplitTrim log.toString)[index]? = (log.columns[index]?).join :=
    plain_line (by simp [LogBean1.columns]) columns
  simp only [LogBean1.stringToBeanInit, if_pos count]
  simp [LogBean1.init, at_index, LogBean1.columns, LogBean.first, LogBean.last]

theorem logBean2_read (log : LogBean2)
    (columns : ∀ field ∈ log.columnsWith log.apk, Column field) :
    LogBean2.stringToBeanInit {} log.toString = (true, log) := by
  obtain ⟨count, at_index⟩ : (strSplitTrim log.toString).length = 20 ∧
      ∀ index : Nat, (strSplitTrim log.toString)[index]? =
        ((log.columnsWith log.apk)[index]?).join :=
    plain_line (by simp [LogBean2.columnsWith]) columns
  simp only [LogBean2.stringToBeanInit, if_pos count]
  simp [LogBean2.init, at_index, LogBean2.columnsWith, LogBean.first, LogBean2.afterApk,
    LogBean.last]

theorem logBean3_read (log : LogBean3)
    (columns : ∀ field ∈ log.columnsWith log.apk, Column field) :
    LogBean3.stringToBeanInit {} log.toString = (true, log) := by
  obtain ⟨count, at_index⟩ : (strSplitTrim log.toString).length = 16 ∧
      ∀ index : Nat, (strSplitTrim log.toString)[index]? =
        ((log.columnsWith log.apk)[index]?).join :=
    plain_line (by simp [LogBean3.columnsWith]) columns
  simp only [LogBean3.stringToBeanInit, if_pos count]
  simp [LogBean3.init, at_index, LogBean3.columnsWith, LogBean.first, LogBean3.afterApk,
    LogBean.last]

theorem logBean4_read (log : LogBean4) (columns : ∀ field ∈ log.columns, Column field) :
    LogBean4.stringToBeanInit {} log.toString = (true, log) := by
  obtain ⟨count, at_index⟩ : (strSplitTrim log.toString).length = 15 ∧
      ∀ index : Nat, (strSplitTrim log.toString)[index]? = (log.columns[index]?).join :=
    plain_line (by simp [LogBean4.columns]) columns
  simp only [LogBean4.stringToBeanInit, if_pos count]
  simp [LogBean4.init, at_index, LogBean4.columns, LogBean.first, LogBean.last]

/-! ### Accepted lines -/

/-- The line with each of its columns trimmed. -/
def trimmedLine (content : String) : String := strJoin (strSplitTrim content)

theorem appendColumns_some {texts : List String} (nonempty : texts ≠ []) :
    appendColumns (texts.map some) = strJoin texts := by
  rw [← String.toList_inj, strJoin_toList texts nonempty]
  clear nonempty
  induction texts with
  | nil => rfl
  | cons text rest ih =>
    cases rest with
    | nil => simp [appendColumns, print]
    | cons next rest =>
      have joined : appendColumns ((text :: next :: rest).map some) =
        strJoin₂ text (appendColumns ((next :: rest).map some)) := rfl
      rw [joined, strJoin₂, String.toList_append, String.toList_append, ih]
      simp [List.intercalate]

/-- Reading as many positions as there are pieces reads all of them. -/
theorem read_positions (pieces : List String) :
    ((List.range pieces.length).map fun index => pieces[index]?) = pieces.map some := by
  refine List.ext_getElem (by simp) fun index bound _ => ?_
  rw [List.length_map, List.length_range] at bound
  simp [bound]

/-- An accepted line is printed back trimmed by a bean whose columns are the
pieces by position. -/
theorem accepted_line {Bean : Type} {init : List String → Bean} {count : Nat}
    (columns : Bean → List (Option String))
    (by_position : ∀ pieces : List String,
      columns (init pieces) = (List.range count).map fun index => pieces[index]?)
    {start restored : Bean} {content : String}
    (accepted : (if (strSplitTrim content).length = count then (true, init (strSplitTrim content))
      else (false, start)) = (true, restored)) :
    appendColumns (columns restored) = trimmedLine content := by
  split at accepted
  · rename_i length
    cases accepted
    have nonempty : strSplitTrim content ≠ [] := by simp [strSplitTrim, strSplit_ne_nil]
    rw [by_position, ← length, read_positions, appendColumns_some nonempty]
    rfl
  · cases accepted

/-- Both directions for one kind of bean: a bean of surviving fields is restored
from its line, and an accepted line is printed back with its columns trimmed. -/
structure PlainRoundTrip {Bean : Type} (fresh : Bean) (columns : Bean → List (Option String))
    (toString : Bean → String) (stringToBeanInit : Bean → String → Bool × Bean) : Prop where
  restores : ∀ log, (∀ field ∈ columns log, Column field) →
    stringToBeanInit fresh (toString log) = (true, log)
  reprints : ∀ start content restored, stringToBeanInit start content = (true, restored) →
    toString restored = trimmedLine content

/-- The plain lines of all five actions round trip in both directions. -/
theorem plain_lines_round_trip :
    PlainRoundTrip {} LogBean0.columns LogBean0.toString LogBean0.stringToBeanInit ∧
    PlainRoundTrip {} LogBean1.columns LogBean1.toString LogBean1.stringToBeanInit ∧
    PlainRoundTrip {} (fun log : LogBean2 => log.columnsWith log.apk) LogBean2.toString
      LogBean2.stringToBeanInit ∧
    PlainRoundTrip {} (fun log : LogBean3 => log.columnsWith log.apk) LogBean3.toString
      LogBean3.stringToBeanInit ∧
    PlainRoundTrip {} LogBean4.columns LogBean4.toString LogBean4.stringToBeanInit :=
  ⟨⟨logBean0_read, fun _ _ _ => accepted_line LogBean0.columns fun _ => rfl⟩,
    ⟨logBean1_read, fun _ _ _ => accepted_line LogBean1.columns fun _ => rfl⟩,
    ⟨logBean2_read, fun _ _ _ => accepted_line (fun log : LogBean2 => log.columnsWith log.apk)
      fun _ => rfl⟩,
    ⟨logBean3_read, fun _ _ _ => accepted_line (fun log : LogBean3 => log.columnsWith log.apk)
      fun _ => rfl⟩,
    ⟨logBean4_read, fun _ _ _ => accepted_line LogBean4.columns fun _ => rfl⟩⟩

/-- A bean of action 102 as the bolt decodes it. -/
def sampleLog : LogBean2 :=
  { action := some "102", p := some "ZJYD", mc := some "00:24:68:c9:69:17", v := some "0.0.2",
    uid := some "u1", stbid := some "s1", ts := some "20150101080045", os := some "4.4.2",
    hm := some "Q5", ug := some "g1", ip := some "10.0.0.1",
    timestamp := some "2015-01-01 08:00:45", recordDay := some "2015-01-01", apk := some "json",
    sid := some "188", ar := some "2", x := some "0", y := some "0", tnum := some "1",
    ctp := some "1" }

theorem sampleLog_columns : ∀ field ∈ sampleLog.columnsWith sampleLog.apk, Column field := by
  have all : ∀ field ∈ sampleLog.columnsWith sampleLog.apk, field.isSome = true ∧
    BarFree (print field) ∧ trim (print field) = print field := by decide
  intro field member
  obtain ⟨present, free, trimmed⟩ := all field member
  exact ⟨present, free, trimmed⟩

theorem sampleLog_restored :
    LogBean2.stringToBeanInit {} sampleLog.toString = (true, sampleLog) :=
  plain_lines_round_trip.2.2.1.restores sampleLog sampleLog_columns

/-! ### Lines with an expanded APK -/

/-- The line has 38 columns or more, whatever is in the fields. -/
theorem expanded2_unread (fresh log : LogBean2) (apk : ApkBean) :
    fresh.string4ConApkToBeanInit (log.toStringApk apk.toString) = (false, fresh) := by
  have pieces : 38 ≤ (strSplitTrim (log.toStringApk apk.toString)).length :=
    pieces_nested log.first log.afterApk (by simp [ApkBean.columns] : apk.columns ≠ [])
  simp only [LogBean2.string4ConApkToBeanInit]
  rw [if_neg]
  omega

/-- The line has 34 columns or more, whatever is in the fields. -/
theorem expanded3_unread (fresh log : LogBean3) (apk : ApkBean) :
    fresh.string4ConApkToBeanInit (log.toStringApk apk.toString) = (false, fresh) := by
  have pieces : 34 ≤ (strSplitTrim (log.toStringApk apk.toString)).length :=
    pieces_nested log.first log.afterApk (by simp [ApkBean.columns] : apk.columns ≠ [])
  simp only [LogBean3.string4ConApkToBeanInit]
  rw [if_neg]
  omega

variable (parseTimestamp : String → Option Int)

theorem execute_102 (line : String) :
    PartitionBolt.execute parseTimestamp "launcher-log-102" line =
      PartitionBolt.partition parseTimestamp "102" line
        ((LogBean2.string4ConApkToBeanInit {} line).1,
          (LogBean2.string4ConApkToBeanInit {} line).2.toLogBean) := rfl

theorem execute_103 (line : String) :
    PartitionBolt.execute parseTimestamp "launcher-log-103" line =
      PartitionBolt.partition parseTimestamp "103" line
        ((LogBean3.string4ConApkToBeanInit {} line).1,
          (LogBean3.string4ConApkToBeanInit {} line).2.toLogBean) := rfl

/-- `PartitionBolt` drops every line with an expanded APK. -/
theorem expanded2_dropped (log : LogBean2) (apk : ApkBean) :
    PartitionBolt.execute parseTimestamp "launcher-log-102" (log.toStringApk apk.toString) =
      .acked := by
  rw [execute_102, expanded2_unread]
  rfl

theorem expanded3_dropped (log : LogBean3) (apk : ApkBean) :
    PartitionBolt.execute parseTimestamp "launcher-log-103" (log.toStringApk apk.toString) =
      .acked := by
  rw [execute_103, expanded3_unread]
  rfl

theorem expand_emits {jsonToBean : String → Option ApkBean} {action newContent : String}
    {decoded : Bool × LogBean} {json : Option String} {toStringApk : String → String}
    (emitted : FilterDataBolt.expand jsonToBean action decoded json toStringApk =
      .emitted (action, newContent)) : ∃ apk : ApkBean, newContent = toStringApk apk.toString := by
  unfold FilterDataBolt.expand at emitted
  split at emitted
  · split at emitted
    · split at emitted
      · rename_i apk _
        cases emitted
        exact ⟨apk, rfl⟩
      · cases emitted
    · cases emitted
    · cases emitted
  · cases emitted

/-- Nothing that `FilterData_Bolt` emits for actions 102 and 103 gets through
`PartitionBolt`. -/
theorem filtered_line_dropped (jsonToBean : String → Option ApkBean)
    {action content newContent : String} (expanded : action = "102" ∨ action = "103")
    (emitted : FilterDataBolt.execute jsonToBean action content = .emitted (action, newContent)) :
    PartitionBolt.execute parseTimestamp ("launcher-log-" ++ action) newContent = .acked := by
  rcases expanded with rfl | rfl
  · rw [FilterDataBolt.execute_102] at emitted
    obtain ⟨apk, rfl⟩ := expand_emits emitted
    exact expanded2_dropped parseTimestamp _ apk
  · rw [FilterDataBolt.execute_103] at emitted
    obtain ⟨apk, rfl⟩ := expand_emits emitted
    exact expanded3_dropped parseTimestamp _ apk

/-! ### The expanded lines do not round trip -/

/-- `PartitionBolt` passes the line on. -/
def Accepted (topic line : String) : Prop :=
  ∃ values, PartitionBolt.execute parseTimestamp topic line = .emitted values

/-- The line of a bean and its parsed APK reads back as the bean, up to the APK,
and is accepted. -/
def RoundTrips2 (log : LogBean2) (apk : ApkBean) : Prop :=
  (∃ restored, LogBean2.string4ConApkToBeanInit {} (log.toStringApk apk.toString) =
      (true, restored) ∧ { restored with apk := log.apk } = log) ∧
    Accepted parseTimestamp "launcher-log-102" (log.toStringApk apk.toString)

def RoundTrips3 (log : LogBean3) (apk : ApkBean) : Prop :=
  (∃ restored, LogBean3.string4ConApkToBeanInit {} (log.toStringApk apk.toString) =
      (true, restored) ∧ { restored with apk := log.apk } = log) ∧
    Accepted parseTimestamp "launcher-log-103" (log.toStringApk apk.toString)

/-- No bean of either action and no APK round trips: the decoder returns false and
nothing is accepted. -/
theorem expanded_never_round_trips (log2 : LogBean2) (log3 : LogBean3) (apk : ApkBean) :
    ¬ RoundTrips2 parseTimestamp log2 apk ∧ ¬ RoundTrips3 parseTimestamp log3 apk ∧
      (LogBean2.string4ConApkToBeanInit {} (log2.toStringApk apk.toString)).1 = false ∧
      (LogBean3.string4ConApkToBeanInit {} (log3.toStringApk apk.toString)).1 = false ∧
      ¬ Accepted parseTimestamp "launcher-log-102" (log2.toStringApk apk.toString) ∧
        ¬ Accepted parseTimestamp "launcher-log-103" (log3.toStringApk apk.toString) := by
  have dropped2 : ¬ Accepted parseTimestamp "launcher-log-102" (log2.toStringApk apk.toString) := by
    rintro ⟨values, accepted⟩
    rw [expanded2_dropped] at accepted
    cases accepted
  have dropped3 : ¬ Accepted parseTimestamp "launcher-log-103" (log3.toStringApk apk.toString) := by
    rintro ⟨values, accepted⟩
    rw [expanded3_dropped] at accepted
    cases accepted
  have unread2 := congrArg Prod.fst (expanded2_unread {} log2 apk)
  have unread3 := congrArg Prod.fst (expanded3_unread {} log3 apk)
  exact ⟨fun trips => dropped2 trips.2, fun trips => dropped3 trips.2, unread2, unread3, dropped2,
    dropped3⟩

theorem sample_not_round_trips :
    ¬ ∀ (parseTimestamp : String → Option Int) (log : LogBean2) (apk : ApkBean),
      (∀ field ∈ log.columnsWith log.apk, Column field) →
        (∀ field ∈ apk.columns, BarFree (print field)) → RoundTrips2 parseTimestamp log apk := by
  intro round_trips
  obtain ⟨⟨restored, read, _⟩, _⟩ := round_trips (fun _ => some 1420070445000) sampleLog
    { cls := some "VodActivity" } sampleLog_columns (by decide)
  rw [expanded2_unread] at read
  cases read

end GitvTime.Guarantees.Launcher
