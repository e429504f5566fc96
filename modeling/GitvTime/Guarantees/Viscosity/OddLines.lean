import GitvTime.Guarantees.Viscosity.AlbumRecords
import Mathlib.Algebra.Group.Action.Defs

/-!
# Odd lines in the second job

`Job1` gives a time length that is no number a default and hands its text on.
`Job2` parses the text that the last value of a group brings. What the first maps
write passes through the rest when that text is an int and no line is broken.
-/
namespace GitvTime.Guarantees.Viscosity.OddLines
open GitvTime.Support GitvTime.Source.StringHandle GitvTime.Source.Patterns
open GitvTime.Source.Numbers GitvTime.Source.TextFiles GitvTime.Source.Viscosity
open GitvTime.Source.Viscosity.Top100Jobs GitvTime.Support.MapReduce
open GitvTime.Guarantees.Viscosity.AlbumRecords

/-- The group's line can be read and, unless its partner is not legal any more,
processed. -/
structure Processable (digits : CharacterDigit) (group : String × List String) : Prop where
  key : BreakFree group.1
  time : BreakFree (lastTimeLength digits group)
  number : isLegal (strSplitTrim group.1).head? = true →
    (parseInt digits (lastTimeLength digits group)).isSome = true

variable {digits : CharacterDigit} {otherC : Char → Bool} {kind : Kind} {lines : List String}
  {tasks : List (List (String × List String))} {group : String × List String}

/-! ### Broken lines -/

theorem length_strSplitTrim (content : String) :
    (strSplitTrim content).length = content.toList.count '|' + 1 := by
  rw [strSplitTrim, List.length_map, strSplit, List.length_map]
  induction content.toList with
  | nil => simp
  | cons c rest ih =>
    rw [List.splitOn_cons_eq_if_modifyHead, List.count_cons]
    split
    · simp [ih]
    · simp [ih]

/-- `Job2` needs seven columns. -/
theorem job2Map_eq_none_iff (value : String) :
    job2Map value = none ↔ (strSplitTrim value).length < 7 := by
  unfold job2Map
  rcases strSplitTrim value with
    _ | ⟨a, _ | ⟨b, _ | ⟨c, _ | ⟨d, _ | ⟨e, _ | ⟨f, _ | ⟨g, rest⟩⟩⟩⟩⟩⟩⟩ <;> simp

theorem count_albumLine (sound : Sound digits group) :
    (albumLine digits group).toList.count '|' = 6 := by
  obtain ⟨key, keyed⟩ := sound.keyed
  have columns : strSplitTrim (albumLine digits group) = trim key.partnerCode :: [key.chn,
      key.albumName, key.albumId, toString ((totalPL digits group).bmod (2 ^ 64)),
      toString (setSize (macSet digits group)), lastTimeLength digits group] := by
    rw [albumLine_eq keyed, strSplitTrim_strJoin₂ keyed.partnerCode,
      strSplitTrim_strJoin (List.cons_ne_nil _ _) (plain_tail keyed sound.time)]
  have length := length_strSplitTrim (albumLine digits group)
  rw [columns] at length
  simpa using length.symm

/-- A broken line has a piece with too few columns. -/
theorem fragments_readable_iff (sound : Sound digits group) :
    (∀ value ∈ fragments digits group, job2Map value ≠ none) ↔
      BreakFree (albumLine digits group) := by
  constructor
  · intro readable
    by_contra broken
    simp only [BreakFree, not_forall] at broken
    obtain ⟨c, member, brk⟩ := broken
    have pieces := two_le_length_linesFrom (closed_albumLine sound)
      ⟨c, member, by simpa using brk⟩ []
    have bars := count_linesFrom (c := '|') (by decide) (albumLine digits group).toList [] false
    have enough : ∀ n ∈ (linesFrom [] false (albumLine digits group).toList).map
        (List.count '|'), 6 ≤ n := by
      intro n counted
      obtain ⟨piece, found, rfl⟩ := List.mem_map.mp counted
      have columns := readable _ (List.mem_map_of_mem found)
      rw [ne_eq, job2Map_eq_none_iff, length_strSplitTrim, String.toList_ofList] at columns
      omega
    have total := List.card_nsmul_le_sum _ 6 enough
    rw [bars, count_albumLine sound, List.length_map, List.count_nil, smul_eq_mul] at total
    omega
  · intro free value member
    rw [fragments_of_breakFree sound free, List.mem_singleton] at member
    obtain ⟨key, keyed⟩ := sound.keyed
    rw [member, job2Map_albumLine keyed sound.time]
    simp

/-! ### Records in the last reduce -/

/-- The records of unbroken lines, each under its channel, are all read. -/
theorem readAlbumRecord_iff (sound : Sound digits group) :
    (∀ record, job2Map (albumLine digits group) = some (some record) →
        readAlbumRecord digits record.2 ≠ none) ↔
      (isLegal (strSplitTrim group.1).head? = true →
        (parseInt digits (lastTimeLength digits group)).isSome = true) := by
  obtain ⟨key, keyed⟩ := sound.keyed
  have partner : (strSplitTrim group.1).head? = some (trim key.partnerCode) := by
    rw [keyed.merged, keyMerge_eq, strSplitTrim_strJoin₂ keyed.partnerCode, List.head?_cons]
  rw [job2Map_albumLine keyed sound.time, partner,
    ← readAlbumRecord_channelRecord keyed sound.time sound.macs]
  cases isLegal (some (trim key.partnerCode)) with
  | false => simp
  | true => simp [Option.isSome_iff_ne_none]

section
variable {hashPL hashZB : Nat → Int} {orderPL : Iteration (Ref Top100.AlbumPL)}
  {orderZB : Iteration (Ref Top100.AlbumZB)} {df : ℚ → String}
  {channels : List (String × List String)}

/-- The last reduce fails at a value that is not read. -/
theorem job2Reduces_iff {records : List (String × String)} (shuffled : Shuffle records channels) :
    channels.mapM (job2Reduce digits hashPL hashZB orderPL orderZB df) ≠ none ↔
      ∀ record ∈ records, readAlbumRecord digits record.2 ≠ none := by
  have reduced : ∀ channel : String × List String,
      job2Reduce digits hashPL hashZB orderPL orderZB df channel ≠ none ↔
        ∀ value ∈ channel.2, readAlbumRecord digits value ≠ none := by
    intro channel
    rw [job2Reduce, ne_eq, Option.map_eq_none_iff, ← ne_eq, mapM_ne_none_iff]
  rw [mapM_ne_none_iff]
  constructor
  · intro finished record member
    obtain ⟨channel, found, _, belongs⟩ := shuffled.mem_records.mp member
    exact (reduced channel).mp (finished channel found) _ belongs
  · intro read channel found
    refine (reduced channel).mpr fun value belongs => ?_
    exact read (channel.1, value) (shuffled.mem_records.mpr ⟨channel, found, rfl, belongs⟩)

theorem afterJob1Map_iff
    (shuffled : Shuffle (written (job1Map digits otherC kind) lines) tasks.flatten)
    (shuffled' : ∀ files records, job1Reduces digits tasks = some files →
      job2Maps files = some records → Shuffle records channels) :
    afterJob1Map digits hashPL hashZB orderPL orderZB df tasks channels ≠ none ↔
      ∀ group ∈ tasks.flatMap asRead, Processable digits group := by
  have reduced := job1Reduces_eq shuffled
  have sound : ∀ group ∈ tasks.flatMap asRead, Sound digits group := fun group member =>
    sound_of_mem_asRead shuffled member
  by_cases unbroken : ∀ group ∈ tasks.flatMap asRead, BreakFree (albumLine digits group)
  · have mapped := job2Maps_of_breakFree shuffled unbroken
    rw [afterJob1Map, reduced]
    simp only [Option.bind_eq_bind, Option.bind_some, mapped]
    rw [job2Reduces_iff (shuffled' _ _ reduced mapped)]
    constructor
    · intro read group member
      obtain ⟨key, time⟩ := breakFree_albumLine.mp (unbroken group member)
      refine ⟨key, time, (readAlbumRecord_iff (sound group member)).mp fun record written => ?_⟩
      exact read record (mem_written.mpr ⟨group, member, written⟩)
    · intro processable record member
      obtain ⟨group, found, written⟩ := mem_written.mp member
      exact (readAlbumRecord_iff (sound group found)).mpr (processable group found).number _ written
  · have failed : job2Maps (tasks.map fun groups => fileText (groups.map (albumLine digits))) =
        none := by
      simp only [not_forall] at unbroken
      obtain ⟨group, member, broken⟩ := unbroken
      rw [← fragments_readable_iff (sound group member)] at broken
      simp only [not_forall, not_not] at broken
      obtain ⟨value, piece, unread⟩ := broken
      rw [job2Maps, readLines_partFiles shuffled, stage_eq_none_iff]
      exact ⟨value, List.mem_flatMap.mpr ⟨group, member, piece⟩, unread⟩
    refine iff_of_false ?_ fun processable => unbroken fun group member => ?_
    · rw [afterJob1Map, reduced]
      simp [failed]
    · exact breakFree_albumLine.mpr
        ⟨(processable group member).key, (processable group member).time⟩

end

/-- What the first maps write passes through both reduces and the second map exactly
when each group is processable, and the jobs finish exactly when, besides, every
legal line parses in the first map. -/
theorem jobs_finish_iff (digits : CharacterDigit) (otherC : Char → Bool) (kind : Kind)
    (hashPL hashZB : Nat → Int) (orderPL : Iteration (Ref Top100.AlbumPL))
    (orderZB : Iteration (Ref Top100.AlbumZB)) (df : ℚ → String) (lines : List String)
    (tasks : List (List (String × List String))) (channels : List (String × List String))
    (shuffled : Shuffle (written (job1Map digits otherC kind) lines) tasks.flatten)
    (shuffled' : ∀ files records, job1Reduces digits tasks = some files →
      job2Maps files = some records → Shuffle records channels) :
    (afterJob1Map digits hashPL hashZB orderPL orderZB df tasks channels ≠ none ↔
      ∀ groups ∈ tasks, ∀ group ∈ asRead groups, Processable digits group) ∧
    (jobs digits hashPL hashZB orderPL orderZB df otherC kind lines tasks channels ≠ none ↔
      AllParse digits otherC kind lines ∧
        ∀ groups ∈ tasks, ∀ group ∈ asRead groups, Processable digits group) := by
  have after : afterJob1Map digits hashPL hashZB orderPL orderZB df tasks channels ≠ none ↔
      ∀ groups ∈ tasks, ∀ group ∈ asRead groups, Processable digits group := by
    rw [afterJob1Map_iff shuffled shuffled']
    simp only [List.mem_flatMap, forall_exists_index, and_imp]
    exact ⟨fun all groups file group member => all group groups file member,
      fun all group groups file member => all groups file group member⟩
  refine ⟨after, ?_⟩
  rw [allParse_iff, ← after, jobs]
  cases stage (job1Map digits otherC kind) lines with
  | none => simp
  | some records => simp

/-- The two albums of the evening go to one channel. -/
theorem evening_finishes :
    jobs asciiDigit (fun _ => 0) (fun _ => 0) .added .added (fun _ => "") (fun _ => false) .vod
      eveningLines eveningTasks
      [("AH_CMCC|CCTV-1", ["琅琊榜|1003|45|1|45", "新闻联播|1002|45|2|30"])] ≠ none := by
  have shuffled' : ∀ files records, job1Reduces asciiDigit eveningTasks = some files →
      job2Maps files = some records → Shuffle records
        [("AH_CMCC|CCTV-1", ["琅琊榜|1003|45|1|45", "新闻联播|1002|45|2|30"])] := by
    intro files records reduced mapped
    have delivered' : (job1Reduces asciiDigit eveningTasks).bind job2Maps =
        some [("AH_CMCC|CCTV-1", "琅琊榜|1003|45|1|45"),
          ("AH_CMCC|CCTV-1", "新闻联播|1002|45|2|30")] := by decide +kernel
    rw [reduced, Option.bind_some, mapped] at delivered'
    cases delivered'
    exact ⟨by decide, by decide, .refl _⟩
  have processable : ∀ groups ∈ eveningTasks, ∀ group ∈ asRead groups,
      Processable asciiDigit group := by
    have all : ∀ groups ∈ eveningTasks, ∀ group ∈ asRead groups, BreakFree group.1 ∧
        BreakFree (lastTimeLength asciiDigit group) ∧
          (parseInt asciiDigit (lastTimeLength asciiDigit group)).isSome = true := by
      decide +kernel
    intro groups file group member
    obtain ⟨key, time, number⟩ := all groups file group member
    exact ⟨key, time, fun _ => number⟩
  exact (jobs_finish_iff asciiDigit (fun _ => false) .vod (fun _ => 0) (fun _ => 0) .added .added
    (fun _ => "") eveningLines eveningTasks _ shuffle_evening shuffled').2.mpr
      ⟨allParse_evening, processable⟩

/-- `Job1` tolerates a time length that is no number; the last reduce does not. -/
theorem odd_time_length_fails :
    afterJob1Map asciiDigit (fun _ => 0) (fun _ => 0) .added .added (fun _ => "")
      [[newsGroup "abc" "1"]] [("AH_CMCC|CCTV-1", ["新闻联播|1002|1|1|abc"])] = none ∧
    ¬ ∀ (digits : CharacterDigit) (otherC : Char → Bool) (kind : Kind) (hashPL hashZB : Nat → Int)
      (orderPL : Iteration (Ref Top100.AlbumPL)) (orderZB : Iteration (Ref Top100.AlbumZB))
      (df : ℚ → String) (lines : List String) (tasks : List (List (String × List String)))
      (channels : List (String × List String)), (∀ line ∈ lines, '\n' ∉ line.toList) →
      Shuffle (written (job1Map digits otherC kind) lines) tasks.flatten →
      (∀ files records, job1Reduces digits tasks = some files →
        job2Maps files = some records → Shuffle records channels) →
      afterJob1Map digits hashPL hashZB orderPL orderZB df tasks channels ≠ none := by
  have failed : afterJob1Map asciiDigit (fun _ => 0) (fun _ => 0) .added .added (fun _ => "")
      [[newsGroup "abc" "1"]] [("AH_CMCC|CCTV-1", ["新闻联播|1002|1|1|abc"])] = none := by
    decide +kernel
  have shuffled : Shuffle (written (job1Map asciiDigit (fun _ => false) .vod)
      [newsLine "5" "abc"]) [[newsGroup "abc" "1"]].flatten := by
    have accept : accepted asciiDigit (fun _ => false) .vod (newsLine "5" "abc") =
        some (newsFields "5" "abc") := by
      rw [newsLine, accepted_play (by decide) (by decide), if_pos (by decide)]
    have records : written (job1Map asciiDigit (fun _ => false) .vod) [newsLine "5" "abc"] =
        [("AH_CMCC|CCTV-1|新闻联播|1002", "00:22:6d:00:01:f3|abc|1")] := by
      rw [written_job1Map, acceptedLines, List.filterMap_cons_some accept, List.filterMap_nil]
      decide
    rw [records]
    exact .single _ _
  have unbroken : ∀ line ∈ [newsLine "5" "abc"], '\n' ∉ line.toList := by
    intro line member feed
    rw [List.mem_singleton.mp member] at feed
    have free : BreakFree (newsLine "5" "abc") := breakFree_play (by decide)
    exact absurd (free _ feed) (by decide)
  refine ⟨failed, fun claim => claim asciiDigit (fun _ => false) .vod (fun _ => 0) (fun _ => 0)
    .added .added (fun _ => "") [newsLine "5" "abc"] [[newsGroup "abc" "1"]]
    [("AH_CMCC|CCTV-1", ["新闻联播|1002|1|1|abc"])] unbroken shuffled ?_ failed⟩
  intro files records reduced mapped
  have delivered' : (job1Reduces asciiDigit [[newsGroup "abc" "1"]]).bind job2Maps =
      some [("AH_CMCC|CCTV-1", "新闻联播|1002|1|1|abc")] := by decide +kernel
  rw [reduced, Option.bind_some, mapped] at delivered'
  cases delivered'
  exact .single _ _

end GitvTime.Guarantees.Viscosity.OddLines
