import GitvTime.Guarantees.Viscosity.AlbumRecords
import Mathlib.Data.Finset.Max

/-!
# The totals that the jobs deliver

For each album with an accepted line, one record should reach the group of its
partner and channel, with the seconds and the macs of all its accepted lines. It
does when no legal line fails to parse, the totals fit their types, and no part
file begins with a byte order mark.
-/
namespace GitvTime.Guarantees.Viscosity.AlbumTotals
open GitvTime.Source.StringHandle GitvTime.Source.Patterns GitvTime.Source.Numbers
open GitvTime.Source.TextFiles GitvTime.Source.Viscosity.Top100Jobs GitvTime.Support.MapReduce
open GitvTime.Guarantees.Viscosity.AlbumRecords

section
variable (digits : CharacterDigit) (otherC : Char → Bool) (kind : Kind) (lines : List String)

/-- The accepted lines of an album. -/
def linesOf (key : AlbumKey) : List LogFields :=
  (acceptedLines digits otherC kind lines).filter (·.key = key)

/-- The seconds of its lines, each cut at the length of the programme. -/
def totalPlayed (key : AlbumKey) : Int :=
  ((linesOf digits otherC kind lines key).map (played digits)).sum

def macNum (key : AlbumKey) : Nat :=
  ((linesOf digits otherC kind lines key).map LogFields.devMac).toFinset.card

/-- The record goes to the album's partner and channel and names it. -/
def about (key : AlbumKey) (record : String × String) : Bool :=
  record.1 == strJoin₂ key.partnerCode key.chn &&
    (strSplitTrim record.2).take 2 == [key.albumName, key.albumId]

/-- One exact record for each album that has a line, and none for others. -/
structure Exact (tasks : List (List (String × List String))) : Prop where
  once : ∀ f ∈ acceptedLines digits otherC kind lines,
    ∃ records, delivered digits otherC kind lines tasks = some records ∧
      ∃ timeLength, records.filter (about f.key) =
        [(strJoin₂ f.partnerCode f.chn, strJoin [f.albumName, f.albumId,
          toString (totalPlayed digits otherC kind lines f.key),
          toString (macNum digits otherC kind lines f.key : Int), timeLength])]
  only : ∀ records, delivered digits otherC kind lines tasks = some records →
    ∀ record ∈ records, ∃ f ∈ acceptedLines digits otherC kind lines, about f.key record

/-- The sum and the number of macs of an album fit a long and an int. -/
def Fits (key : AlbumKey) : Prop :=
  longMin ≤ totalPlayed digits otherC kind lines key ∧
    totalPlayed digits otherC kind lines key ≤ longMax ∧
    (macNum digits otherC kind lines key : Int) ≤ intMax

instance (key : AlbumKey) : Decidable (Fits digits otherC kind lines key) := by
  unfold Fits; infer_instance

end

/-- No part file begins with a byte order mark. -/
def NoMarks (tasks : List (List (String × List String))) : Prop :=
  ∀ groups ∈ tasks, ∀ group ∈ groups.head?, group.1.toList.head? ≠ some '\uFEFF'

variable {digits : CharacterDigit} {otherC : Char → Bool} {kind : Kind} {lines : List String}
  {tasks : List (List (String × List String))}

/-! ### The values of a group -/

def playValue (digits : CharacterDigit) (f : LogFields) : PlayValue :=
  ⟨f.devMac, f.timeLengthS, played digits f⟩

section
variable {groups : List (String × List String)} {group : String × List String} {f : LogFields}
  (shuffled : Shuffle (written (job1Map digits otherC kind) lines) groups)
  (member : group ∈ groups) (accept : f ∈ acceptedLines digits otherC kind lines)
  (merged : f.key.keyMerge = group.1)
include shuffled member accept merged

/-- The group of an album has the values of its lines. -/
theorem playValues_perm : (playValues digits group).Perm
      ((linesOf digits otherC kind lines f.key).map (playValue digits)) := by
  have readable := (of_mem_acceptedLines accept).1
  have records : (written (job1Map digits otherC kind) lines).filter (·.1 = group.1) =
      (linesOf digits otherC kind lines f.key).map fun f' => f'.write digits := by
    have keys : ∀ f' ∈ acceptedLines digits otherC kind lines,
        (f'.key.keyMerge = group.1 ↔ f'.key = f.key) := by
      intro f' accept'
      constructor
      · intro same
        exact keyMerge_inj (of_mem_acceptedLines accept').1 readable (same.trans merged.symm)
      · intro same
        rw [same, merged]
    rw [written_job1Map, List.filter_map, linesOf]
    refine congrArg _ (List.filter_congr fun f' accept' => ?_)
    rw [Function.comp_apply, decide_eq_decide]
    exact keys f' accept'
  have perm := (shuffled.values_perm member).filterMap (readPlayValue digits)
  rw [records, List.map_map, List.filterMap_map] at perm
  refine perm.trans (.of_eq ?_)
  rw [← List.filterMap_eq_map]
  refine List.filterMap_congr fun f' found => ?_
  exact readPlayValue_valueMerge (of_mem_acceptedLines (List.mem_of_mem_filter found)).1

theorem totalPL_eq : totalPL digits group = totalPlayed digits otherC kind lines f.key := by
  rw [totalPL, ((playValues_perm shuffled member accept merged).map _).sum_eq, List.map_map]
  rfl

theorem card_macSet : (macSet digits group).card = macNum digits otherC kind lines f.key := by
  rw [macSet, List.toFinset_eq_of_perm _ _
    ((playValues_perm shuffled member accept merged).map PlayValue.devMac), List.map_map]
  rfl

end

/-! ### Records and their albums -/

/-- A record names the columns of its group's key. -/
theorem about_channelRecord {f : LogFields} (readable : Readable f)
    {group : String × List String} {key : AlbumKey} (keyed : Keyed group key)
    (time : Plain (lastTimeLength digits group)) :
    about f.key (channelRecord digits key group) = true ↔
      { key with partnerCode := trim key.partnerCode } = f.key := by
  have columns := strSplitTrim_strJoin (List.cons_ne_nil _ _) fun column member =>
    plain_tail keyed time column (List.mem_cons_of_mem _ member)
  have partner : BarFree (trim key.partnerCode) := fun bar =>
    keyed.partnerCode (trim_subset _ bar)
  rw [about, channelRecord, columns, Bool.and_eq_true, beq_iff_eq, beq_iff_eq, AlbumKey.ext_iff]
  simp only [List.take_succ_cons, List.take_zero, List.cons.injEq, and_true]
  constructor
  · rintro ⟨channel, name, id⟩
    obtain ⟨same, chn⟩ := strJoin₂_inj partner readable.partnerCode.free channel
    exact ⟨same, chn, name, id⟩
  · rintro ⟨same, chn, name, id⟩
    exact ⟨by rw [same, chn], name, id⟩

/-- The columns of a group's key. -/
def keyOf (group : String × List String) : AlbumKey :=
  match strSplitTrim group.1 with
  | [partnerCode, chn, albumName, albumId] => ⟨partnerCode, chn, albumName, albumId⟩
  | _ => ⟨"", "", "", ""⟩

theorem keyOf_eq {f : LogFields} (readable : Readable f) {group : String × List String}
    (merged : f.key.keyMerge = group.1) : keyOf group = f.key := by
  have columns : strSplitTrim group.1 = f.key.columns := by
    rw [← merged, AlbumKey.keyMerge]
    exact strSplitTrim_strJoin (List.cons_ne_nil _ _) (plain_columns readable)
  rw [keyOf, columns]
  rfl

theorem trim_partnerCode {f : LogFields} (readable : Readable f) :
    { f.key with partnerCode := trim f.key.partnerCode } = f.key := by
  have trimmed : trim f.key.partnerCode = f.key.partnerCode := readable.partnerCode.trimmed
  rw [trimmed]

section
variable {group : String × List String} {f : LogFields}
  (shuffled : Shuffle (written (job1Map digits otherC kind) lines) tasks.flatten)
include shuffled

theorem keyed_keyOf (member : group ∈ tasks.flatten) : Keyed group (keyOf group) := by
  obtain ⟨f, accept, merged, _⟩ := exists_lastTimeLength shuffled member
  obtain ⟨readable, checked⟩ := of_mem_acceptedLines accept
  rw [keyOf_eq readable merged]
  exact keyed_of_checked readable checked merged

theorem about_keyOf (member : group ∈ tasks.flatten) (readable : Readable f) :
    about f.key (channelRecord digits (keyOf group) group) = true ↔ group.1 = f.key.keyMerge := by
  obtain ⟨f', accept', merged', _⟩ := exists_lastTimeLength shuffled member
  obtain ⟨readable', checked'⟩ := of_mem_acceptedLines accept'
  rw [keyOf_eq readable' merged', about_channelRecord readable
    (keyed_of_checked readable' checked' merged') (sound_of_mem shuffled member).time,
    trim_partnerCode readable', ← merged']
  exact ⟨fun same => by rw [same], keyMerge_inj readable' readable⟩

/-- The record of an album is that of its group. -/
theorem filter_about (member : group ∈ tasks.flatten) (readable : Readable f)
    (merged : f.key.keyMerge = group.1) :
    (tasks.flatten.map fun group => channelRecord digits (keyOf group) group).filter
      (about f.key) = [channelRecord digits f.key group] := by
  have kept : tasks.flatten.filter
      (about f.key ∘ fun group => channelRecord digits (keyOf group) group) = [group] := by
    rw [← shuffled.filter_groups member]
    refine List.filter_congr fun other found => ?_
    rw [Function.comp_apply, Bool.eq_iff_iff, decide_eq_true_iff,
      about_keyOf shuffled found readable, merged]
  rw [List.filter_map, kept, List.map_singleton, keyOf_eq readable merged]

/-- The group of an accepted line. -/
theorem exists_group_of_accepted (accept : f ∈ acceptedLines digits otherC kind lines) :
    ∃ group ∈ tasks.flatten, f.key.keyMerge = group.1 := by
  have record : f.write digits ∈ written (job1Map digits otherC kind) lines := by
    rw [written_job1Map]
    exact List.mem_map_of_mem accept
  obtain ⟨group, found, key⟩ := shuffled.exists_group record
  exact ⟨group, found, key.symm⟩

/-- What an album's record says. -/
theorem channelRecord_eq (member : group ∈ tasks.flatten)
    (accept : f ∈ acceptedLines digits otherC kind lines) (merged : f.key.keyMerge = group.1) :
    channelRecord digits f.key group = (strJoin₂ f.partnerCode f.chn, strJoin [f.albumName,
      f.albumId, toString ((totalPlayed digits otherC kind lines f.key).bmod (2 ^ 64)),
      toString (min (macNum digits otherC kind lines f.key : Int) intMax),
      lastTimeLength digits group]) := by
  have trimmed : trim f.key.partnerCode = f.partnerCode :=
    (of_mem_acceptedLines accept).1.partnerCode.trimmed
  rw [channelRecord, trimmed, totalPL_eq shuffled member accept merged, setSize,
    card_macSet shuffled member accept merged]
  rfl

end

/-! ### Lines without breaks -/

/-- The fields of an unbroken line are unbroken. -/
theorem breakFree_of_mem_acceptedLines (free : ∀ line ∈ lines, BreakFree line) {f : LogFields}
    (accept : f ∈ acceptedLines digits otherC kind lines) :
    BreakFree f.key.keyMerge ∧ BreakFree f.timeLengthS := by
  obtain ⟨line, member, accept⟩ := List.mem_filterMap.mp accept
  obtain ⟨read, _⟩ := Option.filter_eq_some_iff.mp accept
  have column : ∀ column : Fin (strSplitTrim line).length,
      BreakFree ((strSplitTrim line).get column) := fun column =>
    breakFree_of_mem_strSplitTrim (free line member) (List.get_mem _ column)
  unfold Layout.fields at read
  split at read
  · cases read
    rw [AlbumKey.keyMerge, AlbumKey.columns, breakFree_strJoin (List.cons_ne_nil _ _)]
    simp only [LogFields.key, List.mem_cons, List.not_mem_nil, or_false]
    refine ⟨?_, column _⟩
    rintro s (rfl | rfl | rfl | rfl)
    · exact column _
    · exact column _
    · exact breakFree_clean otherC (column _)
    · exact column _
  · cases read

theorem breakFree_of_mem_asRead (free : ∀ line ∈ lines, BreakFree line)
    (shuffled : Shuffle (written (job1Map digits otherC kind) lines) tasks.flatten)
    {group : String × List String} (member : group ∈ tasks.flatMap asRead) :
    BreakFree (albumLine digits group) := by
  obtain ⟨original, found, read⟩ := mem_asRead member
  obtain ⟨f, accept, merged, time⟩ := exists_lastTimeLength shuffled found
  obtain ⟨key, last⟩ := breakFree_of_mem_acceptedLines free accept
  rw [merged] at key
  rw [← time] at last
  rw [breakFree_albumLine]
  rcases read with rfl | rfl
  · exact ⟨key, last⟩
  · exact ⟨breakFree_unmarked key, last⟩

/-! ### What reaches the last reduce -/

theorem allParse_of_delivered {records : List (String × String)}
    (delivered' : delivered digits otherC kind lines tasks = some records) :
    AllParse digits otherC kind lines := by
  rw [allParse_iff]
  intro failed
  simp [delivered, failed] at delivered'

/-- The records are those of the groups, as their lines are read. -/
theorem delivered_eq (free : ∀ line ∈ lines, BreakFree line)
    (shuffled : Shuffle (written (job1Map digits otherC kind) lines) tasks.flatten)
    (parse : AllParse digits otherC kind lines) :
    delivered digits otherC kind lines tasks =
      some (written (fun group => job2Map (albumLine digits group)) (tasks.flatMap asRead)) := by
  obtain ⟨records, first⟩ := Option.ne_none_iff_exists'.mp (allParse_iff.mp parse)
  rw [delivered, first, job1Reduces_eq shuffled]
  exact job2Maps_of_breakFree shuffled fun group member =>
    breakFree_of_mem_asRead free shuffled member

/-- Every record comes from a group as it is read. -/
theorem exists_group_of_delivered
    (shuffled : Shuffle (written (job1Map digits otherC kind) lines) tasks.flatten)
    {record : String × String} (member : record ∈
      written (fun group => job2Map (albumLine digits group)) (tasks.flatMap asRead)) :
    ∃ group ∈ tasks.flatMap asRead, ∀ key, Keyed group key →
      record = channelRecord digits key group := by
  obtain ⟨group, found, read⟩ := mem_written.mp member
  refine ⟨group, found, fun key keyed => ?_⟩
  rw [job2Map_albumLine keyed (sound_of_mem_asRead shuffled found).time] at read
  split at read
  · exact (Option.some.inj (Option.some.inj read)).symm
  · cases read

/-! ### Without marks -/

theorem unmarked_eq_self_iff {value : String} :
    unmarked value = value ↔ value.toList.head? ≠ some '\uFEFF' := by
  rw [← String.toList_inj, unmarked, String.toList_ofList]
  cases value.toList with
  | nil => simp [skipUtfByteOrderMark]
  | cons c rest =>
    by_cases mark : c = '\uFEFF'
    · simp [skipUtfByteOrderMark, mark]
    · simp [skipUtfByteOrderMark, mark]

theorem asRead_of_noMarks (noMarks : NoMarks tasks) : tasks.flatMap asRead = tasks.flatten := by
  rw [List.flatten_eq_flatMap]
  refine List.flatMap_congr fun groups found => ?_
  cases groups with
  | nil => rfl
  | cons head tail =>
    have same := unmarked_eq_self_iff.mpr (noMarks _ found head rfl)
    rw [asRead, List.modifyHead_cons, unmarkedGroup, same]
    rfl

/-- Each group delivers the record of its key. -/
theorem delivered_of_noMarks (free : ∀ line ∈ lines, BreakFree line)
    (shuffled : Shuffle (written (job1Map digits otherC kind) lines) tasks.flatten)
    (parse : AllParse digits otherC kind lines) (noMarks : NoMarks tasks) :
    delivered digits otherC kind lines tasks =
      some (tasks.flatten.map fun group => channelRecord digits (keyOf group) group) := by
  rw [delivered_eq free shuffled parse, asRead_of_noMarks noMarks]
  refine congrArg some ?_
  refine (stage_eq_some_iff.mp (stage_of_forall fun group member => ?_)).2
  obtain ⟨f, accept, merged, _⟩ := exists_lastTimeLength shuffled member
  obtain ⟨readable, checked⟩ := of_mem_acceptedLines accept
  have legal : isLegal (some (trim f.key.partnerCode)) = true := by
    rw [show trim f.key.partnerCode = f.partnerCode from readable.partnerCode.trimmed]
    exact checked.partnerCode
  rw [job2Map_albumLine (keyed_of_checked readable checked merged)
    (sound_of_mem shuffled member).time, if_pos legal, keyOf_eq readable merged]

/-! ### A mark loses its album -/

theorem length_strJoin₂ (str1 str2 : String) :
    (strJoin₂ str1 str2).toList.length = str1.toList.length + 1 + str2.toList.length := by
  rw [strJoin₂_toList, List.length_append, List.length_cons]
  omega

theorem length_trim_le (s : String) : (trim s).toList.length ≤ s.toList.length := by
  rw [trim_toList]
  exact (List.rdropWhile_prefix _ _).length_le.trans (List.dropWhile_suffix _).length_le

theorem length_keyMerge_trim_le (key : AlbumKey) :
    ({ key with partnerCode := trim key.partnerCode } : AlbumKey).keyMerge.toList.length ≤
      key.keyMerge.toList.length := by
  have shorter := length_trim_le key.partnerCode
  rw [keyMerge_eq, keyMerge_eq, length_strJoin₂, length_strJoin₂]
  exact Nat.add_le_add_right (Nat.add_le_add_right shorter 1) _

theorem length_unmarked_lt {value : String} (marked : value.toList.head? = some '\uFEFF') :
    (unmarked value).toList.length < value.toList.length := by
  rw [unmarked, String.toList_ofList]
  cases chars : value.toList with
  | nil => simp [chars] at marked
  | cons c rest =>
    rw [chars, List.head?_cons, Option.some.injEq] at marked
    subst marked
    exact Nat.lt_succ_self rest.length

/-- No group comes first in a file and later in one. -/
theorem not_mem_tail {α : Type} {files : List (List α)} (nodup : files.flatten.Nodup)
    {first head : α} {rest tail : List α} (file : first :: rest ∈ files) (file' : head :: tail ∈ files) :
    first ∉ tail := by
  intro later
  obtain ⟨each, apart⟩ := List.nodup_flatten.mp nodup
  by_cases same : first :: rest = head :: tail
  · have distinct := each _ file'
    rw [← (List.cons.inj same).1, ← (List.cons.inj same).2] at distinct
    rw [← (List.cons.inj same).2] at later
    exact (List.nodup_cons.mp distinct).1 later
  · have symmetric : Std.Symm (@List.Disjoint α) := ⟨fun _ _ => List.Disjoint.symm⟩
    exact apart.forall file file' same List.mem_cons_self (List.mem_cons_of_mem _ later)

/-- Of the groups that lose a mark, the one with the longest key delivers its record
nowhere, and no other group can. -/
theorem noMarks_of_once
    (shuffled : Shuffle (written (job1Map digits otherC kind) lines) tasks.flatten)
    (once : ∀ f ∈ acceptedLines digits otherC kind lines, ∃ record ∈
      written (fun group => job2Map (albumLine digits group)) (tasks.flatMap asRead),
        about f.key record = true) : NoMarks tasks := by
  classical
  by_contra marks
  let heads := tasks.flatten.toFinset.filter fun group =>
    group.1.toList.head? = some '\uFEFF' ∧ ∃ rest, group :: rest ∈ tasks
  have nonempty : heads.Nonempty := by
    simp only [NoMarks, not_forall, not_not] at marks
    obtain ⟨groups, file, group, first, marked⟩ := marks
    obtain ⟨rest, rfl⟩ := List.head?_eq_some_iff.mp first
    refine ⟨group, Finset.mem_filter.mpr ⟨?_, marked, rest, file⟩⟩
    exact List.mem_toFinset.mpr (List.mem_flatten_of_mem file List.mem_cons_self)
  obtain ⟨top, member, longest⟩ :=
    Finset.exists_max_image heads (fun group => group.1.toList.length) nonempty
  obtain ⟨inTop, marked, rest, file⟩ := Finset.mem_filter.mp member
  have found := List.mem_toFinset.mp inTop
  obtain ⟨f, accept, merged, _⟩ := exists_lastTimeLength shuffled found
  have readable := (of_mem_acceptedLines accept).1
  obtain ⟨record, delivered, named⟩ := once f accept
  obtain ⟨group, read, from'⟩ := exists_group_of_delivered shuffled delivered
  have sound := sound_of_mem_asRead shuffled read
  obtain ⟨file', found', belongs⟩ := List.mem_flatMap.mp read
  cases file' with
  | nil => cases belongs
  | cons head tail =>
    rcases List.mem_cons.mp belongs with rfl | later
    · have inHead := List.mem_flatten_of_mem found' (List.mem_cons_self (a := head) (l := tail))
      by_cases again : head.1.toList.head? = some '\uFEFF'
      · -- the key found is shorter than that of a group that loses its mark
        have keyed := (keyed_keyOf shuffled inHead).unmarked
        rw [from' _ keyed, about_channelRecord readable keyed sound.time] at named
        have bound := longest head (Finset.mem_filter.mpr
          ⟨List.mem_toFinset.mpr inHead, again, tail, found'⟩)
        have shorter := length_unmarked_lt again
        have trimmed := length_keyMerge_trim_le (unmarkedKey (keyOf head))
        rw [named, merged, ← keyed.merged] at trimmed
        exact absurd (bound.trans trimmed) (Nat.not_le.mpr shorter)
      · have kept : unmarkedGroup head = head := by
          rw [unmarkedGroup, unmarked_eq_self_iff.mpr again]
        rw [kept] at from'
        rw [from' _ (keyed_keyOf shuffled inHead), about_keyOf shuffled inHead readable,
          merged] at named
        exact again (shuffled.group_inj inHead found named ▸ marked)
    · have inTail := List.mem_flatten_of_mem found' (List.mem_cons_of_mem head later)
      rw [from' _ (keyed_keyOf shuffled inTail), about_keyOf shuffled inTail readable,
        merged] at named
      exact not_mem_tail shuffled.nodup file found'
        (shuffled.group_inj inTail found named ▸ later)

/-! ### Exactness -/

theorem bmod_eq_self_iff {x : Int} : x.bmod (2 ^ 64) = x ↔ longMin ≤ x ∧ x ≤ longMax := by
  unfold longMin longMax
  constructor
  · intro same
    have low := Int.le_bmod (x := x) (m := 2 ^ 64) (by decide)
    have high := Int.bmod_lt (x := x) (m := 2 ^ 64) (by decide)
    omega
  · rintro ⟨low, high⟩
    exact Int.bmod_eq_of_le (by omega) (by omega)

/-- The totals can be read off a record. -/
theorem record_inj {f : LogFields} (readable : Readable f) {total total' macs macs' : Int}
    {timeLength timeLength' : String}
    (same : strJoin [f.albumName, f.albumId, toString total, toString macs, timeLength] =
      strJoin [f.albumName, f.albumId, toString total', toString macs', timeLength']) :
    total = total' ∧ macs = macs' := by
  have peel : ∀ {head head' : String} {rest rest' : List String}, BarFree head → BarFree head' →
      rest ≠ [] → rest' ≠ [] → strJoin (head :: rest) = strJoin (head' :: rest') →
        head = head' ∧ strJoin rest = strJoin rest' := by
    intro head head' rest rest' free free' nonempty nonempty' same
    rw [strJoin_cons nonempty, strJoin_cons nonempty'] at same
    exact strJoin₂_inj free free' same
  have free : ∀ x : Int, BarFree (toString x) := fun x => (plain_toString x).free
  obtain ⟨_, same⟩ := peel readable.albumName.free readable.albumName.free (by simp) (by simp) same
  obtain ⟨_, same⟩ := peel readable.albumId.free readable.albumId.free (by simp) (by simp) same
  obtain ⟨sum, same⟩ := peel (free total) (free total') (by simp) (by simp) same
  obtain ⟨size, _⟩ := peel (free macs) (free macs') (by simp) (by simp) same
  exact ⟨toString_inj sum, toString_inj size⟩

/-- Exactness of one album's record bounds its totals. -/
theorem conditions_of_exact (free : ∀ line ∈ lines, BreakFree line)
    (shuffled : Shuffle (written (job1Map digits otherC kind) lines) tasks.flatten)
    (exact' : Exact digits otherC kind lines tasks)
    (some' : acceptedLines digits otherC kind lines ≠ []) :
    AllParse digits otherC kind lines ∧ NoMarks tasks ∧
      ∀ f ∈ acceptedLines digits otherC kind lines, Fits digits otherC kind lines f.key := by
  obtain ⟨f, accept⟩ := List.exists_mem_of_ne_nil _ some'
  obtain ⟨_, delivered', _⟩ := exact'.once f accept
  have parse := allParse_of_delivered delivered'
  have noMarks : NoMarks tasks := by
    refine noMarks_of_once shuffled fun f accept => ?_
    obtain ⟨records, delivered', timeLength, named⟩ := exact'.once f accept
    rw [delivered_eq free shuffled parse] at delivered'
    cases delivered'
    obtain ⟨belongs, about'⟩ := List.mem_filter.mp (named ▸ List.mem_cons_self)
    exact ⟨_, belongs, about'⟩
  refine ⟨parse, noMarks, fun f accept => ?_⟩
  have readable := (of_mem_acceptedLines accept).1
  obtain ⟨group, member, merged⟩ := exists_group_of_accepted shuffled accept
  obtain ⟨records, delivered', timeLength, named⟩ := exact'.once f accept
  rw [delivered_of_noMarks free shuffled parse noMarks] at delivered'
  cases delivered'
  rw [filter_about shuffled member readable merged,
    channelRecord_eq shuffled member accept merged] at named
  obtain ⟨sum, size⟩ := record_inj readable (Prod.mk.inj (List.cons.inj named).1).2
  obtain ⟨low, high⟩ := bmod_eq_self_iff.mp sum
  exact ⟨low, high, min_eq_left_iff.mp size⟩

theorem exact_of_conditions (free : ∀ line ∈ lines, BreakFree line)
    (shuffled : Shuffle (written (job1Map digits otherC kind) lines) tasks.flatten)
    (parse : AllParse digits otherC kind lines) (noMarks : NoMarks tasks)
    (fits : ∀ f ∈ acceptedLines digits otherC kind lines, Fits digits otherC kind lines f.key) :
    Exact digits otherC kind lines tasks where
  once f accept := by
    obtain ⟨group, member, merged⟩ := exists_group_of_accepted shuffled accept
    obtain ⟨low, high, size⟩ := fits f accept
    refine ⟨_, delivered_of_noMarks free shuffled parse noMarks, lastTimeLength digits group, ?_⟩
    rw [filter_about shuffled member (of_mem_acceptedLines accept).1 merged,
      channelRecord_eq shuffled member accept merged, bmod_eq_self_iff.mpr ⟨low, high⟩,
      min_eq_left size]
  only records delivered' record belongs := by
    rw [delivered_of_noMarks free shuffled parse noMarks] at delivered'
    cases delivered'
    obtain ⟨group, member, rfl⟩ := List.mem_map.mp belongs
    obtain ⟨f, accept, merged, _⟩ := exists_lastTimeLength shuffled member
    have readable := (of_mem_acceptedLines accept).1
    exact ⟨f, accept, (about_keyOf shuffled member readable).mpr merged.symm⟩

/-- Without an accepted line nothing is delivered. -/
theorem exact_of_nil (free : ∀ line ∈ lines, BreakFree line)
    (shuffled : Shuffle (written (job1Map digits otherC kind) lines) tasks.flatten)
    (none' : acceptedLines digits otherC kind lines = []) :
    Exact digits otherC kind lines tasks where
  once f accept := by
    rw [none'] at accept
    cases accept
  only records delivered' record belongs := by
    rw [delivered_eq free shuffled (allParse_of_delivered delivered')] at delivered'
    cases delivered'
    obtain ⟨group, found, _⟩ := mem_written.mp belongs
    obtain ⟨original, member, _⟩ := mem_asRead found
    obtain ⟨f, accept, _⟩ := exists_lastTimeLength shuffled member
    rw [none'] at accept
    cases accept

/-- The two jobs are exact on unbroken lines exactly when there is no accepted line,
or when every legal line parses, no part file begins with a byte order mark and each
album's totals fit. -/
theorem two_jobs_exact_iff (digits : CharacterDigit) (otherC : Char → Bool) (kind : Kind)
    (lines : List String) (tasks : List (List (String × List String)))
    (free : ∀ line ∈ lines, BreakFree line)
    (shuffled : Shuffle (written (job1Map digits otherC kind) lines) tasks.flatten) :
    Exact digits otherC kind lines tasks ↔
      acceptedLines digits otherC kind lines = [] ∨
        (AllParse digits otherC kind lines ∧ NoMarks tasks ∧
          ∀ f ∈ acceptedLines digits otherC kind lines, Fits digits otherC kind lines f.key) := by
  constructor
  · intro exact'
    by_cases none' : acceptedLines digits otherC kind lines = []
    · exact .inl none'
    · exact .inr (conditions_of_exact free shuffled exact' none')
  · intro condition
    rcases condition with none' | ⟨parse, noMarks, fits⟩
    · exact exact_of_nil free shuffled none'
    · exact exact_of_conditions free shuffled parse noMarks fits

/-- Two albums, one of them with two plays, in two part files. -/
theorem evening_exact :
    Exact asciiDigit (fun _ => false) .vod eveningLines eveningTasks := by
  refine (two_jobs_exact_iff asciiDigit (fun _ => false) .vod eveningLines eveningTasks
    breakFree_evening shuffle_evening).mpr (.inr ⟨allParse_evening, by unfold NoMarks; decide, ?_⟩)
  unfold Fits totalPlayed macNum linesOf
  rw [acceptedLines_evening]
  decide

/-- A legal line whose action is no number fails the first job, and the news with it. -/
theorem odd_action_delivers_nothing :
    delivered asciiDigit (fun _ => false) .vod [newsLine "5" "30", newsLine "abc" "30"]
      [[newsGroup "30" "20"]] = none ∧
    ¬ ∀ (digits : CharacterDigit) (otherC : Char → Bool) (kind : Kind) (lines : List String)
      (tasks : List (List (String × List String))), (∀ line ∈ lines, BreakFree line) →
      (∀ f ∈ acceptedLines digits otherC kind lines,
        (parseInt digits f.playLengthS).isSome ∧ (parseInt digits f.timeLengthS).isSome) →
      Shuffle (written (job1Map digits otherC kind) lines) tasks.flatten →
      Exact digits otherC kind lines tasks := by
  have odd : accepted asciiDigit (fun _ => false) .vod (newsLine "abc" "30") = none := by
    rw [newsLine, accepted_play (by decide) (by decide), if_neg (by decide)]
  have lines : acceptedLines asciiDigit (fun _ => false) .vod
      [newsLine "5" "30", newsLine "abc" "30"] = [newsFields "5" "30"] := by
    have first : accepted asciiDigit (fun _ => false) .vod (newsLine "5" "30") =
        some (newsFields "5" "30") := by
      rw [newsLine, accepted_play (by decide) (by decide), if_pos (by decide)]
    rw [acceptedLines, List.filterMap_cons_some first, List.filterMap_cons_none odd,
      List.filterMap_nil]
  have failed : job1Map asciiDigit (fun _ => false) .vod (newsLine "abc" "30") = none :=
    (job1Map_eq_none_iff ..).mpr
      ⟨newsFields "abc" "30", fields_play (by decide) (by decide), by decide, by decide⟩
  have nothing : delivered asciiDigit (fun _ => false) .vod
      [newsLine "5" "30", newsLine "abc" "30"] [[newsGroup "30" "20"]] = none := by
    rw [delivered, stage_eq_none_iff.mpr ⟨_, by simp, failed⟩]
    rfl
  refine ⟨nothing, fun claim => ?_⟩
  have free : ∀ line ∈ [newsLine "5" "30", newsLine "abc" "30"], BreakFree line := by
    simp only [List.mem_cons, List.not_mem_nil, or_false]
    rintro line (rfl | rfl) <;> exact breakFree_play (by decide)
  have shuffled : Shuffle (written (job1Map asciiDigit (fun _ => false) .vod)
      [newsLine "5" "30", newsLine "abc" "30"]) [[newsGroup "30" "20"]].flatten := by
    rw [written_job1Map, lines]
    exact .single _ _
  have exact' := claim asciiDigit (fun _ => false) .vod [newsLine "5" "30", newsLine "abc" "30"]
    [[newsGroup "30" "20"]] free (by rw [lines]; decide) shuffled
  obtain ⟨records, found, _⟩ := exact'.once (newsFields "5" "30") (by rw [lines]; exact .head _)
  rw [nothing] at found
  cases found

end GitvTime.Guarantees.Viscosity.AlbumTotals
