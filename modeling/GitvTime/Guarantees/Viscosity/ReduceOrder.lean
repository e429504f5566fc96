import GitvTime.Guarantees.Viscosity.AlbumRecords

/-!
# The order of a group's values

MapReduce fixes no order of the values of a key. `Job1PlayLengthReduce` adds the
play lengths and collects the devices, which no order changes, and it keeps the
time length of the value that it reads last. The time length is no part of the key,
so one key can have values with different ones.
-/
namespace GitvTime.Guarantees.Viscosity.ReduceOrder
open GitvTime.Source.StringHandle GitvTime.Source.Numbers GitvTime.Support.MapReduce
open GitvTime.Source.Viscosity.Top100Jobs GitvTime.Guarantees.Viscosity.AlbumRecords

/-- The record of a key is the same in every order of its values. -/
def OrderFree (digits : CharacterDigit) (key : String) (values : List String) : Prop :=
  ∀ values', values'.Perm values → job1Reduce digits (key, values') = job1Reduce digits (key, values)

/-- The second column of a value. -/
def timeLengthOf (value : String) : Option String := (strSplitTrim value)[1]?

def OneTimeLength (values : List String) : Prop :=
  ∀ value ∈ values, ∀ other ∈ values, timeLengthOf value = timeLengthOf other

variable {digits : CharacterDigit} {key : String} {values values' : List String}

theorem timeLengthOf_of_read {value : String} {message : PlayValue}
    (read : readPlayValue digits value = some message) :
    timeLengthOf value = some message.timeLength := by
  unfold readPlayValue at read
  simp only [Option.bind_eq_bind, Option.bind_eq_some_iff, Option.pure_def, Option.some.injEq] at read
  obtain ⟨devMac, _, timeLength, found, playLength, _, rfl⟩ := read
  exact found

/-- A value that cannot be read fails the reduce, wherever it stands. -/
theorem job1Reduce_eq_none {value : String} (member : value ∈ values)
    (unread : readPlayValue digits value = none) : job1Reduce digits (key, values) = none := by
  have stops : ∀ totals, values.foldlM (Totals.read digits) totals = none := by
    induction values with
    | nil => exact absurd member List.not_mem_nil
    | cons head rest ih =>
      intro totals
      rw [List.foldlM_cons]
      rcases List.mem_cons.mp member with rfl | later
      · simp [Totals.read, unread]
      · cases Totals.read digits totals head with
        | none => rfl
        | some totals' => exact ih later totals'
  simp [job1Reduce, stops]

/-! ### What no order changes -/

theorem playValues_perm (perm : values'.Perm values) :
    (playValues digits (key, values')).Perm (playValues digits (key, values)) := by
  unfold playValues
  exact perm.filterMap _

theorem totalPL_perm (perm : values'.Perm values) :
    totalPL digits (key, values') = totalPL digits (key, values) := by
  unfold totalPL
  apply List.Perm.sum_eq
  exact (playValues_perm perm).map _

theorem macSet_perm (perm : values'.Perm values) :
    macSet digits (key, values') = macSet digits (key, values) := by
  unfold macSet
  apply List.toFinset_eq_of_perm
  exact (playValues_perm perm).map _

/-- Two orders write the same line exactly when they end with the same time length. -/
theorem albumLine_perm_iff (perm : values'.Perm values) :
    albumLine digits (key, values') = albumLine digits (key, values) ↔
      lastTimeLength digits (key, values') = lastTimeLength digits (key, values) := by
  unfold albumLine
  rw [totalPL_perm perm, macSet_perm perm]
  constructor
  · intro same
    have chars := congrArg String.toList same
    rw [← String.toList_inj]
    simpa [strJoin_toList, List.intercalate] using chars
  · intro same
    rw [same]

/-! ### What the order decides -/

theorem lastTimeLength_concat {value : String} {message : PlayValue}
    (read : readPlayValue digits value = some message) (before : List String) :
    lastTimeLength digits (key, before ++ [value]) = message.timeLength := by
  have last : playValues digits (key, before ++ [value]) =
      playValues digits (key, before) ++ [message] := by
    simp [playValues, List.filterMap_append, read]
  rw [lastTimeLength, last, List.getLast?_concat, Option.map_some, Option.getD_some]

/-- Any value of the group can be the last one. -/
theorem exists_order_ending {value : String} (member : value ∈ values) :
    ∃ before, (before ++ [value]).Perm values := by
  refine ⟨values.erase value, ?_⟩
  have moved : (values.erase value ++ [value]).Perm (value :: values.erase value) :=
    List.perm_append_singleton value _
  exact moved.trans (List.perm_cons_erase member).symm

theorem orderFree_of_unread {value : String} (member : value ∈ values)
    (unread : readPlayValue digits value = none) : OrderFree digits key values := by
  intro values' perm
  rw [job1Reduce_eq_none member unread, job1Reduce_eq_none (perm.mem_iff.mpr member) unread]

/-- With values that can be read, only the last time length is at stake. -/
theorem orderFree_of_oneTimeLength
    (read : ∀ value ∈ values, (readPlayValue digits value).isSome)
    (one : OneTimeLength values) : OrderFree digits key values := by
  intro values' perm
  have read' : ∀ value ∈ values', (readPlayValue digits value).isSome := by
    intro value member
    exact read value (perm.mem_iff.mp member)
  rw [job1Reduce_of_read read', job1Reduce_of_read read, (albumLine_perm_iff perm).mpr]
  rcases List.eq_nil_or_concat' values with rfl | ⟨before, value, rfl⟩
  · rw [List.perm_nil.mp perm]
  rcases List.eq_nil_or_concat' values' with rfl | ⟨before', value', rfl⟩
  · exact absurd perm.length_eq (by simp)
  obtain ⟨message, last⟩ := Option.isSome_iff_exists.mp (read value (by simp))
  obtain ⟨message', last'⟩ := Option.isSome_iff_exists.mp (read' value' (by simp))
  rw [lastTimeLength_concat last, lastTimeLength_concat last']
  have same := one value' (perm.mem_iff.mp (by simp)) value (by simp)
  rw [timeLengthOf_of_read last, timeLengthOf_of_read last'] at same
  exact Option.some.inj same

theorem oneTimeLength_of_orderFree
    (read : ∀ value ∈ values, (readPlayValue digits value).isSome)
    (free : OrderFree digits key values) : OneTimeLength values := by
  -- an order that ends with the value writes what the given order writes
  have ending : ∀ value ∈ values,
      timeLengthOf value = some (lastTimeLength digits (key, values)) := by
    intro value member
    obtain ⟨before, perm⟩ := exists_order_ending member
    have read' : ∀ value' ∈ before ++ [value], (readPlayValue digits value').isSome := by
      intro value' belongs
      exact read value' (perm.mem_iff.mp belongs)
    have same := free _ perm
    rw [job1Reduce_of_read read', job1Reduce_of_read read] at same
    obtain ⟨message, last⟩ := Option.isSome_iff_exists.mp (read value member)
    rw [timeLengthOf_of_read last, ← (albumLine_perm_iff perm).mp (Option.some.inj same),
      lastTimeLength_concat last]
  intro value member other member'
  rw [ending value member, ending other member']

/-- The record does not depend on the order exactly when all values of the key carry
one time length, or one of them cannot be read and no order writes a record. -/
theorem arrival_order_free_iff (digits : CharacterDigit) (key : String) (values : List String) :
    (∀ values', values'.Perm values →
      job1Reduce digits (key, values') = job1Reduce digits (key, values)) ↔
      (∃ value ∈ values, readPlayValue digits value = none) ∨ OneTimeLength values := by
  by_cases read : ∀ value ∈ values, (readPlayValue digits value).isSome
  · constructor
    · intro free
      exact .inr (oneTimeLength_of_orderFree read free)
    · rintro (⟨value, member, unread⟩ | one)
      · exact orderFree_of_unread member unread
      · exact orderFree_of_oneTimeLength read one
  · have unread : ∃ value ∈ values, readPlayValue digits value = none := by
      simpa [Option.not_isSome_iff_eq_none] using read
    obtain ⟨value, member, none_read⟩ := unread
    constructor
    · intro _
      exact .inl ⟨value, member, none_read⟩
    · intro _
      exact orderFree_of_unread member none_read

/-- Two plays of one programme whose logs give it two lengths, as the map writes them. -/
theorem two_time_lengths :
    written (job1Map asciiDigit (fun _ => false) .vod) [newsLine "5" "30", newsLine "5" "40"] =
        [("AH_CMCC|CCTV-1|新闻联播|1002", "00:22:6d:00:01:f3|30|20"),
          ("AH_CMCC|CCTV-1|新闻联播|1002", "00:22:6d:00:01:f3|40|20")] ∧
      ¬ ∀ values', values'.Perm ["00:22:6d:00:01:f3|30|20", "00:22:6d:00:01:f3|40|20"] →
        job1Reduce asciiDigit ("AH_CMCC|CCTV-1|新闻联播|1002", values') =
          job1Reduce asciiDigit ("AH_CMCC|CCTV-1|新闻联播|1002",
            ["00:22:6d:00:01:f3|30|20", "00:22:6d:00:01:f3|40|20"]) := by
  constructor
  · have first := accepted_play (f := newsFields "5" "30") (by decide) (by decide)
    have second := accepted_play (f := newsFields "5" "40") (by decide) (by decide)
    rw [if_pos (by decide)] at first second
    rw [written_job1Map, acceptedLines, newsLine, newsLine, List.filterMap_cons_some first,
      List.filterMap_cons_some second, List.filterMap_nil]
    decide
  · intro free
    have one := oneTimeLength_of_orderFree (by decide) free
    have same := one _ (List.mem_cons_self) _ (List.mem_cons_of_mem _ List.mem_cons_self)
    exact absurd same (by decide)

/-- For a group that the maps filled: all accepted lines of the key have to give the
same time length. -/
theorem group_order_free_iff {otherC : Char → Bool} {kind : Kind} {lines : List String}
    {groups : List (String × List String)}
    (shuffled : Shuffle (written (job1Map digits otherC kind) lines) groups)
    {group : String × List String} (member : group ∈ groups) :
    OrderFree digits group.1 group.2 ↔
      ∀ f ∈ acceptedLines digits otherC kind lines, ∀ f' ∈ acceptedLines digits otherC kind lines,
        f.key.keyMerge = group.1 → f'.key.keyMerge = group.1 → f.timeLengthS = f'.timeLengthS := by
  have read : ∀ value ∈ group.2, (readPlayValue digits value).isSome := by
    intro value belongs
    obtain ⟨f, _, _, found⟩ := read_of_mem shuffled member belongs
    rw [found]
    rfl
  constructor
  · intro free f accept f' accept' key key'
    have one := oneTimeLength_of_orderFree read free
    -- the values of the two lines are in the group
    have values : ∀ f ∈ acceptedLines digits otherC kind lines, f.key.keyMerge = group.1 →
        f.valueMerge digits ∈ group.2 := by
      intro f accept key
      have record : (f.key.keyMerge, f.valueMerge digits) ∈
          written (job1Map digits otherC kind) lines := by
        rw [written_job1Map]
        exact List.mem_map_of_mem accept
      obtain ⟨group', found, same, belongs⟩ := shuffled.mem_records.mp record
      rwa [shuffled.group_inj found member (same.trans key)] at belongs
    have same := one _ (values f accept key) _ (values f' accept' key')
    rw [timeLengthOf_of_read (readPlayValue_valueMerge (of_mem_acceptedLines accept).1),
      timeLengthOf_of_read (readPlayValue_valueMerge (of_mem_acceptedLines accept').1)] at same
    exact Option.some.inj same
  · intro equal
    apply orderFree_of_oneTimeLength read
    intro value belongs other belongs'
    obtain ⟨f, accept, key, found⟩ := read_of_mem shuffled member belongs
    obtain ⟨f', accept', key', found'⟩ := read_of_mem shuffled member belongs'
    rw [timeLengthOf_of_read found, timeLengthOf_of_read found',
      equal f accept f' accept' key key']

end GitvTime.Guarantees.Viscosity.ReduceOrder
