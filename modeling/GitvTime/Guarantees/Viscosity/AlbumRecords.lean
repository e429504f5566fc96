import GitvTime.Source.Viscosity.Top100Jobs

/-!
# An album's record on its way

What `Job1` writes for an accepted line, what its reduce makes of a group of such
values, and what `Job2` reads of the part files. Fields are plain from the first
split on, so the later splits give them back; only the reader of a part file can
change a line, at a line break in it or at a byte order mark before it.
-/
namespace GitvTime.Guarantees.Viscosity.AlbumRecords
open GitvTime.Source.StringHandle GitvTime.Source.Patterns GitvTime.Source.Numbers
open GitvTime.Source.TextFiles GitvTime.Source.Viscosity.Top100Jobs GitvTime.Support.MapReduce

variable (digits : CharacterDigit) (otherC : Char → Bool) (kind : Kind)

/-! ### Accepted lines -/

/-- The texts that `map` parses without a default do parse. -/
def Parses (f : LogFields) : Prop :=
  (parseInt digits f.actionS).isSome ∧ (parseInt digits f.playTypeS).isSome

instance (f : LogFields) : Decidable (Parses digits f) := by unfold Parses; infer_instance

/-- Every legal line has a number for its action and its play type. -/
def AllParse (lines : List String) : Prop :=
  ∀ line ∈ lines, ∀ f, kind.layout.fields otherC (strSplitTrim line) = some f →
    kind.layout.isLegal f = true → Parses digits f

/-- The fields that `filter1` lets through. -/
def selected (f : LogFields) : Bool :=
  match parseInt digits f.actionS, parseInt digits f.playTypeS with
  | some action, some playType => filter1 action playType (f.playLength digits)
  | _, _ => false

/-- The fields of a line that the map accepts. -/
def accepted (value : String) : Option LogFields :=
  (kind.layout.fields otherC (strSplitTrim value)).filter fun f =>
    kind.layout.isLegal f && selected digits f

def acceptedLines (lines : List String) : List LogFields :=
  lines.filterMap (accepted digits otherC kind)

/-- A legal line that does not parse fails the job. -/
theorem job1Map_eq_none_iff {value : String} :
    job1Map digits otherC kind value = none ↔
      ∃ f, kind.layout.fields otherC (strSplitTrim value) = some f ∧
        kind.layout.isLegal f = true ∧ ¬ Parses digits f := by
  unfold job1Map Parses
  cases kind.layout.fields otherC (strSplitTrim value) with
  | none => simp
  | some f =>
    simp only [Option.some.injEq, exists_eq_left']
    cases kind.layout.isLegal f with
    | false => simp
    | true => cases parseInt digits f.actionS <;> cases parseInt digits f.playTypeS <;> simp

theorem join_job1Map (value : String) :
    (job1Map digits otherC kind value).join =
      (accepted digits otherC kind value).map fun f => f.write digits := by
  unfold job1Map accepted selected
  cases kind.layout.fields otherC (strSplitTrim value) with
  | none => rfl
  | some f =>
    rw [Option.filter_some]
    cases legal : kind.layout.isLegal f with
    | false => simp [legal]
    | true =>
      cases action : parseInt digits f.actionS with
      | none => simp [legal, action]
      | some a =>
        cases playType : parseInt digits f.playTypeS with
        | none => simp [legal, action, playType]
        | some t =>
          cases filtered : filter1 a t (f.playLength digits) <;>
            simp [legal, action, playType, filtered]

/-- The map writes one record for each accepted line. -/
theorem written_job1Map (lines : List String) :
    written (job1Map digits otherC kind) lines =
      (acceptedLines digits otherC kind lines).map fun f => f.write digits := by
  rw [written, acceptedLines, List.map_filterMap]
  exact List.filterMap_congr fun value _ => join_job1Map digits otherC kind value

/-! ### Their fields -/

/-- The fields that are read again. -/
structure Readable (f : LogFields) : Prop where
  devMac : Plain f.devMac
  partnerCode : Plain f.partnerCode
  timeLengthS : Plain f.timeLengthS
  albumId : Plain f.albumId
  albumName : Plain f.albumName
  chn : Plain f.chn

/-- Those of them that are always checked. -/
structure Checked (f : LogFields) : Prop where
  devMac : isLegal (some f.devMac) = true
  partnerCode : isLegal (some f.partnerCode) = true
  timeLengthS : isLegal (some f.timeLengthS) = true
  albumName : isLegal (some f.albumName) = true
  chn : isLegal (some f.chn) = true

variable {digits otherC kind}

theorem allParse_iff {lines : List String} : AllParse digits otherC kind lines ↔
    stage (job1Map digits otherC kind) lines ≠ none := by
  rw [stage_ne_none_iff]
  refine forall₂_congr fun line _ => ?_
  rw [ne_eq, job1Map_eq_none_iff]
  simp only [not_exists, not_and, not_not]

theorem readable_of_fields {layout : Layout} {value : String} {f : LogFields}
    (read : layout.fields otherC (strSplitTrim value) = some f) : Readable f := by
  unfold Layout.fields at read
  split at read
  · have plain : ∀ column : Fin (strSplitTrim value).length,
        Plain ((strSplitTrim value).get column) := fun column =>
      plain_of_mem_strSplitTrim (List.get_mem _ column)
    cases read
    exact ⟨plain _, plain _, plain _, plain _, plain_clean otherC (plain _).free, plain _⟩
  · cases read

theorem checked_of_isLegal {f : LogFields} (legal : kind.layout.isLegal f = true) : Checked f := by
  unfold Layout.isLegal isLegalField at legal
  cases kind with
  | vod =>
    simp only [Kind.layout, vod, List.map_cons, List.map_nil, List.all_cons, List.all_nil,
      Bool.and_true, Bool.and_eq_true] at legal
    obtain ⟨_, mac, partner, time, _, name, _, chn, _⟩ := legal
    exact ⟨mac, partner, time, name, chn⟩
  | liv =>
    simp only [Kind.layout, liv, List.map_cons, List.map_nil, List.all_cons, List.all_nil,
      Bool.and_true, Bool.and_eq_true] at legal
    obtain ⟨chn, _, mac, partner, time, _, name, _⟩ := legal
    exact ⟨mac, partner, time, name, chn⟩

theorem of_mem_acceptedLines {lines : List String} {f : LogFields}
    (member : f ∈ acceptedLines digits otherC kind lines) : Readable f ∧ Checked f := by
  obtain ⟨value, _, accept⟩ := List.mem_filterMap.mp member
  obtain ⟨read, conditions⟩ := Option.filter_eq_some_iff.mp accept
  obtain ⟨legal, _⟩ := Bool.and_eq_true_iff.mp conditions
  exact ⟨readable_of_fields read, checked_of_isLegal legal⟩

/-! ### Keys -/

theorem plain_columns {f : LogFields} (readable : Readable f) :
    ∀ column ∈ f.key.columns, Plain column := by
  simp only [AlbumKey.columns, LogFields.key, List.mem_cons, List.not_mem_nil, or_false]
  rintro column (rfl | rfl | rfl | rfl)
  · exact readable.partnerCode
  · exact readable.chn
  · exact readable.albumName
  · exact readable.albumId

theorem keyMerge_inj {f f' : LogFields} (readable : Readable f) (readable' : Readable f')
    (same : f.key.keyMerge = f'.key.keyMerge) : f.key = f'.key := by
  have columns := strJoin_inj (List.cons_ne_nil _ _) (List.cons_ne_nil _ _)
    (plain_columns readable) (plain_columns readable') same
  simpa [AlbumKey.columns, AlbumKey.ext_iff] using columns

/-! ### The first reduce -/

/-- The seconds that a line adds to its album. -/
def played (digits : CharacterDigit) (f : LogFields) : Int :=
  min (f.playLength digits) (f.timeLength digits)

theorem filter2_eq (f : LogFields) :
    filter2 (f.playLength digits) (f.timeLength digits) = played digits f := by
  unfold filter2 played
  split <;> omega

theorem toInt_range {text : String} {defaultValue : Int} (low : intMin ≤ defaultValue)
    (high : defaultValue ≤ intMax) :
    intMin ≤ toInt digits text defaultValue ∧ toInt digits text defaultValue ≤ intMax := by
  unfold toInt
  cases parsed : parseInt digits text with
  | none => exact ⟨low, high⟩
  | some value => exact parseInt_range digits parsed

theorem played_range (f : LogFields) : intMin ≤ played digits f ∧ played digits f ≤ intMax := by
  have play : intMin ≤ f.playLength digits ∧ f.playLength digits ≤ intMax :=
    toInt_range (by decide) (by decide)
  have time : intMin ≤ f.timeLength digits ∧ f.timeLength digits ≤ intMax :=
    toInt_range (by decide) (by decide)
  unfold played
  omega

/-- The reduce reads what the map wrote. -/
theorem readPlayValue_valueMerge {f : LogFields} (readable : Readable f) :
    readPlayValue digits (f.valueMerge digits) =
      some ⟨f.devMac, f.timeLengthS, played digits f⟩ := by
  have columns : strSplitTrim (f.valueMerge digits) =
      [f.devMac, f.timeLengthS, toString (played digits f)] := by
    rw [LogFields.valueMerge, filter2_eq]
    refine strSplitTrim_strJoin (List.cons_ne_nil _ _) ?_
    simp only [List.mem_cons, List.not_mem_nil, or_false]
    rintro column (rfl | rfl | rfl)
    · exact readable.devMac
    · exact readable.timeLengthS
    · exact plain_toString _
  obtain ⟨low, high⟩ : intMin ≤ played digits f ∧ played digits f ≤ intMax := played_range f
  have number := parseInt_toString digits low high
  simp only [readPlayValue, columns, List.getElem?_cons_zero, List.getElem?_cons_succ,
    Option.bind_eq_bind, Option.bind_some, number]
  rfl

/-- The loop adds the values that it reads. -/
theorem foldlM_read {values : List String}
    (read : ∀ value ∈ values, (readPlayValue digits value).isSome) (totals : Totals) :
    values.foldlM (Totals.read digits) totals =
      some ((values.filterMap (readPlayValue digits)).foldl Totals.add totals) := by
  induction values generalizing totals with
  | nil => rfl
  | cons value rest ih =>
    obtain ⟨message, first⟩ := Option.isSome_iff_exists.mp (read value List.mem_cons_self)
    rw [List.foldlM_cons, Totals.read, first, Option.map_some, List.filterMap_cons_some first,
      List.foldl_cons]
    exact ih (fun value' member => read value' (List.mem_cons_of_mem _ member)) _

/-- The loop's variables after some values, from a sum that may have wrapped. -/
theorem foldl_add (read : List PlayValue) (macSet : Finset String) (sum : Int)
    (timeLength : Option String) :
    read.foldl Totals.add ⟨macSet, sum.bmod (2 ^ 64), timeLength⟩ =
      ⟨macSet ∪ (read.map PlayValue.devMac).toFinset,
        (sum + (read.map PlayValue.playLength).sum).bmod (2 ^ 64),
        (read.getLast?.map PlayValue.timeLength).or timeLength⟩ := by
  induction read generalizing macSet sum timeLength with
  | nil => simp
  | cons value rest ih =>
    have wrapped : addLong (sum.bmod (2 ^ 64)) value.playLength =
        (sum + value.playLength).bmod (2 ^ 64) := by
      simp [addLong]
    rw [List.foldl_cons, Totals.add, wrapped, ih, Totals.mk.injEq]
    refine ⟨?_, ?_, ?_⟩
    · simp
    · rw [List.map_cons, List.sum_cons, add_assoc]
    · cases last : rest.getLast? with
      | none => simp [List.getLast?_cons, last]
      | some value' => simp [List.getLast?_cons, last]

section
variable (digits) (group : String × List String)

/-- The values of a group, as they are read. -/
def playValues : List PlayValue := group.2.filterMap (readPlayValue digits)

def totalPL : Int := ((playValues digits group).map PlayValue.playLength).sum

def macSet : Finset String := ((playValues digits group).map PlayValue.devMac).toFinset

/-- The time length of the last value. -/
def lastTimeLength : String :=
  ((playValues digits group).getLast?.map PlayValue.timeLength).getD "null"

/-- The line that is written for a group. -/
def albumLine : String :=
  strJoin [group.1, toString ((totalPL digits group).bmod (2 ^ 64)),
    toString (setSize (macSet digits group)), lastTimeLength digits group]

end

/-- The values of a group are those of accepted lines, and are read as their fields. -/
theorem read_of_mem {lines : List String} {groups : List (String × List String)}
    (shuffled : Shuffle (written (job1Map digits otherC kind) lines) groups)
    {group : String × List String} (member : group ∈ groups) {value : String}
    (belongs : value ∈ group.2) :
    ∃ f ∈ acceptedLines digits otherC kind lines, f.key.keyMerge = group.1 ∧
      readPlayValue digits value = some ⟨f.devMac, f.timeLengthS, played digits f⟩ := by
  have found : (group.1, value) ∈ written (job1Map digits otherC kind) lines :=
    shuffled.mem_records.mpr ⟨group, member, rfl, belongs⟩
  rw [written_job1Map] at found
  obtain ⟨f, accept, same⟩ := List.mem_map.mp found
  obtain ⟨key, rfl⟩ := Prod.mk.inj same
  exact ⟨f, accept, key, readPlayValue_valueMerge (of_mem_acceptedLines accept).1⟩

/-- A group whose values can all be read is written as one line. -/
theorem job1Reduce_of_read {group : String × List String}
    (read : ∀ value ∈ group.2, (readPlayValue digits value).isSome) :
    job1Reduce digits group = some (albumLine digits group) := by
  have loop := foldlM_read read ⟨∅, (0 : Int).bmod (2 ^ 64), none⟩
  rw [foldl_add] at loop
  have start : (0 : Int).bmod (2 ^ 64) = 0 := by decide
  rw [start] at loop
  simp [job1Reduce, loop, albumLine, totalPL, macSet, lastTimeLength, playValues]

/-- No group of accepted lines fails the reduce. -/
theorem job1Reduce_eq {lines : List String} {groups : List (String × List String)}
    (shuffled : Shuffle (written (job1Map digits otherC kind) lines) groups)
    {group : String × List String} (member : group ∈ groups) :
    job1Reduce digits group = some (albumLine digits group) := by
  apply job1Reduce_of_read
  intro value belongs
  obtain ⟨f, _, _, found⟩ := read_of_mem shuffled member belongs
  rw [found]
  rfl

/-! ### The line of a group -/

/-- The group's key is the joined one; of its columns, the partner may have lost a
byte order mark. -/
structure Keyed (group : String × List String) (key : AlbumKey) : Prop where
  merged : group.1 = key.keyMerge
  partnerCode : BarFree key.partnerCode
  chn : Plain key.chn ∧ isLegal (some key.chn) = true
  albumName : Plain key.albumName ∧ isLegal (some key.albumName) = true
  albumId : Plain key.albumId

theorem keyed_of_checked {group : String × List String} {f : LogFields} (readable : Readable f)
    (checked : Checked f) (merged : f.key.keyMerge = group.1) : Keyed group f.key where
  merged := merged.symm
  partnerCode := readable.partnerCode.free
  chn := ⟨readable.chn, checked.chn⟩
  albumName := ⟨readable.albumName, checked.albumName⟩
  albumId := readable.albumId

/-- The group whose line comes first in its file, as the line is read. -/
def unmarkedGroup (group : String × List String) : String × List String :=
  (unmarked group.1, group.2)

def unmarkedKey (key : AlbumKey) : AlbumKey :=
  { key with partnerCode := unmarked key.partnerCode }

/-- The groups of a part file as their lines are read. -/
def asRead (groups : List (String × List String)) : List (String × List String) :=
  groups.modifyHead unmarkedGroup

theorem keyMerge_eq (key : AlbumKey) : key.keyMerge =
    strJoin₂ key.partnerCode (strJoin [key.chn, key.albumName, key.albumId]) := by
  rw [AlbumKey.keyMerge, AlbumKey.columns, strJoin_cons (List.cons_ne_nil _ _)]

theorem Keyed.unmarked {group : String × List String} {key : AlbumKey} (keyed : Keyed group key) :
    Keyed (unmarkedGroup group) (unmarkedKey key) where
  merged := by
    rw [unmarkedGroup, keyed.merged, keyMerge_eq, unmarked_strJoin₂, keyMerge_eq, unmarkedKey]
  partnerCode := barFree_unmarked keyed.partnerCode
  chn := keyed.chn
  albumName := keyed.albumName
  albumId := keyed.albumId

theorem albumLine_eq_strJoin₂ (group : String × List String) : albumLine digits group =
    strJoin₂ group.1 (strJoin [toString ((totalPL digits group).bmod (2 ^ 64)),
      toString (setSize (macSet digits group)), lastTimeLength digits group]) :=
  strJoin_cons (List.cons_ne_nil _ _)

theorem albumLine_unmarkedGroup (group : String × List String) :
    albumLine digits (unmarkedGroup group) = unmarked (albumLine digits group) := by
  rw [albumLine_eq_strJoin₂, albumLine_eq_strJoin₂, unmarked_strJoin₂]
  rfl

section
variable (digits) (key : AlbumKey) (group : String × List String)

/-- What `Job2` writes for a line. -/
def channelRecord : String × String :=
  (strJoin₂ (trim key.partnerCode) key.chn,
    strJoin [key.albumName, key.albumId, toString ((totalPL digits group).bmod (2 ^ 64)),
      toString (setSize (macSet digits group)), lastTimeLength digits group])

end

variable {group : String × List String} {key : AlbumKey}

theorem albumLine_eq (keyed : Keyed group key) : albumLine digits group =
    strJoin₂ key.partnerCode (strJoin [key.chn, key.albumName, key.albumId,
      toString ((totalPL digits group).bmod (2 ^ 64)), toString (setSize (macSet digits group)),
      lastTimeLength digits group]) := by
  have columns : key.columns ≠ [] := List.cons_ne_nil _ _
  rw [albumLine, keyed.merged, AlbumKey.keyMerge, strJoin_strJoin columns (List.cons_ne_nil _ _),
    AlbumKey.columns, List.cons_append, strJoin_cons (by simp)]
  rfl

theorem plain_tail (keyed : Keyed group key) (time : Plain (lastTimeLength digits group)) :
    ∀ column ∈ [key.chn, key.albumName, key.albumId,
      toString ((totalPL digits group).bmod (2 ^ 64)), toString (setSize (macSet digits group)),
      lastTimeLength digits group], Plain column := by
  simp only [List.mem_cons, List.not_mem_nil, or_false]
  rintro column (rfl | rfl | rfl | rfl | rfl | rfl)
  · exact keyed.chn.1
  · exact keyed.albumName.1
  · exact keyed.albumId
  · exact plain_toString _
  · exact plain_toString _
  · exact time

/-- `Job2` reads the seven columns, and drops the line if its partner is not legal
any more. -/
theorem job2Map_albumLine (keyed : Keyed group key) (time : Plain (lastTimeLength digits group)) :
    job2Map (albumLine digits group) =
      some (if isLegal (some (trim key.partnerCode)) then some (channelRecord digits key group)
        else none) := by
  have columns : strSplitTrim (albumLine digits group) = [trim key.partnerCode, key.chn,
      key.albumName, key.albumId, toString ((totalPL digits group).bmod (2 ^ 64)),
      toString (setSize (macSet digits group)), lastTimeLength digits group] := by
    rw [albumLine_eq keyed, strSplitTrim_strJoin₂ keyed.partnerCode,
      strSplitTrim_strJoin (List.cons_ne_nil _ _) (plain_tail keyed time)]
  simp only [job2Map, columns, List.getElem?_cons_zero, List.getElem?_cons_succ,
    Option.bind_eq_bind, Option.bind_some, isLegalField, List.map_cons, List.map_nil,
    List.all_cons, List.all_nil, isLegal_toString, keyed.chn.2, keyed.albumName.2, Bool.and_true]
  rfl

/-- The values of a group give its sum and its macs; only the time length can fail. -/
theorem readAlbumRecord_channelRecord (keyed : Keyed group key)
    (time : Plain (lastTimeLength digits group)) (nonempty : (macSet digits group).Nonempty) :
    (readAlbumRecord digits (channelRecord digits key group).2).isSome =
      (parseInt digits (lastTimeLength digits group)).isSome := by
  have columns : strSplitTrim (channelRecord digits key group).2 = [key.albumName, key.albumId,
      toString ((totalPL digits group).bmod (2 ^ 64)), toString (setSize (macSet digits group)),
      lastTimeLength digits group] :=
    strSplitTrim_strJoin (List.cons_ne_nil _ _) fun column member =>
      plain_tail keyed time column (List.mem_cons_of_mem _ member)
  have sum : parseLong digits (toString ((totalPL digits group).bmod (2 ^ 64))) =
      some ((totalPL digits group).bmod (2 ^ 64)) := by
    have low : longMin ≤ (totalPL digits group).bmod (2 ^ 64) := Int.le_bmod (by decide)
    have high := Int.bmod_lt (x := totalPL digits group) (m := 2 ^ 64) (by decide)
    exact parseLong_toString digits low (by unfold longMax; omega)
  have some_mac : 0 < ((macSet digits group).card : Int) := by
    exact_mod_cast Finset.card_pos.mpr nonempty
  have size_pos : 0 < setSize (macSet digits group) := lt_min some_mac (by decide)
  have size : parseInt digits (toString (setSize (macSet digits group))) =
      some (setSize (macSet digits group)) := by
    have low : intMin ≤ 0 := by decide
    exact parseInt_toString digits (low.trans size_pos.le) (min_le_right _ _)
  simp only [readAlbumRecord, columns, List.getElem?_cons_zero, List.getElem?_cons_succ,
    Option.bind_eq_bind, Option.bind_some, sum, size, dif_pos size_pos]
  cases parseInt digits (lastTimeLength digits group) <;> rfl

/-! ### Part files -/

/-- A group whose line `Job2` can take apart. -/
structure Sound (digits : CharacterDigit) (group : String × List String) : Prop where
  keyed : ∃ key, Keyed group key
  time : Plain (lastTimeLength digits group)
  timeLegal : isLegal (some (lastTimeLength digits group)) = true
  macs : (macSet digits group).Nonempty

section
variable {lines : List String} {groups : List (String × List String)}
  {tasks : List (List (String × List String))}

theorem playValues_ne_nil
    (shuffled : Shuffle (written (job1Map digits otherC kind) lines) groups)
    (member : group ∈ groups) : playValues digits group ≠ [] := by
  obtain ⟨value, belongs⟩ := List.exists_mem_of_ne_nil _ (shuffled.nonempty group member)
  obtain ⟨f, _, _, found⟩ := read_of_mem shuffled member belongs
  exact List.ne_nil_of_mem (List.mem_filterMap.mpr ⟨value, belongs, found⟩)

/-- The time length of a group is that of one of its lines. -/
theorem exists_lastTimeLength
    (shuffled : Shuffle (written (job1Map digits otherC kind) lines) groups)
    (member : group ∈ groups) :
    ∃ f ∈ acceptedLines digits otherC kind lines,
      f.key.keyMerge = group.1 ∧ lastTimeLength digits group = f.timeLengthS := by
  have some_value := playValues_ne_nil shuffled member
  obtain ⟨value, belongs, found⟩ := List.mem_filterMap.mp (List.getLast_mem some_value)
  obtain ⟨f, accept, merged, same⟩ := read_of_mem shuffled member belongs
  refine ⟨f, accept, merged, ?_⟩
  rw [lastTimeLength, List.getLast?_eq_some_getLast some_value, Option.map_some,
    Option.getD_some, ← Option.some.inj (same.symm.trans found)]

theorem macSet_nonempty
    (shuffled : Shuffle (written (job1Map digits otherC kind) lines) groups)
    (member : group ∈ groups) : (macSet digits group).Nonempty := by
  rw [macSet, List.toFinset_nonempty_iff, ne_eq, List.map_eq_nil_iff]
  exact playValues_ne_nil shuffled member

theorem sound_of_mem (shuffled : Shuffle (written (job1Map digits otherC kind) lines) groups)
    (member : group ∈ groups) : Sound digits group := by
  obtain ⟨f, accept, merged, same⟩ := exists_lastTimeLength shuffled member
  obtain ⟨readable, checked⟩ := of_mem_acceptedLines accept
  exact ⟨⟨f.key, keyed_of_checked readable checked merged⟩, same ▸ readable.timeLengthS,
    same ▸ checked.timeLengthS, macSet_nonempty shuffled member⟩

theorem Sound.unmarked (sound : Sound digits group) : Sound digits (unmarkedGroup group) := by
  obtain ⟨key, keyed⟩ := sound.keyed
  exact ⟨⟨unmarkedKey key, keyed.unmarked⟩, sound.time, sound.timeLegal, sound.macs⟩

/-- A line that is read is that of a group, perhaps without its mark. -/
theorem mem_asRead (member : group ∈ tasks.flatMap asRead) :
    ∃ original ∈ tasks.flatten, group = original ∨ group = unmarkedGroup original := by
  obtain ⟨file, found, belongs⟩ := List.mem_flatMap.mp member
  cases file with
  | nil => cases belongs
  | cons head tail =>
    rcases List.mem_cons.mp belongs with rfl | later
    · exact ⟨head, List.mem_flatten_of_mem found List.mem_cons_self, .inr rfl⟩
    · exact ⟨group, List.mem_flatten_of_mem found (List.mem_cons_of_mem _ later), .inl rfl⟩

theorem sound_of_mem_asRead
    (shuffled : Shuffle (written (job1Map digits otherC kind) lines) tasks.flatten)
    (member : group ∈ tasks.flatMap asRead) : Sound digits group := by
  obtain ⟨original, found, rfl | rfl⟩ := mem_asRead member
  · exact sound_of_mem shuffled found
  · exact (sound_of_mem shuffled found).unmarked

theorem closed_albumLine (sound : Sound digits group) :
    Closed (albumLine digits group).toList := by
  have nonempty : (lastTimeLength digits group).toList ≠ [] := by
    intro empty
    have legal := sound.timeLegal
    simp [isLegal, isBlank, empty] at legal
  rw [albumLine_eq_strJoin₂, strJoin_triple]
  exact closed_strJoin₂ _ (closed_strJoin₂ _ (closed_strJoin₂ _
    (closed_of_trim sound.time.trimmed nonempty)))

theorem breakFree_albumLine : BreakFree (albumLine digits group) ↔
    BreakFree group.1 ∧ BreakFree (lastTimeLength digits group) := by
  rw [albumLine, breakFree_strJoin (List.cons_ne_nil _ _)]
  simp [-Int.toString_eq_repr, breakFree_toString]

/-- What is read of a group's line. -/
def fragments (digits : CharacterDigit) (group : String × List String) : List String :=
  (linesFrom [] false (albumLine digits group).toList).map String.ofList

theorem fragments_of_breakFree (sound : Sound digits group)
    (free : BreakFree (albumLine digits group)) :
    fragments digits group = [albumLine digits group] := by
  obtain ⟨last, found, _⟩ := closed_albumLine sound
  have nonempty : (albumLine digits group).toList ≠ [] := by
    rintro empty
    rw [empty] at found
    cases found
  rw [fragments, linesFrom_of_breakFree free nonempty, List.nil_append, List.map_singleton,
    String.ofList_toList]

theorem job1Reduces_eq
    (shuffled : Shuffle (written (job1Map digits otherC kind) lines) tasks.flatten) :
    job1Reduces digits tasks =
      some (tasks.map fun groups => fileText (groups.map (albumLine digits))) := by
  refine stage_of_forall fun groups found => ?_
  have written : stage (fun group => (job1Reduce digits group).map some) groups =
      some (groups.map (albumLine digits)) := stage_of_forall fun group member => by
    rw [job1Reduce_eq shuffled (List.mem_flatten_of_mem found member), Option.map_some]
  rw [partFile, written, Option.map_some, Option.map_some]

theorem readLines_partFiles
    (shuffled : Shuffle (written (job1Map digits otherC kind) lines) tasks.flatten) :
    (tasks.map fun groups => fileText (groups.map (albumLine digits))).flatMap readLines =
      (tasks.flatMap asRead).flatMap (fragments digits) := by
  rw [List.flatMap_map, List.flatMap_assoc]
  refine List.flatMap_congr fun groups found => ?_
  have heads : (groups.map (albumLine digits)).modifyHead unmarked =
      (asRead groups).map (albumLine digits) := by
    cases groups with
    | nil => rfl
    | cons head tail => simp [asRead, albumLine_unmarkedGroup]
  have closed : ∀ value ∈ (asRead groups).map (albumLine digits), Closed value.toList := by
    intro value member
    obtain ⟨group, belongs, rfl⟩ := List.mem_map.mp member
    exact closed_albumLine (sound_of_mem_asRead shuffled (List.mem_flatMap.mpr ⟨_, found, belongs⟩))
  rw [readLines_fileText (heads ▸ closed), heads, List.flatMap_map]
  rfl

/-- Unbroken lines are mapped one by one. -/
theorem job2Maps_of_breakFree
    (shuffled : Shuffle (written (job1Map digits otherC kind) lines) tasks.flatten)
    (unbroken : ∀ group ∈ tasks.flatMap asRead, BreakFree (albumLine digits group)) :
    job2Maps (tasks.map fun groups => fileText (groups.map (albumLine digits))) =
      some (written (fun group => job2Map (albumLine digits group)) (tasks.flatMap asRead)) := by
  have alone : (tasks.flatMap asRead).flatMap (fragments digits) =
      (tasks.flatMap asRead).map (albumLine digits) := by
    rw [List.map_eq_flatMap]
    refine List.flatMap_congr fun group member => ?_
    exact fragments_of_breakFree (sound_of_mem_asRead shuffled member) (unbroken group member)
  rw [job2Maps, readLines_partFiles shuffled, alone, stage_map]
  refine stage_eq_some_iff.mpr ⟨fun group member => ?_, rfl⟩
  have sound := sound_of_mem_asRead shuffled member
  obtain ⟨key, keyed⟩ := sound.keyed
  simp [job2Map_albumLine keyed sound.time]

end

/-! ### A line of the log -/

/-- The columns of a vod log with these fields. -/
def playColumns (f : LogFields) : List String :=
  ["AH", "4.4", "2017", f.actionS, "1", f.devMac, f.partnerCode, "8", "9", "10", "11",
    f.timeLengthS, f.playLengthS, f.albumId, f.albumName, "16", "17", f.chn, "19", "20", "21",
    "22", "23", "24", "25", "26", f.playTypeS] ++ List.replicate 17 ""

def playLine (f : LogFields) : String := strJoin (playColumns f)

/-- One play of the news, with its action and its time length. -/
def newsFields (action timeLength : String) : LogFields :=
  ⟨action, "00:22:6d:00:01:f3", "AH_CMCC", timeLength, "20", "1002", "新闻联播", "CCTV-1", "1"⟩

def newsLine (action timeLength : String) : String := playLine (newsFields action timeLength)

/-- Its group, with its time length and the seconds that count. -/
def newsGroup (timeLength seconds : String) : String × List String :=
  ("AH_CMCC|CCTV-1|新闻联播|1002", [strJoin ["00:22:6d:00:01:f3", timeLength, seconds]])

/-- Every column is visible text. -/
def Visible (strs : List String) : Bool :=
  strs.all fun s => s.toList.all fun c => c != '|' && !guavaWhitespace c

theorem visible_iff {strs : List String} : Visible strs = true ↔
    ∀ s ∈ strs, ∀ c ∈ s.toList, c ≠ '|' ∧ guavaWhitespace c = false := by
  simp [Visible]

section
variable {f : LogFields} (visible : Visible (playColumns f) = true)
include visible

theorem breakFree_play : BreakFree (playLine f) := by
  refine (breakFree_strJoin (List.cons_ne_nil _ _)).mpr fun s member c belongs => ?_
  exact isBreak_of_visible (visible_iff.mp visible s member c belongs).2

variable (clean : pt.removeFrom ((noSeePattern fun _ => false).removeFrom f.albumName) =
  f.albumName)
include clean

theorem fields_play : vod.fields (fun _ => false) (strSplitTrim (playLine f)) = some f := by
  have nonempty : playColumns f ≠ [] := List.cons_ne_nil _ _
  have read : vod.fields (fun _ => false) (playColumns f) = some { f with
      albumName := pt.removeFrom ((noSeePattern fun _ => false).removeFrom f.albumName) } := rfl
  rw [playLine, strSplitTrim_strJoin nonempty fun s member =>
    plain_of_visible (visible_iff.mp visible s member), read, clean]

theorem accepted_play :
    accepted asciiDigit (fun _ => false) .vod (playLine f) =
      if vod.isLegal f && selected asciiDigit f then some f else none := by
  rw [accepted, Kind.layout, fields_play visible clean, Option.filter_some]

end

/-- Two plays of the news and one of a series. -/
def eveningFields : List LogFields :=
  [newsFields "5" "30",
    ⟨"5", "00:22:6d:00:01:f3", "AH_CMCC", "45", "60", "1003", "琅琊榜", "CCTV-1", "1"⟩,
    ⟨"5", "00:22:6d:00:01:f4", "AH_CMCC", "30", "25", "1002", "新闻联播", "CCTV-1", "1"⟩]

def eveningLines : List String := eveningFields.map playLine

/-- The groups of the two reduce tasks. -/
def eveningTasks : List (List (String × List String)) :=
  [[("AH_CMCC|CCTV-1|琅琊榜|1003", ["00:22:6d:00:01:f3|45|45"])],
    [("AH_CMCC|CCTV-1|新闻联播|1002", ["00:22:6d:00:01:f4|30|25", "00:22:6d:00:01:f3|30|20"])]]

theorem visible_evening : ∀ f ∈ eveningFields, Visible (playColumns f) = true := by decide

theorem clean_evening : ∀ f ∈ eveningFields,
    pt.removeFrom ((noSeePattern fun _ => false).removeFrom f.albumName) = f.albumName := by
  decide

theorem breakFree_evening : ∀ line ∈ eveningLines, BreakFree line := by
  intro line member
  obtain ⟨f, belongs, rfl⟩ := List.mem_map.mp member
  exact breakFree_play (visible_evening f belongs)

theorem acceptedLines_evening :
    acceptedLines asciiDigit (fun _ => false) .vod eveningLines = eveningFields := by
  have accept : ∀ f ∈ eveningFields,
      (accepted asciiDigit (fun _ => false) .vod ∘ playLine) f = some f := by
    intro f member
    have legal : ∀ f ∈ eveningFields, (vod.isLegal f && selected asciiDigit f) = true := by decide
    rw [Function.comp_apply, accepted_play (visible_evening f member) (clean_evening f member),
      if_pos (legal f member)]
  rw [acceptedLines, eveningLines, List.filterMap_map, List.filterMap_congr accept]
  exact List.filterMap_some

theorem shuffle_evening : Shuffle (written (job1Map asciiDigit (fun _ => false) .vod) eveningLines)
    eveningTasks.flatten where
  keys_nodup := by decide
  nonempty := by decide
  perm := by
    rw [written_job1Map, acceptedLines_evening]
    decide

theorem allParse_evening : AllParse asciiDigit (fun _ => false) .vod eveningLines := by
  intro line member f read _
  obtain ⟨g, belongs, rfl⟩ := List.mem_map.mp member
  rw [Kind.layout, fields_play (visible_evening g belongs) (clean_evening g belongs)] at read
  cases read
  have parses : ∀ f ∈ eveningFields, Parses asciiDigit f := by decide
  exact parses f belongs

end GitvTime.Guarantees.Viscosity.AlbumRecords
