import GitvTime.Guarantees.Hdfs.ResumedReading
import GitvTime.Source.Hdfs.FileLock
import GitvTime.Support.Runs

/-!
# What a lock file says after a crash

The writes into a lock file may be cut off anywhere. The progress of a whole line is not
lost to a cut, since a part of a later line either throws or says how far that line was. A
part that throws, however, is never taken over, and a spout that takes over does not see
what the old owner has written since it looked.
-/
namespace GitvTime.Guarantees.Hdfs.LockEntries
open GitvTime.Support GitvTime.Source.Numbers GitvTime.Source.SplitText GitvTime.Source.TextFiles
open GitvTime.Source.Hdfs.TextFileReader GitvTime.Source.Hdfs.FileLock ResumedReading

variable {digits : CharacterDigit} {entry read : LogEntry} {s s' : State}

/-- The id of a component, which `writeBytes` writes as it is. -/
def PlainId (spoutId : String) : Prop :=
  ∀ c ∈ spoutId.toList, c ≠ ',' ∧ isBreak c = false ∧ c.toNat < 128

instance (spoutId : String) : Decidable (PlainId spoutId) :=
  List.decidableBAll _ _

theorem toList_entry (entry : LogEntry) : entry.toString.toList =
    (toString entry.eventTime).toList ++
      ',' :: (entry.componentID.toList ++ ',' :: entry.fileOffset.toList) := by
  simp [LogEntry.toString, String.toList_append]

theorem entry_ne_nil (entry : LogEntry) : entry.toString.toList ≠ [] := by
  rw [toList_entry]
  simp

theorem commaFree_toString (x : Int) : ',' ∉ (toString x).toList := fun member =>
  ne_of_mem_toString member (by decide) (by decide) rfl

theorem PlainId.commaFree {spoutId : String} (plain : PlainId spoutId) :
    ',' ∉ spoutId.toList := fun member => (plain ',' member).1 rfl

theorem breakFree_entry (plain : PlainId entry.componentID)
    (free : BreakFree entry.fileOffset) : ∀ c ∈ entry.toString.toList, isBreak c = false := by
  intro c member
  rw [toList_entry] at member
  rcases List.mem_append.mp member with time | member
  · exact breakFree_toString _ c time
  · rcases List.mem_cons.mp member with rfl | member
    · rfl
    · rcases List.mem_append.mp member with id | member
      · exact (plain c id).2.1
      · rcases List.mem_cons.mp member with rfl | offset
        · rfl
        · exact free c offset

/-- A part of a text ends in front of a character of it or goes beyond. -/
theorem prefix_cases {front behind tail : List Char} {c : Char}
    (within : tail <+: front ++ c :: behind) :
    tail <+: front ∨ ∃ part, tail = front ++ c :: part ∧ part <+: behind := by
  rcases List.prefix_or_prefix_of_prefix within (List.prefix_append front (c :: behind)) with
    inside | ⟨rest, rfl⟩
  · exact .inl inside
  · have beyond := (List.prefix_append_right_inj front).mp within
    rcases List.prefix_cons_iff.mp beyond with rfl | ⟨part, rfl, behind_cut⟩
    · rw [List.append_nil]
      exact .inl List.prefix_rfl
    · exact .inr ⟨part, rfl, behind_cut⟩

/-- A part of an entry that can be read goes beyond its second comma. -/
theorem deserialize_part (plain : PlainId entry.componentID) {tail : List Char}
    (within : tail <+: entry.toString.toList)
    (found : LogEntry.deserialize digits (String.ofList tail) = some read) :
    ∃ offset, tail = (toString entry.eventTime).toList ++
        ',' :: (entry.componentID.toList ++ ',' :: offset) ∧
      offset <+: entry.fileOffset.toList ∧ read.fileOffset = String.ofList offset := by
  have free := commaFree_toString entry.eventTime
  rw [toList_entry] at within
  rcases prefix_cases within with time | ⟨part, rfl, behind⟩
  · have free' : ',' ∉ tail := fun member => free (time.subset member)
    simp [LogEntry.deserialize, splitLimit_one free'] at found
  · rcases prefix_cases behind with id | ⟨offset, rfl, cut_off⟩
    · have free' : ',' ∉ part := fun member => plain.commaFree (id.subset member)
      rw [LogEntry.deserialize, splitLimit_two free free'] at found
      simp at found
    · rw [LogEntry.deserialize, splitLimit_three free plain.commaFree] at found
      simp only [List.getElem?_cons_zero, List.getElem?_cons_succ, Option.bind_eq_bind,
        Option.bind_some] at found
      obtain ⟨time, _, same⟩ := Option.bind_eq_some_iff.mp found
      cases same
      exact ⟨offset, rfl, cut_off, rfl⟩

theorem offset_part (plain : PlainId entry.componentID) {tail : List Char}
    (within : tail <+: entry.toString.toList)
    (found : LogEntry.deserialize digits (String.ofList tail) = some read) :
    read.fileOffset.toList <+: entry.fileOffset.toList := by
  obtain ⟨offset, _, cut_off, same⟩ := deserialize_part plain within found
  rw [same, String.toList_ofList]
  exact cut_off

/-- Cut off behind the second comma, an entry can be read. -/
theorem deserialize_cut (plain : PlainId entry.componentID)
    (low : longMin ≤ entry.eventTime) (high : entry.eventTime ≤ longMax) (offset : List Char) :
    LogEntry.deserialize digits (String.ofList ((toString entry.eventTime).toList ++
        ',' :: (entry.componentID.toList ++ ',' :: offset))) =
      some ⟨entry.eventTime, entry.componentID, String.ofList offset⟩ := by
  rw [LogEntry.deserialize,
    splitLimit_three (commaFree_toString entry.eventTime) plain.commaFree]
  simp only [List.getElem?_cons_zero, List.getElem?_cons_succ, Option.bind_eq_bind,
    Option.bind_some, String.ofList_toList, parseLong_toString digits low high]

theorem Cut.apply_prefix (cut : Cut) (line : List Char) : cut.apply line <+: line := by
  cases cut with
  | none => exact List.prefix_rfl
  | some count => exact List.take_prefix count line

/-- Behind an append the last entry is the one before it, or a part of the new one. -/
theorem getLastEntry_append (plain : PlainId entry.componentID)
    (free : BreakFree entry.fileOffset) (text : List Char) (cut : Cut)
    (found : getLastEntry digits (text ++ cut.apply ('\n' :: entry.toString.toList)) =
      some read) :
    getLastEntry digits text = some read ∨
      read.fileOffset.toList <+: entry.fileOffset.toList := by
  obtain ⟨line, last, found⟩ := Option.bind_eq_some_iff.mp found
  rcases lastLine_part text (breakFree_entry plain free) (Cut.apply_prefix cut _) with
    same | ⟨tail, within, cut_off⟩
  · left
    exact Option.bind_eq_some_iff.mpr ⟨line, same.symm.trans last, found⟩
  · right
    cases cut_off.symm.trans last
    exact offset_part plain within found

/-! ### Offsets -/

theorem breakFree_offset (offset : Offset) : BreakFree offset.toString := by
  have chars : BreakFree "\x7bchar=" := by decide
  have lines : BreakFree "line=" := by decide
  intro c member
  rw [ResumedReading.toList_toString] at member
  simp only [List.mem_append, List.mem_cons, List.not_mem_nil, or_false] at member
  rcases member with (name | number) | rfl | (name | number) | rfl | rfl
  · exact chars c name
  · exact breakFree_toString _ c number
  · rfl
  · exact lines c name
  · exact breakFree_toString _ c number
  · rfl
  · rfl

/-- A part of an offset that can be read has all of its characters counted. -/
theorem parse_part {offset position : Offset} {text : String}
    (within : text.toList <+: offset.toString.toList)
    (parsed : Offset.parse digits text = some position) :
    position.charOffset = offset.charOffset := by
  have free : ':' ∉ "\x7bchar=".toList ++ (toString offset.charOffset).toList := by
    intro member
    rcases List.mem_append.mp member with name | number
    · exact absurd name (by decide)
    · exact ne_of_mem_toString number (by decide) (by decide) rfl
  have not_zero : text ≠ "0" := by
    rintro rfl
    rw [ResumedReading.toList_toString] at within
    exact absurd (List.cons_prefix_cons.mp within).1 (by decide)
  rw [Offset.parse, if_neg not_zero] at parsed
  simp only [Option.bind_eq_bind, Option.bind_eq_some_iff, Option.some.injEq] at parsed
  obtain ⟨chars, first, lines, second, rfl⟩ := parsed
  rw [ResumedReading.toList_toString] at within
  rcases prefix_cases within with inside | ⟨part, whole, _⟩
  · have unsplit : ':' ∉ text.toList := fun member => free (inside.subset member)
    rw [split, if_neg unsplit] at second
    cases second
  · have front : split ':' text <+:
        ((("\x7bchar=".toList ++ (toString offset.charOffset).toList) :: part.splitOn ':').map
          String.ofList) := by
      rw [split, if_pos (whole ▸ by simp), whole, List.splitOn_append_cons_self_of_not_mem free]
      exact (List.rdropWhile_prefix _ _).map _
    obtain ⟨piece, found, first⟩ := Option.bind_eq_some_iff.mp first
    obtain ⟨value, number, first⟩ := Option.bind_eq_some_iff.mp first
    obtain ⟨nonempty, is_piece⟩ := List.getElem?_eq_some_iff.mp found
    have same := List.prefix_iff_getElem?.mp front 0 nonempty
    rw [is_piece] at same
    cases same
    rw [show "\x7bchar=".toList = "\x7bchar".toList ++ ['='] from rfl, List.append_assoc,
      List.singleton_append, split_part (by decide)] at number
    cases number
    obtain ⟨parsed, _⟩ := Option.filter_eq_some_iff.mp first
    exact Option.some.inj (parsed.symm.trans (parseSigned_toString digits _))

/-! ### Runs -/

/-- The id of a spout that takes over. -/
def PlainAction : Action → Prop
  | .takeOwnership _ spoutId _ => PlainId spoutId
  | _ => True

/-- The offsets of the heartbeats. -/
def offsets (actions : List Action) : List Offset := actions.flatMap fun
  | .heartbeat _ fileOffset _ => [fileOffset]
  | _ => []

theorem offsets_cons (action : Action) (rest : List Action) :
    offsets (action :: rest) = offsets [action] ++ offsets rest := by
  simp [offsets]

/-- The offset is one of `positions`, or a part of one. -/
def PartOf (positions : List Offset) (fileOffset : String) : Prop :=
  ∃ position ∈ positions, fileOffset.toList <+: position.toString.toList

/-- The last entry, if it can be read, has a part of one of `positions`. -/
def Reads (digits : CharacterDigit) (positions : List Offset) (lockFile : List Char) : Prop :=
  ∀ read, getLastEntry digits lockFile = some read → PartOf positions read.fileOffset

theorem PartOf.breakFree {positions : List Offset} {fileOffset : String}
    (part : PartOf positions fileOffset) : BreakFree fileOffset := by
  obtain ⟨position, _, within⟩ := part
  exact fun c member => breakFree_offset position c (within.subset member)

theorem PartOf.mono {positions positions' : List Offset} {fileOffset : String}
    (part : PartOf positions fileOffset) (more : positions ⊆ positions') :
    PartOf positions' fileOffset := by
  obtain ⟨position, member, within⟩ := part
  exact ⟨position, more member, within⟩

theorem Reads.mono {positions positions' : List Offset} {lockFile : List Char}
    (reads : Reads digits positions lockFile) (more : positions ⊆ positions') :
    Reads digits positions' lockFile :=
  fun read found => (reads read found).mono more

theorem Reads.append {positions : List Offset} {lockFile : List Char}
    (reads : Reads digits positions lockFile) (entry : LogEntry) (plain : PlainId entry.componentID)
    (part : PartOf positions entry.fileOffset) (cut : Cut) :
    Reads digits positions (lockFile ++ cut.apply ('\n' :: entry.toString.toList)) := by
  intro read found
  rcases getLastEntry_append plain part.breakFree lockFile cut found with before | cut_off
  · exact reads read before
  · obtain ⟨position, member, within⟩ := part
    exact ⟨position, member, cut_off.trans within⟩

/-- Behind a whole line there is nothing else to read. -/
theorem reads_line (entry : LogEntry) {offset : Offset} (plain : PlainId entry.componentID)
    (same : entry.fileOffset = offset.toString) (lockFile : List Char) :
    Reads digits [offset] (lockFile ++ '\n' :: entry.toString.toList) := by
  have free : BreakFree entry.fileOffset := same ▸ breakFree_offset offset
  intro read found
  obtain ⟨line, last, found⟩ := Option.bind_eq_some_iff.mp found
  cases (lastLine_line lockFile (breakFree_entry plain free) (entry_ne_nil entry)).symm.trans last
  exact ⟨offset, List.mem_singleton_self _,
    same ▸ offset_part plain List.prefix_rfl found⟩

structure Inv (digits : CharacterDigit) (positions : List Offset) (s : State) : Prop where
  plain : ∀ spoutId ∈ s.owner, PlainId spoutId
  reads : Reads digits positions s.lockFile
  found : ∀ lastEntry ∈ s.found, PartOf positions lastEntry.fileOffset

theorem Inv.mono {positions positions' : List Offset} (inv : Inv digits positions s)
    (more : positions ⊆ positions') : Inv digits positions' s :=
  ⟨inv.plain, inv.reads.mono more, fun lastEntry found => (inv.found lastEntry found).mono more⟩

theorem Inv.heartbeat {positions : List Offset} (inv : Inv digits positions s) {now : Int}
    {fileOffset : Offset} {cut : Cut} (taken : s.heartbeat now fileOffset cut = some s') :
    Inv digits (positions ++ [fileOffset]) s' := by
  obtain ⟨spoutId, owned, rfl⟩ := Option.map_eq_some_iff.mp taken
  have before := inv.mono (List.subset_append_left positions [fileOffset])
  refine ⟨inv.plain, ?_, before.found⟩
  exact before.reads.append ⟨now, spoutId, fileOffset.toString⟩ (inv.plain spoutId owned)
    ⟨fileOffset, by simp, List.prefix_rfl⟩ cut

/-- The entry that was found is the last one. -/
theorem getLastEntryIfStale_some {lockFile : List Char} {modifiedTime olderThan : Int}
    (found : getLastEntryIfStale digits lockFile modifiedTime olderThan = some (some read)) :
    getLastEntry digits lockFile = some read := by
  unfold getLastEntryIfStale at found
  split at found
  case isTrue =>
    obtain ⟨lastEntry, last, stale⟩ := Option.map_eq_some_iff.mp found
    split at stale
    case isTrue =>
      cases stale
      exact last
    case isFalse => cases stale
  case isFalse => cases found

theorem Inv.find {positions : List Offset} (inv : Inv digits positions s)
    {modifiedTime olderThan : Int} (taken : s.find digits modifiedTime olderThan = some s') :
    Inv digits positions s' := by
  obtain ⟨stale, found, rfl⟩ := Option.map_eq_some_iff.mp taken
  refine ⟨inv.plain, inv.reads, fun lastEntry is_stale => ?_⟩
  cases is_stale
  exact inv.reads lastEntry (getLastEntryIfStale_some found)

theorem takeOwnership_cases {now : Int} {spoutId : String} {cut : Cut}
    (taken : s.takeOwnership now spoutId cut = some s') :
    ∃ lastEntry, s.owner = none ∧ s.found = some lastEntry ∧
      s' = { s.construct ⟨now, spoutId, lastEntry.fileOffset⟩ true cut with found := none } := by
  unfold State.takeOwnership at taken
  split at taken
  case h_1 lastEntry dead found =>
    cases taken
    exact ⟨lastEntry, dead, found, rfl⟩
  case h_2 => cases taken

theorem Inv.takeOwnership {positions : List Offset} (inv : Inv digits positions s) {now : Int}
    {spoutId : String} (plain : PlainId spoutId) {cut : Cut}
    (taken : s.takeOwnership now spoutId cut = some s') : Inv digits positions s' := by
  obtain ⟨lastEntry, _, found, rfl⟩ := takeOwnership_cases taken
  let entry : LogEntry := ⟨now, spoutId, lastEntry.fileOffset⟩
  have part : PartOf positions entry.fileOffset := inv.found lastEntry found
  refine ⟨fun owner owned => ?_, inv.reads.append entry plain part cut, fun _ none_found => ?_⟩
  · cases cut with
    | none =>
      cases owned
      exact plain
    | some count => cases owned
  · cases none_found

theorem Inv.step {positions : List Offset} (inv : Inv digits positions s) {action : Action}
    (plain : PlainAction action) (taken : s.step digits action = some s') :
    Inv digits (positions ++ offsets [action]) s' := by
  have kept := List.subset_append_left positions (offsets [action])
  cases action with
  | heartbeat now fileOffset cut => exact inv.heartbeat taken
  | dies =>
    obtain ⟨spoutId, _, rfl⟩ := Option.map_eq_some_iff.mp taken
    refine ⟨fun owner owned => ?_, (inv.mono kept).reads, (inv.mono kept).found⟩
    cases owned
  | find modifiedTime olderThan => exact (inv.find taken).mono kept
  | takeOwnership now spoutId cut => exact (inv.takeOwnership plain taken).mono kept

theorem Inv.run {positions : List Offset} (inv : Inv digits positions s) {actions : List Action}
    (plain : ∀ action ∈ actions, PlainAction action)
    (ran : runSteps (State.step digits) s actions = some s') :
    Inv digits (positions ++ offsets actions) s' := by
  induction actions generalizing positions s with
  | nil =>
    cases ran
    exact inv.mono (List.subset_append_left _ _)
  | cons action rest ih =>
    obtain ⟨next, taken, ran⟩ := Option.bind_eq_some_iff.mp ran
    have whole := ih (inv.step (plain action List.mem_cons_self) taken)
      (fun later member => plain later (List.mem_cons_of_mem _ member)) ran
    rw [List.append_assoc, ← offsets_cons] at whole
    exact whole

/-- The progress of a whole heartbeat is not lost, unless a stale entry has been found
before: whatever later writes are cut off and whoever takes over, a last entry that can be
read goes on from it or from a later one. -/
theorem progress_kept (digits : CharacterDigit) {s s' : State} {spoutId : String} {now : Int}
    {offset position : Offset} {actions : List Action} {entry : LogEntry}
    (owned : s.owner = some spoutId) (plainId : PlainId spoutId) (not_found : s.found = none)
    (plain : ∀ action ∈ actions, PlainAction action)
    (ran : runSteps (State.step digits) s (.heartbeat now offset none :: actions) = some s')
    (last : getLastEntry digits s'.lockFile = some entry)
    (parsed : Offset.parse digits entry.fileOffset = some position) :
    ∃ later ∈ offset :: offsets actions, position.charOffset = later.charOffset := by
  obtain ⟨next, taken, ran⟩ := Option.bind_eq_some_iff.mp ran
  obtain ⟨owner, owned', rfl⟩ := Option.map_eq_some_iff.mp taken
  cases owned.symm.trans owned'
  have inv : Inv digits [offset] (s.logProgress ⟨now, spoutId, offset.toString⟩ true none) := by
    refine ⟨fun owner owned' => ?_, ?_, fun _ found => ?_⟩
    · cases owned.symm.trans owned'
      exact plainId
    · exact reads_line ⟨now, spoutId, offset.toString⟩ plainId rfl s.lockFile
    · cases not_found.symm.trans found
  obtain ⟨later, member, within⟩ := (inv.run plain ran).reads entry last
  exact ⟨later, member, parse_part within parsed⟩

/-- A heartbeat, a part of another one, and a spout that takes over from the dead one. -/
theorem progress_kept_two : ∃ entry position, ∃ s' : State,
    runSteps (State.step asciiDigit) (State.tryLock 5 "s" none)
        [.heartbeat 6 ⟨12, 34⟩ none, .heartbeat 7 ⟨20, 40⟩ (some 20), .dies, .find 7 7,
          .takeOwnership 9 "t" none] = some s' ∧
      getLastEntry asciiDigit s'.lockFile = some entry ∧
      Offset.parse asciiDigit entry.fileOffset = some position ∧
      ∃ later ∈ [(⟨12, 34⟩ : Offset), ⟨20, 40⟩], position.charOffset = later.charOffset := by
  let lockFile := "5,s,0\n6,s,\x7bchar=12:line=34:\x7d\n7,s,\x7bchar=20:line=4" ++
    "\n9,t,\x7bchar=20:line=4"
  have ran : runSteps (State.step asciiDigit) (State.tryLock 5 "s" none)
      [.heartbeat 6 ⟨12, 34⟩ none, .heartbeat 7 ⟨20, 40⟩ (some 20), .dies, .find 7 7,
        .takeOwnership 9 "t" none] = some ⟨lockFile.toList, some "t", none⟩ := by
    decide +kernel
  have last : getLastEntry asciiDigit lockFile.toList =
      some ⟨9, "t", "\x7bchar=20:line=4"⟩ := by decide +kernel
  have parsed : Offset.parse asciiDigit "\x7bchar=20:line=4" = some ⟨20, 4⟩ := by decide +kernel
  have plain : ∀ action ∈ [Action.heartbeat 7 ⟨20, 40⟩ (some 20), .dies, .find 7 7,
      .takeOwnership 9 "t" none], PlainAction action := by
    refine List.forall_mem_cons.mpr ⟨trivial, List.forall_mem_cons.mpr ⟨trivial, ?_⟩⟩
    refine List.forall_mem_cons.mpr ⟨trivial, List.forall_mem_singleton.mpr ?_⟩
    exact (show PlainId "t" by decide)
  have kept := progress_kept asciiDigit rfl (by decide) rfl plain ran last parsed
  exact ⟨_, _, _, ran, last, parsed, kept⟩

/-! ### Heartbeats behind a find -/

/-- What an owner may still do while its lock has been found stale. -/
def ByOwner : Action → Prop
  | .heartbeat _ _ _ => True
  | .dies => True
  | _ => False

theorem found_step {action : Action} (byOwner : ByOwner action)
    (taken : s.step digits action = some s') : s'.found = s.found := by
  cases action with
  | heartbeat now fileOffset cut =>
    obtain ⟨spoutId, _, rfl⟩ := Option.map_eq_some_iff.mp taken
    rfl
  | dies =>
    obtain ⟨spoutId, _, rfl⟩ := Option.map_eq_some_iff.mp taken
    rfl
  | find modifiedTime olderThan => exact byOwner.elim
  | takeOwnership now spoutId cut => exact byOwner.elim

/-- The entry that was found is written again behind whatever its owner has written. -/
theorem taken_over_with {lastEntry : LogEntry} {actions : List Action} {now : Int}
    {spoutId : String} (found : s.found = some lastEntry)
    (byOwner : ∀ action ∈ actions, ByOwner action)
    (ran : runSteps (State.step digits) s (actions ++ [.takeOwnership now spoutId none]) =
      some s') :
    ∃ front, s'.lockFile = front ++
      '\n' :: (⟨now, spoutId, lastEntry.fileOffset⟩ : LogEntry).toString.toList := by
  induction actions generalizing s with
  | nil =>
    obtain ⟨next, taken, ran⟩ := Option.bind_eq_some_iff.mp ran
    cases ran
    obtain ⟨entry, _, found', rfl⟩ := takeOwnership_cases taken
    cases found.symm.trans found'
    exact ⟨s.lockFile, rfl⟩
  | cons action rest ih =>
    obtain ⟨next, taken, ran⟩ := Option.bind_eq_some_iff.mp ran
    have kept := found_step (byOwner action List.mem_cons_self) taken
    exact ih (kept.trans found)
      (fun later member => byOwner later (List.mem_cons_of_mem _ member)) ran

theorem breakFree_last {lockFile : List Char} (last : getLastEntry digits lockFile = some read) :
    BreakFree read.fileOffset := by
  obtain ⟨line, is_last, readable⟩ := Option.bind_eq_some_iff.mp last
  have nothing : ∀ c ∈ ([] : List Char), isBreak c = false := fun c inside => by cases inside
  have free := breakFree_of_mem_linesFrom nothing (List.mem_of_getLast? is_last)
  obtain ⟨first, _, readable⟩ := Option.bind_eq_some_iff.mp readable
  obtain ⟨second, _, readable⟩ := Option.bind_eq_some_iff.mp readable
  obtain ⟨third, is_third, readable⟩ := Option.bind_eq_some_iff.mp readable
  obtain ⟨time, _, same⟩ := Option.bind_eq_some_iff.mp readable
  cases same
  have within := subset_of_mem_splitLimit (List.mem_of_getElem? is_third)
  rw [String.toList_ofList] at within
  exact fun c inside => free c (within inside)

/-- A whole line is read back. -/
theorem getLastEntry_line (entry : LogEntry) (plain : PlainId entry.componentID)
    (free : BreakFree entry.fileOffset) (low : longMin ≤ entry.eventTime)
    (high : entry.eventTime ≤ longMax) (lockFile : List Char) :
    getLastEntry digits (lockFile ++ '\n' :: entry.toString.toList) = some entry := by
  rw [getLastEntry, lastLine_line lockFile (breakFree_entry plain free) (entry_ne_nil entry),
    Option.bind_eq_bind, Option.bind_some, toList_entry, deserialize_cut plain low high,
    String.ofList_toList]

/-- What an owner writes between the find of its stale lock and the takeover is undone: the
last entry has the offset that was found. -/
theorem late_heartbeats_undone (digits : CharacterDigit) {s s' : State} {lastEntry : LogEntry}
    {modifiedTime olderThan now : Int} {spoutId : String} {actions : List Action}
    (stale : getLastEntryIfStale digits s.lockFile modifiedTime olderThan = some (some lastEntry))
    (byOwner : ∀ action ∈ actions, ByOwner action) (plainId : PlainId spoutId)
    (low : longMin ≤ now) (high : now ≤ longMax)
    (ran : runSteps (State.step digits) s
      (.find modifiedTime olderThan :: (actions ++ [.takeOwnership now spoutId none])) = some s') :
    getLastEntry digits s'.lockFile = some ⟨now, spoutId, lastEntry.fileOffset⟩ := by
  obtain ⟨next, taken, ran⟩ := Option.bind_eq_some_iff.mp ran
  obtain ⟨found, looked, rfl⟩ := Option.map_eq_some_iff.mp taken
  cases stale.symm.trans looked
  obtain ⟨front, whole⟩ := taken_over_with rfl byOwner ran
  have free := breakFree_last (getLastEntryIfStale_some stale)
  rw [whole]
  exact getLastEntry_line ⟨now, spoutId, lastEntry.fileOffset⟩ plainId free low high front

/-- The owner comes back for one heartbeat, which the spout that takes over has not read. -/
theorem late_heartbeats_undone_one : ∃ s' : State,
    runSteps (State.step asciiDigit) (State.tryLock 5 "s" none)
        [.heartbeat 6 ⟨12, 34⟩ none, .find 7 7, .heartbeat 8 ⟨20, 40⟩ none, .dies,
          .takeOwnership 9 "t" none] = some s' ∧
      getLastEntry asciiDigit s'.lockFile = some ⟨9, "t", "\x7bchar=12:line=34:\x7d"⟩ := by
  let before := "5,s,0\n6,s,\x7bchar=12:line=34:\x7d"
  let after := before ++ "\n8,s,\x7bchar=20:line=40:\x7d\n9,t,\x7bchar=12:line=34:\x7d"
  have stale : getLastEntryIfStale asciiDigit before.toList 7 7 =
      some (some ⟨6, "s", "\x7bchar=12:line=34:\x7d"⟩) := by decide +kernel
  have ran : runSteps (State.step asciiDigit) ⟨before.toList, some "s", none⟩
      (.find 7 7 :: ([.heartbeat 8 ⟨20, 40⟩ none, .dies] ++ [.takeOwnership 9 "t" none])) =
        some ⟨after.toList, some "t", none⟩ := by
    decide +kernel
  have byOwner : ∀ action ∈ [Action.heartbeat 8 ⟨20, 40⟩ none, .dies], ByOwner action :=
    List.forall_mem_cons.mpr ⟨trivial, List.forall_mem_singleton.mpr trivial⟩
  have start : runSteps (State.step asciiDigit) (State.tryLock 5 "s" none)
      [.heartbeat 6 ⟨12, 34⟩ none] = some ⟨before.toList, some "s", none⟩ := by decide +kernel
  refine ⟨_, runSteps_append start ran, ?_⟩
  exact late_heartbeats_undone asciiDigit stale byOwner (by decide) (by decide) (by decide) ran

/-! ### Parts of a line that nobody reads -/

/-- Where the last entry cannot be read, a dead lock of which nothing was found stays as it
is. -/
theorem step_unreadable (dead : s.owner = none) (not_found : s.found = none)
    (unreadable : getLastEntry digits s.lockFile = none) {action : Action}
    (taken : s.step digits action = some s') : s' = s := by
  cases action with
  | heartbeat now fileOffset cut =>
    obtain ⟨spoutId, owned, _⟩ := Option.map_eq_some_iff.mp taken
    cases dead.symm.trans owned
  | dies =>
    obtain ⟨spoutId, owned, _⟩ := Option.map_eq_some_iff.mp taken
    cases dead.symm.trans owned
  | find modifiedTime olderThan =>
    obtain ⟨stale, looked, rfl⟩ := Option.map_eq_some_iff.mp taken
    rw [getLastEntryIfStale, unreadable] at looked
    split at looked
    case isTrue => cases looked
    case isFalse =>
      cases looked
      rw [← not_found]
  | takeOwnership now spoutId cut =>
    obtain ⟨lastEntry, _, found, _⟩ := takeOwnership_cases taken
    cases not_found.symm.trans found

/-- A dead lock gets an owner again exactly if its last entry can be read. -/
theorem owned_later_iff (dead : s.owner = none) (not_found : s.found = none) :
    (∃ actions s', runSteps (State.step digits) s actions = some s' ∧
        s'.owner.isSome = true) ↔ (getLastEntry digits s.lockFile).isSome = true := by
  constructor
  · rintro ⟨actions, s', ran, owned⟩
    by_contra unreadable
    rw [Bool.not_eq_true, Option.isSome_eq_false_iff, Option.isNone_iff_eq_none] at unreadable
    have stays : AllStates (State.step digits) (fun later => later = s) s actions := by
      refine .of_invariant (fun later action next same taken => ?_) actions rfl
      subst same
      exact step_unreadable dead not_found unreadable taken
    rw [stays.last ran, dead] at owned
    cases owned
  · intro readable
    obtain ⟨lastEntry, last⟩ := Option.isSome_iff_exists.mp readable
    let time := lastEntry.eventTime
    have stale : getLastEntryIfStale digits s.lockFile time time = some (some lastEntry) := by
      simp [getLastEntryIfStale, last, time]
    let taken : State :=
      { s.construct ⟨time, "", lastEntry.fileOffset⟩ true none with found := none }
    have looked : s.step digits (.find time time) = some { s with found := some lastEntry } := by
      simp only [State.step, State.find, stale, Option.map_some]
    have took : State.step digits { s with found := some lastEntry }
        (.takeOwnership time "" none) = some taken := by
      simp only [State.step, State.takeOwnership, dead]
      rfl
    refine ⟨[.find time time, .takeOwnership time "" none], taken, ?_, rfl⟩
    exact Option.bind_eq_some_iff.mpr ⟨_, looked, Option.bind_eq_some_iff.mpr ⟨_, took, rfl⟩⟩

/-- A part of an entry can be read from its second comma on. -/
theorem readable_part_iff (entry : LogEntry) (plain : PlainId entry.componentID)
    (low : longMin ≤ entry.eventTime) (high : entry.eventTime ≤ longMax) (count : Nat) :
    (LogEntry.deserialize digits (String.ofList (entry.toString.toList.take count))).isSome =
        true ↔
      (toString entry.eventTime ++ "," ++ entry.componentID ++ ",").length ≤ count := by
  have header : (toString entry.eventTime ++ "," ++ entry.componentID ++ ",").length =
      (toString entry.eventTime).toList.length + (entry.componentID.toList.length + 1 + 1) := by
    have comma : ",".length = 1 := rfl
    simp only [String.length_append, String.length_toList]
    omega
  rw [header]
  constructor
  · intro readable
    obtain ⟨read, found⟩ := Option.isSome_iff_exists.mp readable
    obtain ⟨offset, whole, _⟩ := deserialize_part plain (List.take_prefix count _) found
    have short := List.length_take_le count entry.toString.toList
    rw [whole] at short
    simp only [List.length_append, List.length_cons] at short
    omega
  · intro long
    obtain ⟨more, rfl⟩ : ∃ more, count = (toString entry.eventTime).toList.length +
        (entry.componentID.toList.length + (more + 1) + 1) :=
      ⟨count - ((toString entry.eventTime).toList.length +
        (entry.componentID.toList.length + 1 + 1)), by omega⟩
    rw [toList_entry, List.take_length_add_append, List.take_succ_cons,
      List.take_length_add_append, List.take_succ_cons, deserialize_cut plain low high]
    rfl

/-- A heartbeat that was cut off in front of its offset leaves a lock that no spout ever
takes over. -/
theorem taken_over_iff (digits : CharacterDigit) {s s' : State} {spoutId : String} {now : Int}
    {fileOffset : Offset} {count : Nat} (owned : s.owner = some spoutId)
    (plainId : PlainId spoutId) (not_found : s.found = none) (low : longMin ≤ now)
    (high : now ≤ longMax) (more : 1 < count)
    (ran : runSteps (State.step digits) s [.heartbeat now fileOffset (some count), .dies] =
      some s') :
    (∃ actions later, runSteps (State.step digits) s' actions = some later ∧
        later.owner.isSome = true) ↔
      (toString now ++ "," ++ spoutId ++ ",").length < count := by
  obtain ⟨next, taken, ran⟩ := Option.bind_eq_some_iff.mp ran
  obtain ⟨owner, owned', rfl⟩ := Option.map_eq_some_iff.mp taken
  cases owned.symm.trans owned'
  obtain ⟨dead, died, ran⟩ := Option.bind_eq_some_iff.mp ran
  obtain ⟨_, _, whole⟩ := Option.map_eq_some_iff.mp died
  cases ran
  -- the first character of the write is the line feed
  obtain ⟨count, rfl⟩ : ∃ rest, count = rest + 1 := ⟨count - 1, by omega⟩
  let entry : LogEntry := ⟨now, spoutId, fileOffset.toString⟩
  let line := entry.toString.toList.take count
  have no_owner : s'.owner = none := whole ▸ rfl
  have not_found' : s'.found = none := whole ▸ not_found
  have lockFile : s'.lockFile = s.lockFile ++ '\n' :: line := whole ▸ rfl
  have nonempty : line ≠ [] := by
    rw [Ne, List.take_eq_nil_iff]
    rintro (no_more | empty)
    · omega
    · exact entry_ne_nil entry empty
  have free : ∀ c ∈ line, isBreak c = false := fun c member =>
    breakFree_entry plainId (breakFree_offset fileOffset) c (List.mem_of_mem_take member)
  have last : getLastEntry digits s'.lockFile =
      LogEntry.deserialize digits (String.ofList line) := by
    rw [lockFile, getLastEntry, lastLine_line s.lockFile free nonempty]
    rfl
  rw [owned_later_iff no_owner not_found', last, Nat.lt_succ_iff]
  exact readable_part_iff entry plainId low high count

/-- The time and the id were written, but not the second comma. -/
theorem taken_over_never : ∃ s' : State,
    runSteps (State.step asciiDigit) (State.tryLock 5 "s" none)
        [.heartbeat 6 ⟨12, 34⟩ (some 4), .dies] = some s' ∧
      ¬ ∃ actions later, runSteps (State.step asciiDigit) s' actions = some later ∧
        later.owner.isSome = true := by
  have ran : runSteps (State.step asciiDigit) (State.tryLock 5 "s" none)
      [.heartbeat 6 ⟨12, 34⟩ (some 4), .dies] = some ⟨"5,s,0\n6,s".toList, none, none⟩ := by
    decide +kernel
  refine ⟨_, ran, fun taken => ?_⟩
  have long := (taken_over_iff asciiDigit rfl (by decide) rfl (by decide) (by decide)
    (by decide) ran).mp taken
  exact absurd long (by decide)

end GitvTime.Guarantees.Hdfs.LockEntries
