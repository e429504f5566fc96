import GitvTime.Guarantees.Hdfs.OpenFiles

/-!
# One run of the TTL sweep

The sweep goes through `writersTtl` in its order. An expired entry whose writer was
evicted ends it with a null pointer, one whose writer closes is removed under the
iterator, which only the last entry survives, and one whose rotation action throws
after the close stays in both maps. So the sweep is right exactly when it meets none
of these.
-/
namespace GitvTime.Guarantees.Hdfs.TtlSweep
open GitvTime.Support GitvTime.Source.Hdfs

/-! ### The maps of any run -/

/-- Every open writer has a TTL entry, and no file has two keys. -/
structure Sound (files : Files) : Prop where
  listed : ∀ key ∈ files.writers.keys, key ∈ files.writersTtl.keys
  made : ∀ key writer, (key, writer) ∈ files.writers.entries → writer < files.made
  numbered : ∀ key other writer, (key, writer) ∈ files.writers.entries →
    (other, writer) ∈ files.writers.entries → key = other

/-- Without a writer there is nothing to say. -/
theorem sound_of_empty {files : Files} (empty : files.writers = .empty) : Sound files := by
  have none_listed : ∀ entry, entry ∉ files.writers.entries := by
    intro entry
    rw [empty]
    exact List.not_mem_nil
  constructor
  · intro key member
    obtain ⟨writer, listed⟩ := LinkedMap.mem_keys.mp member
    exact absurd listed (none_listed _)
  · exact fun key writer listed => absurd listed (none_listed _)
  · exact fun key other writer listed => absurd listed (none_listed _)

/-- Maps that are left with fewer writers. -/
theorem Sound.of_fewer {files files' : Files} (sound : Sound files)
    (fewer : ∀ entry ∈ files'.writers.entries, entry ∈ files.writers.entries)
    (made : files'.made = files.made)
    (listed : ∀ key ∈ files'.writers.keys, key ∈ files'.writersTtl.keys) : Sound files' where
  listed := listed
  made := by
    intro key writer member
    rw [made]
    exact sound.made key writer (fewer _ member)
  numbered := fun key other writer first second =>
    sound.numbered key other writer (fewer _ first) (fewer _ second)

theorem Sound.touch {files : Files} (sound : Sound files) (writerKey : String) :
    Sound { files with writers := files.writers.touch writerKey } := by
  refine sound.of_fewer (fun entry member => LinkedMap.mem_touch.mp member) rfl fun key member => ?_
  exact sound.listed key (LinkedMap.mem_keys_touch.mp member)

theorem Sound.removeWriter {files : Files} (sound : Sound files) (writerKey : String) :
    Sound (files.removeWriter writerKey) := by
  refine sound.of_fewer (fun entry member => (LinkedMap.mem_remove.mp member).1) rfl
    fun key member => ?_
  obtain ⟨present, other⟩ := LinkedMap.mem_keys_remove.mp member
  exact LinkedMap.mem_keys_remove.mpr ⟨sound.listed key present, other⟩

theorem Sound.doTtlClose {settings : Settings} {now : String → Int} {closing : Nat → Closing}
    (items : List (String × Int)) {files : Files} (sound : Sound files) (log : List Event) :
    Sound (Files.doTtlClose settings now closing items (files, log)).1 := by
  induction items generalizing files log with
  | nil => exact sound
  | cons item rest ih =>
    obtain ⟨writeKey, startTime⟩ := item
    simp only [Files.doTtlClose]
    split
    · split
      · exact ⟨sound.listed, sound.made, sound.numbered⟩
      · split
        · have removed := (sound.touch writeKey).removeWriter writeKey
          exact ⟨removed.listed, removed.made, removed.numbered⟩
        · exact ih (sound.touch writeKey) _
    · exact ih sound log

/-- A new writer has a number of its own. -/
theorem Sound.create {settings : Settings} {files : Files} (sound : Sound files)
    {writerKey : String} (now : Int) :
    Sound { files with
      writers := files.writers.putBounded writerKey files.made settings.maxOpenFiles
      writersTtl := files.writersTtl.put writerKey now
      made := files.made + 1 } := by
  have old_or_new : ∀ entry ∈
      (files.writers.putBounded writerKey files.made settings.maxOpenFiles).entries,
      entry ∈ files.writers.entries ∨ entry = (writerKey, files.made) := by
    intro entry member
    exact (LinkedMap.mem_putLast.mp (LinkedMap.mem_of_mem_evict member)).imp_left And.left
  constructor
  · intro key member
    obtain ⟨writer, member⟩ := LinkedMap.mem_keys.mp member
    refine LinkedMap.mem_keys_put.mpr ?_
    rcases old_or_new _ member with old | new
    · exact .inl (sound.listed key (LinkedMap.mem_keys.mpr ⟨writer, old⟩))
    · exact .inr (congrArg Prod.fst new)
  · intro key writer member
    rcases old_or_new _ member with old | new
    · have bound := sound.made key writer old
      exact Nat.lt_succ_of_lt bound
    · cases new
      exact Nat.lt_succ_self _
  · intro key other writer first second
    rcases old_or_new _ first with old | new
    · rcases old_or_new _ second with old' | new'
      · exact sound.numbered key other writer old old'
      · cases new'
        exact absurd (sound.made key _ old) (Nat.lt_irrefl _)
    · cases new
      rcases old_or_new _ second with old' | new'
      · exact absurd (sound.made other _ old') (Nat.lt_irrefl _)
      · exact (congrArg Prod.fst new').symm

theorem Sound.step {settings : Settings} {files files' : Files} {action : Files.Action}
    (sound : Sound files) (taken : files.step settings action = some files') : Sound files' := by
  cases action with
  | getOrCreateWriter writerKey now creates =>
    cases taken
    cases found : files.writers.get? writerKey with
    | some writer =>
      simp only [Files.getOrCreateWriter, found]
      exact sound.touch writerKey
    | none =>
      simp only [Files.getOrCreateWriter, found]
      split
      · exact sound.create now
      · exact sound
  | doRotationAndRemoveWriter writerKey =>
    cases taken
    exact sound.removeWriter writerKey
  | doRotationAndRemoveAllWriters =>
    cases taken
    exact sound_of_empty rfl
  | doTtlClose now closing =>
    obtain ⟨_, ⟨⟩⟩ := Option.ite_none_right_eq_some.mp taken
    exact sound.doTtlClose _ _

theorem sound_of_reached {settings : Settings} {actions : List Files.Action} {files : Files}
    (reached : runSteps (Files.step settings) .init actions = some files) : Sound files :=
  (AllStates.of_invariant (fun _ _ _ sound taken => sound.step taken) actions
    (sound_of_empty rfl)).last
    reached

/-! ### What the sweep should do -/

section
variable (settings : Settings) (now : String → Int) (closing : Nat → Closing) (files : Files)

/-- A TTL entry is older than `outTime`. -/
def Expired (entry : String × Int) : Prop := now entry.1 - entry.2 > settings.outTime

/-- The writer is older than `outTime` and its close does not fail. -/
def Due (key : String) (writer : Nat) : Prop :=
  (key, writer) ∈ files.writers.entries ∧ closing writer ≠ .closeFails ∧
    ∃ startTime, (key, startTime) ∈ files.writersTtl.entries ∧
      Expired settings now (key, startTime)

/-- The sweep ended without an exception, closed and removed the due writers and left
the others open and in both maps. -/
structure SweptRight (swept : Files × List Event) : Prop where
  timerAlive : swept.1.timerAlive = true
  due : ∀ key writer, Due settings now closing files key writer →
    .closed writer ∈ swept.2 ∧ key ∉ swept.1.writers.keys ∧ key ∉ swept.1.writersTtl.keys
  others : ∀ key writer, (key, writer) ∈ files.writers.entries →
    ¬ Due settings now closing files key writer →
      .closed writer ∉ swept.2 ∧ (key, writer) ∈ swept.1.writers.entries ∧
        key ∈ swept.1.writersTtl.keys

/-- The writer of an expired entry is still open, and its close fails, unless it is the
last entry and the whole rotation of its writer goes through. -/
def Sweepable : Prop :=
  ∀ entry ∈ files.writersTtl.entries, Expired settings now entry →
    ∃ writer, (entry.1, writer) ∈ files.writers.entries ∧
      (closing writer = .closeFails ∨
        closing writer = .closed ∧ files.writersTtl.entries.getLast? = some entry)

/-- The sweep passes the entry without a change. -/
def Quiet (entry : String × Int) : Prop :=
  Expired settings now entry →
    ∃ writer, (entry.1, writer) ∈ files.writers.entries ∧ closing writer = .closeFails

end

/-! ### How far it comes -/

section
variable {settings : Settings} {now : String → Int} {closing : Nat → Closing}

theorem Quiet.of_same {files : Files} {writers : LinkedMap String Nat} {entry : String × Int}
    (same : ∀ writer, writer ∈ writers.entries ↔ writer ∈ files.writers.entries)
    (quiet : Quiet settings now closing files entry) :
    Quiet settings now closing { files with writers := writers } entry := by
  intro expired
  obtain ⟨writer, member, fails⟩ := quiet expired
  exact ⟨writer, (same _).mpr member, fails⟩

/-- Quiet entries are passed with nothing but accesses to `writers`. -/
theorem doTtlClose_quiet (front back : List (String × Int)) {files : Files} (log : List Event)
    (quiet : ∀ entry ∈ front, Quiet settings now closing files entry) :
    ∃ writers : LinkedMap String Nat,
      (∀ entry, entry ∈ writers.entries ↔ entry ∈ files.writers.entries) ∧
        Files.doTtlClose settings now closing (front ++ back) (files, log) =
          Files.doTtlClose settings now closing back ({ files with writers := writers }, log) := by
  induction front generalizing files with
  | nil => exact ⟨files.writers, fun _ => Iff.rfl, rfl⟩
  | cons item rest ih =>
    obtain ⟨writeKey, startTime⟩ := item
    have rest_quiet := fun entry member => quiet entry (List.mem_cons_of_mem _ member)
    rw [List.cons_append]
    by_cases expired : now writeKey - startTime > settings.outTime
    · obtain ⟨writer, member, fails⟩ := quiet _ List.mem_cons_self expired
      obtain ⟨writers, same, onward⟩ := @ih { files with writers := files.writers.touch writeKey }
        fun entry listed => (rest_quiet entry listed).of_same fun _ => LinkedMap.mem_touch
      refine ⟨writers, fun entry => (same entry).trans LinkedMap.mem_touch, ?_⟩
      simp only [Files.doTtlClose, if_pos expired, LinkedMap.get?_eq_some.mpr member, fails,
        rotateOutputFile, if_true, reduceCtorEq, if_false]
      exact onward
    · obtain ⟨writers, same, onward⟩ := ih rest_quiet
      refine ⟨writers, same, ?_⟩
      simp only [Files.doTtlClose, if_neg expired]
      exact onward

/-- The sweep removes no writer without a TTL entry before it. -/
theorem key_survives (items : List (String × Int)) {files : Files} (log : List Event) {key : String}
    (unswept : key ∉ items.map Prod.fst) (present : key ∈ files.writers.keys) :
    key ∈ (Files.doTtlClose settings now closing items (files, log)).1.writers.keys := by
  induction items generalizing files log with
  | nil => exact present
  | cons item rest ih =>
    obtain ⟨writeKey, startTime⟩ := item
    obtain ⟨other, later⟩ := List.ne_and_not_mem_of_not_mem_cons unswept
    simp only [Files.doTtlClose]
    split
    · split
      · exact present
      · split
        · exact LinkedMap.mem_keys_remove.mpr ⟨LinkedMap.mem_keys_touch.mpr present, other⟩
        · exact ih _ later (LinkedMap.mem_keys_touch.mpr present)
    · exact ih _ later present

/-- Every entry is passed, or there is a first one that is not. -/
theorem first_loud (files : Files) (items : List (String × Int)) :
    (∀ entry ∈ items, Quiet settings now closing files entry) ∨
      ∃ front key startTime back, items = front ++ (key, startTime) :: back ∧
        (∀ entry ∈ front, Quiet settings now closing files entry) ∧
          Expired settings now (key, startTime) ∧
            ∀ writer, (key, writer) ∈ files.writers.entries → closing writer ≠ .closeFails := by
  induction items with
  | nil => exact .inl nofun
  | cons item rest ih =>
    by_cases quiet : Quiet settings now closing files item
    · rcases ih with all | ⟨front, key, startTime, back, split, front_quiet, loud⟩
      · exact .inl (List.forall_mem_cons.mpr ⟨quiet, all⟩)
      · exact .inr ⟨item :: front, key, startTime, back, by rw [split]; rfl,
          List.forall_mem_cons.mpr ⟨quiet, front_quiet⟩, loud⟩
    · obtain ⟨expired, no_fail⟩ := Classical.not_imp.mp quiet
      exact .inr ⟨[], item.1, item.2, rest, rfl, nofun, expired,
        fun writer member fails => no_fail ⟨writer, member, fails⟩⟩

/-! ### The ways it ends -/

theorem not_due_of_quiet {files : Files} {key : String} {writer : Nat} {startTime : Int}
    (member : (key, writer) ∈ files.writers.entries) (not_fails : closing writer ≠ .closeFails)
    (expired : Expired settings now (key, startTime))
    (quiet : Quiet settings now closing files (key, startTime)) : False := by
  obtain ⟨other, member', fails⟩ := quiet expired
  rw [files.writers.value_unique member member'] at not_fails
  exact not_fails fails

/-- A sweep that passes every entry. -/
theorem swept_quiet {files : Files} (sound : Sound files) (alive : files.timerAlive = true)
    (quiet : ∀ entry ∈ files.writersTtl.entries, Quiet settings now closing files entry) :
    SweptRight settings now closing files
      (Files.doTtlClose settings now closing files.writersTtl.entries (files, [])) := by
  obtain ⟨writers, same, passed⟩ := doTtlClose_quiet _ [] [] quiet
  rw [List.append_nil] at passed
  rw [passed]
  refine ⟨alive, ?_, ?_⟩
  · rintro key writer ⟨member, not_fails, startTime, listed, expired⟩
    exact (not_due_of_quiet member not_fails expired (quiet _ listed)).elim
  · intro key writer member _
    exact ⟨List.not_mem_nil, (same _).mpr member,
      sound.listed key (LinkedMap.mem_keys.mpr ⟨writer, member⟩)⟩

variable {files : Files} {front back : List (String × Int)} {key : String} {startTime : Int}

/-- The sweep reaches the first entry that is not quiet. -/
theorem doTtlClose_loud (split : files.writersTtl.entries = front ++ (key, startTime) :: back)
    (quiet : ∀ entry ∈ front, Quiet settings now closing files entry)
    (expired : Expired settings now (key, startTime)) :
    ∃ writers : LinkedMap String Nat,
      (∀ entry, entry ∈ writers.entries ↔ entry ∈ files.writers.entries) ∧
        Files.doTtlClose settings now closing files.writersTtl.entries (files, []) =
          match writers.get? key with
          | none => ({ files with writers := writers, timerAlive := false }, [])
          | some writer =>
            let touched := { files with writers := writers.touch key }
            let log := rotateOutputFile writer (closing writer) []
            if closing writer = .closed then
              ({ touched.removeWriter key with timerAlive := back.isEmpty }, log)
            else Files.doTtlClose settings now closing back (touched, log) := by
  obtain ⟨writers, same, passed⟩ := doTtlClose_quiet front ((key, startTime) :: back) [] quiet
  refine ⟨writers, same, ?_⟩
  rw [split, passed]
  exact if_pos expired

section
variable (split : files.writersTtl.entries = front ++ (key, startTime) :: back)
  (quiet : ∀ entry ∈ front, Quiet settings now closing files entry)
  (expired : Expired settings now (key, startTime))
include split quiet expired

/-- The writer was evicted: a null pointer ends the timer. -/
theorem swept_evicted (evicted : key ∉ files.writers.keys) :
    (Files.doTtlClose settings now closing files.writersTtl.entries (files, [])).1.timerAlive =
      false := by
  obtain ⟨writers, same, reached⟩ := doTtlClose_loud split quiet expired
  have gone : writers.get? key = none := by
    rw [LinkedMap.get?_eq_none, LinkedMap.mem_keys]
    rintro ⟨writer, member⟩
    exact evicted (LinkedMap.mem_keys.mpr ⟨writer, (same _).mp member⟩)
  rw [reached, gone]

/-- A rotation action throws after the close: the writer stays. -/
theorem swept_actionFails {writer : Nat} (member : (key, writer) ∈ files.writers.entries)
    (fails : closing writer = .actionFails) :
    key ∈ (Files.doTtlClose settings now closing files.writersTtl.entries
      (files, [])).1.writers.keys := by
  obtain ⟨writers, same, reached⟩ := doTtlClose_loud split quiet expired
  have found := LinkedMap.get?_eq_some.mpr ((same _).mpr member)
  have unswept : key ∉ back.map Prod.fst := by
    have distinct := files.writersTtl.distinct
    rw [split, List.map_append, List.map_cons] at distinct
    exact (List.nodup_cons.mp (List.nodup_append.mp distinct).2.1).1
  rw [reached, found]
  simp only [fails, reduceCtorEq, if_false]
  refine key_survives back _ unswept (LinkedMap.mem_keys_touch.mpr ?_)
  exact LinkedMap.mem_keys.mpr ⟨writer, (same _).mpr member⟩

/-- The rotation goes through: the writer is removed, and the timer survives if the
entry was the last one. -/
theorem swept_closed {writer : Nat} (member : (key, writer) ∈ files.writers.entries)
    (closes : closing writer = .closed) :
    ∃ writers : LinkedMap String Nat,
      (∀ entry, entry ∈ writers.entries ↔ entry ∈ files.writers.entries) ∧
        Files.doTtlClose settings now closing files.writersTtl.entries (files, []) =
          ({ files.removeWriter key with
            writers := (writers.touch key).remove key, timerAlive := back.isEmpty },
            [.closed writer]) := by
  obtain ⟨writers, same, reached⟩ := doTtlClose_loud split quiet expired
  have found := LinkedMap.get?_eq_some.mpr ((same _).mpr member)
  refine ⟨writers, same, ?_⟩
  rw [reached, found]
  simp only [closes, if_true, rotateOutputFile, reduceCtorEq, if_false]
  rfl

end

/-- A sweep whose last entry is the first that is not quiet, and whose rotation goes
through. -/
theorem sweptRight_of_last {files : Files} (sound : Sound files)
    (split : files.writersTtl.entries = front ++ [(key, startTime)])
    (quiet : ∀ entry ∈ front, Quiet settings now closing files entry)
    (expired : Expired settings now (key, startTime)) {writer : Nat}
    (member : (key, writer) ∈ files.writers.entries) (closes : closing writer = .closed) :
    SweptRight settings now closing files
      (Files.doTtlClose settings now closing files.writersTtl.entries (files, [])) := by
  obtain ⟨writers, same, reached⟩ := swept_closed split quiet expired member closes
  have due_here : Due settings now closing files key writer :=
    ⟨member, by rw [closes]; nofun, startTime, by rw [split]; simp, expired⟩
  rw [reached]
  refine ⟨rfl, ?_, ?_⟩
  · rintro other writer' ⟨member', not_fails, start, listed, expired'⟩
    rw [split] at listed
    rcases List.mem_append.mp listed with early | here
    · exact (not_due_of_quiet member' not_fails expired' (quiet _ early)).elim
    · cases List.mem_singleton.mp here
      rw [files.writers.value_unique member' member]
      refine ⟨List.mem_singleton_self _, ?_, ?_⟩
      · rw [LinkedMap.mem_keys_remove]
        exact fun both => both.2 rfl
      · rw [Files.removeWriter, LinkedMap.mem_keys_remove]
        exact fun both => both.2 rfl
  · intro other writer' member' not_due
    have different : other ≠ key := by
      rintro rfl
      rw [files.writers.value_unique member' member] at not_due
      exact not_due due_here
    refine ⟨fun closed => ?_, ?_, ?_⟩
    · cases List.mem_singleton.mp closed
      exact different (sound.numbered other key _ member' member)
    · exact LinkedMap.mem_remove.mpr ⟨LinkedMap.mem_touch.mpr ((same _).mpr member'), different⟩
    · refine LinkedMap.mem_keys_remove.mpr ⟨?_, different⟩
      exact sound.listed other (LinkedMap.mem_keys.mpr ⟨writer', member'⟩)

/-- The last entry of the table is not an earlier one. -/
theorem getLast?_ne_of_split {m : LinkedMap String Int} {entry next : String × Int}
    {rest : List (String × Int)} (split : m.entries = front ++ entry :: next :: rest) :
    m.entries.getLast? ≠ some entry := by
  intro last
  have distinct := m.distinct
  rw [split, List.map_append, List.map_cons] at distinct
  rw [split, List.getLast?_append, List.getLast?_cons_cons] at last
  have later : entry ∈ next :: rest := by
    refine List.mem_of_getLast? ?_
    rw [List.getLast?_cons] at last ⊢
    exact last
  exact (List.nodup_cons.mp (List.nodup_append.mp distinct).2.1).1 (List.mem_map_of_mem later)

/-- A run of the sweep is right exactly when every writer that expired is still open
and its close fails, except for the last entry, whose rotation may go through. -/
theorem swept_right_iff {actions : List Files.Action}
    (reached : runSteps (Files.step settings) .init actions = some files)
    (alive : files.timerAlive = true) :
    SweptRight settings now closing files
        (Files.doTtlClose settings now closing files.writersTtl.entries (files, [])) ↔
      Sweepable settings now closing files := by
  have sound := sound_of_reached reached
  rcases @first_loud settings now closing files files.writersTtl.entries with
    all | ⟨front, key, startTime, back, split, quiet, expired, loud⟩
  · refine iff_of_true (swept_quiet sound alive all) fun entry member expired => ?_
    obtain ⟨writer, opened, fails⟩ := all entry member expired
    exact ⟨writer, opened, .inl fails⟩
  · have listed : (key, startTime) ∈ files.writersTtl.entries := by
      rw [split]
      simp
    by_cases opened : key ∈ files.writers.keys
    · obtain ⟨writer, member⟩ := LinkedMap.mem_keys.mp opened
      have here : Sweepable settings now closing files → closing writer = .closed ∧
          files.writersTtl.entries.getLast? = some (key, startTime) := by
        intro sweepable
        obtain ⟨other, member', ends⟩ := sweepable _ listed expired
        rw [files.writers.value_unique member' member] at ends
        exact ends.resolve_left (loud writer member)
      cases closes : closing writer with
      | closeFails => exact absurd closes (loud writer member)
      | actionFails =>
        refine iff_of_false (fun right => ?_) fun sweepable => ?_
        · have due : Due settings now closing files key writer :=
            ⟨member, loud writer member, startTime, listed, expired⟩
          exact (right.due key writer due).2.1
            (swept_actionFails split quiet expired member closes)
        · cases closes.symm.trans (here sweepable).1
      | closed =>
        cases back with
        | nil =>
          refine iff_of_true (sweptRight_of_last sound split quiet expired member closes) ?_
          intro entry member' expired'
          rw [split] at member'
          rcases List.mem_append.mp member' with early | last
          · obtain ⟨other, opened', fails⟩ := quiet entry early expired'
            exact ⟨other, opened', .inl fails⟩
          · cases List.mem_singleton.mp last
            exact ⟨writer, member, .inr ⟨closes, by rw [split, List.getLast?_concat]⟩⟩
        | cons next rest =>
          refine iff_of_false (fun right => ?_) fun sweepable => ?_
          · obtain ⟨_, _, result⟩ := swept_closed split quiet expired member closes
            have survives := right.timerAlive
            rw [result] at survives
            cases survives
          · exact getLast?_ne_of_split split (here sweepable).2
    · refine iff_of_false (fun right => ?_) fun sweepable => ?_
      · have ended := swept_evicted split quiet expired opened
        rw [right.timerAlive] at ended
        cases ended
      · obtain ⟨writer, member, _⟩ := sweepable _ listed expired
        exact opened (LinkedMap.mem_keys.mpr ⟨writer, member⟩)

end

/-! ### Two partitions -/

/-- Two open files at most, and a minute until they are closed. -/
def sampleSettings : Settings := ⟨2, 3, 60000⟩

def twoPartitions : Files :=
  ⟨⟨[("k****A=100", 0), ("k****A=101", 1)], by decide⟩,
    ⟨[("k****A=100", 0), ("k****A=101", 1)], by decide⟩, 2, true⟩

/-- The minute of the first partition is not over when its entry is read, that of the second
is: only the second is closed. -/
theorem second_partition_swept :
    SweptRight sampleSettings (fun key => if key = "k****A=100" then 60000 else 60002)
      (fun _ => .closed) twoPartitions
      (Files.doTtlClose sampleSettings (fun key => if key = "k****A=100" then 60000 else 60002)
        (fun _ => .closed) twoPartitions.writersTtl.entries (twoPartitions, [])) := by
  have reached : runSteps (Files.step sampleSettings) .init
    [.getOrCreateWriter "k****A=100" 0 true, .getOrCreateWriter "k****A=101" 1 true] =
      some twoPartitions := rfl
  refine (swept_right_iff reached rfl).mpr fun entry member expired => ?_
  rcases List.mem_pair.mp member with rfl | rfl
  · exact absurd expired (by unfold Expired; decide)
  · exact ⟨1, List.mem_cons_of_mem _ (List.mem_singleton_self _), .inr ⟨rfl, rfl⟩⟩

/-- Two partitions have expired: removing the first ends the iteration. -/
theorem two_expired_end_timer :
    ¬ ∀ (settings : Settings) (actions : List Files.Action) (files : Files) (now : String → Int)
      (closing : Nat → Closing), runSteps (Files.step settings) .init actions = some files →
        files.timerAlive = true → SweptRight settings now closing files
          (Files.doTtlClose settings now closing files.writersTtl.entries (files, [])) := by
  intro right
  have swept := right sampleSettings
    [.getOrCreateWriter "k****A=100" 0 true, .getOrCreateWriter "k****A=101" 1 true] _
    (fun _ => 60002) (fun _ => .closed) rfl rfl
  exact absurd swept.timerAlive (by decide)

end GitvTime.Guarantees.Hdfs.TtlSweep
