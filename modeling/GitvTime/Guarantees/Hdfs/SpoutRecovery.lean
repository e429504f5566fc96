import GitvTime.Guarantees.Hdfs.SpoutRecords

/-!
# No record of a file is lost

A file goes from spout to spout: each one starts from the offset that the lock file of
the one before has last. As long as the first ack of every spout is that of the first
record it read, no record waits for a retry when the file is closed, and no read fails
inside a line, every record is acked by one of them, or is behind the offset from which
the next one would start.
-/
namespace GitvTime.Guarantees.Hdfs.SpoutRecovery
open GitvTime.Support GitvTime.Source.Numbers GitvTime.Source.Hdfs.TextFileReader
open GitvTime.Source.Hdfs.HdfsSpout AckedOffsets ResumedReading SpoutRecords

/-- The last position that was committed. -/
def lastCommitted (log : List Event) : Option Offset :=
  log.findSome? fun
    | .committed position => some position
    | _ => none

/-- A file and the spout that has it. `entry` is the offset in the lock file when the spout
took it over and `ever` are the lines that were acked by any spout. -/
structure World where
  text : List UInt16
  path : Nat
  entry : String
  start : Offset
  spout : State
  book : Option Book
  ever : List Int
  done : Bool

namespace World

def init (path : Nat) (text : List UInt16) : World where
  text := text
  path := path
  entry := "0"
  start := ⟨0, 0⟩
  spout := .init [⟨path, text, ⟨0, 0⟩⟩]
  book := none
  ever := []
  done := false

/-- The last offset in the lock file. -/
def logged (w : World) : String := ((lastCommitted w.spout.log).map Offset.toString).getD w.entry

/-- A call of the spout. -/
def call (settings : Settings) (w : World) (action : Action) : Option World := do
  let (spout, book) ← SpoutRecords.step settings (w.spout, w.book) action
  some { w with
    spout := spout
    book := book
    ever := match action with
      | .ack id _ => id.offset.lineNumber :: w.ever
      | _ => w.ever
    done := w.done || w.book.isSome && book.isNone }

/-- The spout dies, and another one takes the file over. -/
def crash (digits : CharacterDigit) (w : World) : Option World := do
  guard (w.done = false)
  let start ← Offset.parse digits w.logged
  some { w with
    entry := w.logged
    start := start
    spout := .init [⟨w.path, w.text, start⟩]
    book := none }

end World

inductive Turn where
  | call (action : Action)
  | crash

def step (digits : CharacterDigit) (settings : Settings) (w : World) : Turn → Option World
  | .call action => w.call settings action
  | .crash => w.crash digits

/-- The first ack is that of the first record, no record waits for a retry when an ack
closes the file, and a read that fails does so in front of a line. -/
def Careful (w : World) : Turn → Prop
  | .call (.ack id _) => ∀ b, w.book = some b → (b.acked = [] → id = b.idOf 0) ∧
    (w.spout.fileReadCompletely = true → w.spout.inflight.filter (·.1 ≠ id) = [] →
      w.spout.retryList = [])
  | .call action => WholeReads action
  | .crash => True

variable {digits : CharacterDigit} {settings : Settings} {b : Book} {n : Nat} {s : State}

/-! ### Lines of a book -/

theorem more_of_read (holds : Holds b n s) {i : Nat} (lt : i < n) :
    (b.reader i).ahead ≠ [] := by
  intro empty
  have read := holds.read i lt
  rw [Book.tupleOf, (next_none_iff _).mpr empty] at read
  cases read

variable (terminated : Terminated b.file.text) (positioned : Positioned b.file.text b.file.start)

include terminated positioned

theorem line_of_read (holds : Holds b n s) {i : Nat} (le : i ≤ n) :
    (b.reader i).offset.lineNumber = b.file.start.lineNumber + i := by
  induction i with
  | zero => exact (Int.add_zero _).symm
  | succ i ih =>
    have line := ((at_readerAt positioned i).next_line terminated (more_of_read holds le)).2.1
    rw [Book.reader_succ]
    refine line.trans ?_
    have before : (readerAt b.file.text b.file.start i).offset.lineNumber =
      b.file.start.lineNumber + i := ih (Nat.le_of_lt le)
    omega

theorem chars_of_read (holds : Holds b n s) {i j : Nat} (lt : i < j) (le : j ≤ n) :
    (b.reader i).offset.charOffset < (b.reader j).offset.charOffset := by
  induction j with
  | zero => cases lt
  | succ j ih =>
    have step := ((at_readerAt positioned j).next_line terminated (more_of_read holds le)).2.2
    rcases Nat.lt_succ_iff_lt_or_eq.mp lt with lt | rfl
    · exact Int.lt_trans (ih lt (Nat.le_of_lt le)) step
    · exact step

theorem line_of_id (holds : Holds b n s) {i : Nat} (lt : i < n) :
    (b.idOf i).offset.lineNumber = b.file.start.lineNumber + i + 1 := by
  have line : (b.reader (i + 1)).offset.lineNumber = b.file.start.lineNumber + (i + 1 : Nat) :=
    line_of_read terminated positioned holds lt
  exact line.trans (by omega)

/-- The acks of a book are those of one reading. -/
theorem reading_of_book (holds : Holds b n s) :
    Reading b.file.start.lineNumber (b.acked.map MessageId.offset) := by
  have known : ∀ id ∈ b.acked, ∃ i < n, b.idOf i = id := by
    intro id member
    have inside := holds.accounted.subset (List.mem_append_right _ member)
    obtain ⟨i, lt, same⟩ := List.mem_map.mp inside
    exact ⟨i, List.mem_range.mp lt, same⟩
  have lines : ∀ {i}, i < n → _ := fun lt => line_of_id terminated positioned holds lt
  refine ⟨fun offset member => ?_, ?_, fun a member a' member' lower => ?_⟩
  · obtain ⟨id, acked, rfl⟩ := List.mem_map.mp member
    obtain ⟨i, lt, rfl⟩ := known id acked
    have line := lines lt
    omega
  · rw [List.pairwise_map]
    have nodup : b.acked.Nodup := (List.nodup_append.mp holds.nodup).2.1
    refine nodup.imp_of_mem fun {id id'} member member' apart same => ?_
    obtain ⟨i, lt, rfl⟩ := known id member
    obtain ⟨j, lt', rfl⟩ := known id' member'
    have line := lines lt
    have line' := lines lt'
    have together : i = j := by omega
    exact apart (congrArg b.idOf together)
  · obtain ⟨id, acked, rfl⟩ := List.mem_map.mp member
    obtain ⟨i, lt, rfl⟩ := known id acked
    obtain ⟨id', acked', rfl⟩ := List.mem_map.mp member'
    obtain ⟨j, lt', rfl⟩ := known id' acked'
    have line := lines lt
    have line' := lines lt'
    exact chars_of_read terminated positioned holds (by omega) lt'

/-- What the tracker would commit now is an offset of the file. -/
theorem position_read (holds : Holds b n s) {position : Offset}
    (commits : ProgressTracker.getCommitPosition s.tracker = some position) :
    0 < n ∧ Positioned b.file.text position := by
  have reading := reading_of_book terminated positioned holds
  rw [holds.tracker] at commits
  have member := (tracks_tracked reading).only position (List.mem_of_mem_head? commits)
  obtain ⟨id, acked, rfl⟩ := List.mem_map.mp member
  have inside := holds.accounted.subset (List.mem_append_right _ acked)
  obtain ⟨i, lt, rfl⟩ := List.mem_map.mp inside
  exact ⟨Nat.zero_lt_of_lt (List.mem_range.mp lt), (at_readerAt positioned (i + 1)).positioned⟩

/-- Everything up to the commit position is acked exactly if the first record is. -/
theorem position_acked_iff (holds : Holds b n s) {position : Offset}
    (commits : ProgressTracker.getCommitPosition s.tracker = some position) :
    (∀ line, b.file.start.lineNumber < line → line ≤ position.lineNumber →
      Acked (b.acked.map MessageId.offset) line) ↔ b.idOf 0 ∈ b.acked := by
  have reading := reading_of_book terminated positioned holds
  obtain ⟨read, _⟩ := position_read terminated positioned holds commits
  have first_line := line_of_id terminated positioned holds read
  rw [holds.tracker] at commits
  rw [position_safe_iff reading position commits]
  constructor
  · rintro ⟨_, member, same⟩
    obtain ⟨id, acked, rfl⟩ := List.mem_map.mp member
    have inside := holds.accounted.subset (List.mem_append_right _ acked)
    obtain ⟨i, lt, rfl⟩ := List.mem_map.mp inside
    have line := line_of_id terminated positioned holds (List.mem_range.mp lt)
    have at_first : i = 0 := by omega
    exact at_first ▸ acked
  · exact fun acked => ⟨_, List.mem_map_of_mem acked, by omega⟩

omit terminated positioned

/-! ### What a call commits -/

/-- A call picks from the waiting files and commits this position or nothing. -/
structure Commits (position : Option Offset) (s s' : State) : Prop where
  waiting : ∀ file ∈ s'.waiting, file ∈ s.waiting
  log : lastCommitted s'.log = lastCommitted s.log ∨
    ∃ offset, position = some offset ∧ lastCommitted s'.log = some offset

variable {answers : Answers} {position : Option Offset}

theorem Commits.still {s s' : State} (waiting : s'.waiting = s.waiting)
    (log : lastCommitted s'.log = lastCommitted s.log) : Commits position s s' :=
  ⟨fun _ member => waiting ▸ member, .inl log⟩

theorem commits_commitProgress (settings : Settings) (answers : Answers)
    (position : Option Offset) (s : State) :
    Commits position s (s.commitProgress settings answers position) := by
  unfold State.commitProgress
  split
  · exact .still rfl rfl
  · split
    · exact ⟨fun _ member => member, .inr ⟨_, rfl, rfl⟩⟩
    · exact .still rfl rfl

theorem commits_readRecord (acks : settings.ackEnabled = true) (answers : Answers)
    (file : OpenFile) (s : State) :
    Commits (ProgressTracker.getCommitPosition s.tracker) s
      (s.readRecord settings answers file).1 := by
  unfold State.readRecord
  split
  case h_1 => exact .still rfl rfl
  case h_2 tuple reader _ _ =>
    simp only [acks, if_true]
    have commits := commits_commitProgress settings answers
      (ProgressTracker.getCommitPosition s.tracker)
      (State.emitData (some tuple) ⟨s.tupleCounter + 1, file.path, reader.offset⟩
        { s with
          reader := some { file with reader := reader }
          fileReadCompletely := false
          tupleCounter := s.tupleCounter + 1 })
    exact ⟨commits.waiting, commits.log⟩
  case h_3 =>
    simp only [acks, if_true]
    exact .still rfl rfl

theorem readRecord_returns (acks : settings.ackEnabled = true) (answers : Answers)
    (file : OpenFile) (s : State) :
    (s.readRecord settings answers file).2 = true := by
  unfold State.readRecord
  split <;> simp only [acks, if_true]

theorem commits_nextTuple (acks : settings.ackEnabled = true) (answers : Answers) (s : State) :
    Commits (ProgressTracker.getCommitPosition s.tracker) s (s.nextTuple settings answers) := by
  unfold State.nextTuple
  split
  · exact .still rfl rfl
  · split
    · exact .still rfl rfl
    · split
      · cases waiting : s.waiting with
        | nil => exact .still rfl rfl
        | cons file rest =>
          have returns := readRecord_returns acks answers
            ⟨file.path, .create file.text file.start⟩
            { s with waiting := rest, fileReadCompletely := false }
          have read := commits_readRecord acks answers
            ⟨file.path, .create file.text file.start⟩
            { s with waiting := rest, fileReadCompletely := false }
          simp only [State.pickNextFile]
          split
          case h_1 s' done =>
            rw [done] at read
            exact ⟨fun file member => waiting ▸ List.mem_cons_of_mem _ (read.waiting file member),
              read.log⟩
          case h_2 s' more =>
            rw [more] at returns
            cases returns
      · split
        · exact .still rfl rfl
        · rename_i file _ _
          have returns := readRecord_returns acks answers file s
          have read := commits_readRecord acks answers file s
          split
          case h_1 s' done =>
            rw [done] at read
            exact read
          case h_2 s' more =>
            rw [more] at returns
            cases returns

theorem commits_ack (acks : settings.ackEnabled = true) {id : MessageId} {s' : State}
    (acked : s.ack settings answers id = some s') :
    Commits (ProgressTracker.getCommitPosition
      (ProgressTracker.recordAckedOffset id.offset s.tracker)) s s' := by
  unfold State.ack at acked
  rw [if_pos acks] at acked
  dsimp only at acked
  have commits := commits_commitProgress settings answers
    (ProgressTracker.getCommitPosition (ProgressTracker.recordAckedOffset id.offset s.tracker))
    { s with
      inflight := s.inflight.filter (·.1 ≠ id)
      acksSinceLastCommit := s.acksSinceLastCommit + 1
      tracker := ProgressTracker.recordAckedOffset id.offset s.tracker }
  split at acked
  · obtain ⟨file, _, rfl⟩ := Option.map_eq_some_iff.mp acked
    refine ⟨commits.waiting, ?_⟩
    unfold State.markFileAsDone
    dsimp only
    split
    · exact commits.log
    · exact commits.log
  · cases acked
    exact ⟨commits.waiting, commits.log⟩

theorem waiting_of_step (acks : settings.ackEnabled = true) {action : Action} {s' : State}
    (stepped : s.step settings action = some s') : ∀ file ∈ s'.waiting, file ∈ s.waiting := by
  cases action with
  | nextTuple answers =>
    cases stepped
    exact (commits_nextTuple acks answers s).waiting
  | ack id answers =>
    obtain ⟨_, stepped⟩ := Option.ite_none_right_eq_some.mp stepped
    exact (commits_ack acks stepped).waiting
  | fail id =>
    obtain ⟨_, stepped⟩ := Option.ite_none_right_eq_some.mp stepped
    cases stepped
    simp only [State.fail, acks, if_true]
    exact fun _ member => member
  | timer =>
    cases stepped
    exact fun _ member => member

theorem file_of_booked {action : Action} {s' : State} {book : Option Book} {b : Book}
    (now : booked s action s' book = some b) :
    b.file ∈ s.waiting ∨ ∃ old, book = some old ∧ b.file = old.file := by
  cases book with
  | none =>
    simp only [booked] at now
    split at now
    · obtain ⟨file, at_head, rfl⟩ := Option.map_eq_some_iff.mp now
      exact .inl (List.mem_of_mem_head? at_head)
    · cases now
  | some old =>
    refine .inr ⟨old, rfl, ?_⟩
    simp only [booked] at now
    split at now
    · cases action <;> cases now <;> rfl
    · cases now

/-- In every state with a file open, what the tracker would commit covers acked records
only, exactly if the first record read from the file is acked. -/
theorem commit_covers_iff (settings : Settings) (waiting : List File)
    (acks : settings.ackEnabled = true)
    (good : ∀ file ∈ waiting, Terminated file.text ∧ Positioned file.text file.start)
    (actions : List Action) (whole : ∀ action ∈ actions, WholeReads action) :
    AllStates (SpoutRecords.step settings) (fun w => ∀ b position, w.2 = some b →
      ProgressTracker.getCommitPosition w.1.tracker = some position →
        ((∀ line, b.file.start.lineNumber < line → line ≤ position.lineNumber →
          Acked (b.acked.map MessageId.offset) line) ↔ b.idOf 0 ∈ b.acked))
      (.init waiting, none) actions := by
  have run : AllStates (SpoutRecords.step settings) (fun w => Inv w ∧
      (∀ file ∈ w.1.waiting, file ∈ waiting) ∧ ∀ b, w.2 = some b → b.file ∈ waiting)
      (.init waiting, none) actions := by
    refine .of_allSteps (fun w action next inv whole taken => ?_) actions
      ⟨inv_init waiting, fun _ member => member, nofun⟩ (.of_forall whole)
    obtain ⟨held, files, file⟩ := inv
    have held' := held.step acks whole taken
    obtain ⟨s', stepped, rfl⟩ := Option.map_eq_some_iff.mp taken
    refine ⟨held', fun f member => files f (waiting_of_step acks stepped f member),
      fun b now => ?_⟩
    rcases file_of_booked now with member | ⟨old, book, same⟩
    · exact files b.file member
    · exact same ▸ file old book
  refine run.mono fun w inv b position book commits => ?_
  obtain ⟨s, _⟩ := w
  cases book
  obtain ⟨⟨n, holds⟩, _, file⟩ := inv
  obtain ⟨terminated, positioned⟩ := good b.file (file b rfl)
  exact position_acked_iff terminated positioned holds commits

/-- The second of two records is acked, and then the first one. -/
theorem commit_covers_iff_two :
    AllStates (SpoutRecords.step ⟨true, 10, 1⟩) (fun w => ∀ b position, w.2 = some b →
      ProgressTracker.getCommitPosition w.1.tracker = some position →
        ((∀ line, b.file.start.lineNumber < line → line ≤ position.lineNumber →
          Acked (b.acked.map MessageId.offset) line) ↔ b.idOf 0 ∈ b.acked))
      (.init [⟨7, [97, 10, 98, 10], ⟨0, 0⟩⟩], none)
      [.nextTuple .good, .nextTuple .good, .ack ⟨2, 7, ⟨4, 2⟩⟩ .good,
        .ack ⟨1, 7, ⟨2, 1⟩⟩ .good] := by
  refine commit_covers_iff ⟨true, 10, 1⟩ _ rfl (fun file member => ?_) _ fun action member => ?_
  · rw [List.mem_singleton.mp member]
    refine ⟨?_, positioned_start _⟩
    rintro _ ⟨⟩
    rfl
  · simp only [List.mem_cons, List.not_mem_nil, or_false] at member
    rcases member with rfl | rfl | rfl | rfl <;> first | trivial | exact nofun

/-! ### From spout to spout -/

/-- The lines up to this one were acked. -/
def AckedTo (ever : List Int) (line : Int) : Prop :=
  ∀ below, 0 < below → below ≤ line → below ∈ ever

/-- The number of records. -/
def total (text : List UInt16) : Int := text.count lineFeed

structure WorldInv (digits : CharacterDigit) (w : World) : Prop where
  held : Inv (w.spout, w.book)
  entry : Offset.parse digits w.entry = some w.start
  positioned : Positioned w.text w.start
  before : AckedTo w.ever w.start.lineNumber
  waiting : ∀ file ∈ w.spout.waiting, file = ⟨w.path, w.text, w.start⟩
  file : ∀ b, w.book = some b → b.file = ⟨w.path, w.text, w.start⟩
  acked : ∀ b, w.book = some b → ∀ id ∈ b.acked, id.offset.lineNumber ∈ w.ever
  first : ∀ b, w.book = some b → b.acked ≠ [] → b.acked.head? = some (b.idOf 0)
  committed : ∀ position, lastCommitted w.spout.log = some position →
    Positioned w.text position ∧ AckedTo w.ever position.lineNumber
  closed : w.done = true → AckedTo w.ever (total w.text)

theorem AckedTo.mono {ever later : List Int} {line : Int} (acked : AckedTo ever line)
    (more : ∀ line ∈ ever, line ∈ later) : AckedTo later line :=
  fun below positive low => more below (acked below positive low)

theorem worldInv_init (digits : CharacterDigit) (path : Nat) (text : List UInt16) :
    WorldInv digits (.init path text) := by
  refine ⟨inv_init _, rfl, positioned_start text, ?_, ?_, nofun, nofun, nofun, nofun, nofun⟩
  · intro below positive low
    exact absurd positive (Int.not_lt.mpr low)
  · intro file member
    exact List.mem_singleton.mp member

/-- The offset in the lock file: everything up to it was acked. -/
theorem WorldInv.logged {w : World} (inv : WorldInv digits w) (short : w.text.length ≤ longMax) :
    ∃ start, Offset.parse digits w.logged = some start ∧ Positioned w.text start ∧
      AckedTo w.ever start.lineNumber := by
  unfold World.logged
  cases last : lastCommitted w.spout.log with
  | none => exact ⟨w.start, inv.entry, inv.positioned, inv.before⟩
  | some position =>
    obtain ⟨positioned, acked⟩ := inv.committed position last
    obtain ⟨chars, lines⟩ := positioned.range short
    exact ⟨position, parse_toString digits position chars lines, positioned, acked⟩

/-- The next spout starts where the lock file says. -/
theorem WorldInv.crash {w w' : World} (inv : WorldInv digits w) (short : w.text.length ≤ longMax)
    (taken : w.crash digits = some w') : WorldInv digits w' := by
  obtain ⟨_, _, taken⟩ := Option.bind_eq_some_iff.mp taken
  obtain ⟨start, parsed, taken⟩ := Option.bind_eq_some_iff.mp taken
  cases taken
  obtain ⟨_, same, starts⟩ := inv.logged short
  cases parsed.symm.trans same
  refine ⟨inv_init _, parsed, starts.1, starts.2, ?_, nofun, nofun, nofun, nofun, inv.closed⟩
  intro file member
  exact List.mem_singleton.mp member

/-- What a call may commit lies in the file, and everything up to it is acked. -/
theorem committed_call {w : World} (inv : WorldInv digits w) {ever : List Int} {spout : State}
    {position : Option Offset} (more : ∀ line ∈ w.ever, line ∈ ever)
    (commits : Commits position w.spout spout)
    (safe : ∀ offset, position = some offset →
      Positioned w.text offset ∧ AckedTo ever offset.lineNumber) :
    ∀ offset, lastCommitted spout.log = some offset →
      Positioned w.text offset ∧ AckedTo ever offset.lineNumber := by
  intro offset last
  rcases commits.log with same | ⟨other, at_position, new⟩
  · obtain ⟨positioned, acked⟩ := inv.committed offset (same ▸ last)
    exact ⟨positioned, acked.mono more⟩
  · cases last.symm.trans new
    exact safe offset at_position

/-- The position of a book, with the lines of the spouts before. -/
theorem position_safe {w : World} {s : State} (terminated : Terminated w.text)
    (positioned : Positioned w.text w.start) (holds : Holds b n s)
    (file : b.file = ⟨w.path, w.text, w.start⟩)
    (first : b.acked ≠ [] → b.acked.head? = some (b.idOf 0)) {ever : List Int}
    (before : AckedTo ever w.start.lineNumber)
    (acked : ∀ id ∈ b.acked, id.offset.lineNumber ∈ ever) (offset : Offset)
    (commits : ProgressTracker.getCommitPosition s.tracker = some offset) :
    Positioned w.text offset ∧ AckedTo ever offset.lineNumber := by
  have some_acked : b.acked ≠ [] := by
    intro nothing
    rw [holds.tracker, nothing] at commits
    cases commits
  have terminated' : Terminated b.file.text := file ▸ terminated
  have positioned' : Positioned b.file.text b.file.start := file ▸ positioned
  have inside := (position_read terminated' positioned' holds commits).2
  have lines := (position_acked_iff terminated' positioned' holds commits).mpr
    (List.mem_of_mem_head? (first some_acked))
  rw [file] at inside lines
  refine ⟨inside, fun below positive low => ?_⟩
  rcases Int.lt_or_le w.start.lineNumber below with behind | front
  · obtain ⟨other, member, same⟩ := lines below behind low
    obtain ⟨id, inside, rfl⟩ := List.mem_map.mp member
    exact same ▸ acked id inside
  · exact before below positive front

/-- A file that was read and acked to its end. -/
theorem acked_whole {w : World} {s : State} (terminated : Terminated w.text)
    (positioned : Positioned w.text w.start) (holds : Holds b n s)
    (file : b.file = ⟨w.path, w.text, w.start⟩) (empty : (b.reader n).ahead = []) {ever : List Int}
    (before : AckedTo ever w.start.lineNumber)
    (acked : ∀ i < n, (b.idOf i).offset.lineNumber ∈ ever) : AckedTo ever (total w.text) := by
  have terminated' : Terminated b.file.text := file ▸ terminated
  have positioned' : Positioned b.file.text b.file.start := file ▸ positioned
  have end_line := line_of_read terminated' positioned' holds (Nat.le_refl n)
  obtain ⟨done, whole, _, lines⟩ := at_readerAt positioned' n
  have whole_line : (b.reader n).offset.lineNumber = total w.text := by
    have read_all : b.file.text = done := by
      rw [whole]
      exact (congrArg (done ++ ·) empty).trans (List.append_nil done)
    have read_text : w.text = done := (congrArg File.text file).symm.trans read_all
    rw [total, read_text]
    exact lines
  rw [file] at end_line
  dsimp only at end_line
  intro below positive low
  rcases Int.lt_or_le w.start.lineNumber below with behind | front
  · have lt : (below - w.start.lineNumber - 1).toNat < n := by omega
    have line := line_of_id terminated' positioned' holds lt
    rw [file] at line
    have same : (b.idOf (below - w.start.lineNumber - 1).toNat).offset.lineNumber = below := by
      dsimp only at line
      omega
    exact same ▸ acked _ lt
  · exact before below positive front

/-- A spout without a file opens the one that waits. -/
theorem call_idle {w : World} (inv : WorldInv digits w) (acks : settings.ackEnabled = true)
    (idle : Idle w.spout) {action : Action} {spout : State}
    (stepped : w.spout.step settings action = some spout)
    (held : Inv (spout, booked w.spout action spout none)) :
    WorldInv digits { w with spout := spout, book := booked w.spout action spout none } := by
  have commits : Commits none w.spout spout := by
    cases action with
    | nextTuple answers =>
      cases stepped
      have commits := commits_nextTuple acks answers w.spout
      rw [idle.tracker] at commits
      exact commits
    | ack id answers | fail id =>
      simp only [State.step, idle.inflight, List.map_nil, List.not_mem_nil, if_false] at stepped
      cases stepped
    | timer =>
      cases stepped
      exact .still rfl rfl
  have opened : ∀ b, booked w.spout action spout none = some b →
      b.file = ⟨w.path, w.text, w.start⟩ ∧ b.acked = [] := by
    intro b now
    simp only [booked] at now
    split at now
    · obtain ⟨file, at_head, rfl⟩ := Option.map_eq_some_iff.mp now
      exact ⟨inv.waiting file (List.mem_of_mem_head? at_head), rfl⟩
    · cases now
  refine ⟨held, inv.entry, inv.positioned, inv.before,
    fun file member => inv.waiting file (commits.waiting file member),
    fun b now => (opened b now).1, fun b now => ?_, fun b now more => ?_, ?_, inv.closed⟩
  · rw [(opened b now).2]
    exact fun _ member => absurd member List.not_mem_nil
  · exact absurd (opened b now).2 more
  · refine committed_call inv (fun _ member => member) commits fun offset position => ?_
    cases position

/-- A call that leaves the file open, other than an ack. -/
theorem call_open {w : World} {spout : State} (inv : WorldInv digits w)
    (terminated : Terminated w.text) (book : w.book = some b) (holds : Holds b n w.spout)
    (held : Inv (spout, some b))
    (commits : Commits (ProgressTracker.getCommitPosition w.spout.tracker) w.spout spout) :
    WorldInv digits { w with spout := spout } := by
  refine ⟨book ▸ held, inv.entry, inv.positioned, inv.before,
    fun file member => inv.waiting file (commits.waiting file member), inv.file, inv.acked,
    inv.first, ?_, inv.closed⟩
  refine committed_call inv (fun _ member => member) commits fun offset position => ?_
  exact position_safe terminated inv.positioned holds (inv.file b book) (inv.first b book)
    inv.before (inv.acked b book) offset position

/-- An ack. -/
theorem call_ack {w : World} {spout : State} {id : MessageId} {answers : Answers}
    (inv : WorldInv digits w) (acks : settings.ackEnabled = true) (terminated : Terminated w.text)
    (book : w.book = some b) (holds : Holds b n w.spout)
    (pending : id ∈ w.spout.inflight.map Prod.fst)
    (stepped : w.spout.ack settings answers id = some spout)
    (careful : Careful w (.call (.ack id answers)))
    (held : Inv (spout, booked w.spout (.ack id answers) spout (some b))) :
    WorldInv digits { w with
      spout := spout
      book := booked w.spout (.ack id answers) spout (some b)
      ever := id.offset.lineNumber :: w.ever
      done := w.done || (booked w.spout (.ack id answers) spout (some b)).isNone } := by
  obtain ⟨first_ack, no_retry⟩ := careful b book
  have more : ∀ line ∈ w.ever, line ∈ id.offset.lineNumber :: w.ever :=
    fun line member => List.mem_cons_of_mem _ member
  have after := holds.acked pending
  have acked : ∀ other ∈ b.acked ++ [id],
      other.offset.lineNumber ∈ id.offset.lineNumber :: w.ever := by
    intro other member
    rcases List.mem_append.mp member with member | member
    · exact more _ (inv.acked b book other member)
    · exact List.mem_singleton.mp member ▸ List.mem_cons_self
  have first : (b.acked ++ [id]).head? = some (b.idOf 0) := by
    cases old : b.acked with
    | nil => exact congrArg some (first_ack old)
    | cons head rest =>
      have head_first := inv.first b book (by simp [old])
      rwa [old] at head_first
  have commits := commits_ack acks stepped
  have committed := committed_call inv more commits fun offset position =>
    position_safe terminated inv.positioned after (inv.file b book) (fun _ => first)
      (inv.before.mono more) acked offset position
  have now_open : ∀ b', booked w.spout (.ack id answers) spout (some b) = some b' →
      b' = { b with acked := b.acked ++ [id] } := by
    intro b' now
    simp only [booked] at now
    split at now
    · exact (Option.some.inj now).symm
    · cases now
  refine ⟨held, inv.entry, inv.positioned, inv.before.mono more,
    fun file member => inv.waiting file (commits.waiting file member), ?_, ?_, ?_, committed, ?_⟩
  · intro b' now
    rw [now_open b' now]
    exact inv.file b book
  · intro b' now
    rw [now_open b' now]
    exact acked
  · intro b' now _
    rw [now_open b' now]
    exact first
  · intro done
    rcases Bool.or_eq_true_iff.mp done with done | closes
    · exact (inv.closed done).mono more
    · obtain ⟨_, stepped', opened | ⟨_, complete, last⟩⟩ := holds.ack_cases acks answers pending
      · cases stepped.symm.trans stepped'
        rw [opened.booked] at closes
        cases closes
      · have all := (holds.all_acked_iff pending last).mpr (no_retry complete last)
        refine acked_whole terminated inv.positioned holds (inv.file b book)
          (holds.complete complete) (inv.before.mono more) fun i lt => ?_
        exact acked _ (all i lt)

theorem WorldInv.call {w w' : World} {action : Action} (inv : WorldInv digits w)
    (acks : settings.ackEnabled = true) (terminated : Terminated w.text)
    (careful : Careful w (.call action)) (taken : w.call settings action = some w') :
    WorldInv digits w' := by
  obtain ⟨⟨spout, book'⟩, joint, taken⟩ := Option.bind_eq_some_iff.mp taken
  cases taken
  have whole : WholeReads action := by
    cases action with
    | nextTuple answers => exact careful
    | _ => trivial
  have held := inv.held.step acks whole joint
  obtain ⟨_, stepped, same⟩ := Option.map_eq_some_iff.mp joint
  cases same
  clear joint
  obtain ⟨text, path, entry, start, s, book, ever, done⟩ := w
  dsimp only at stepped held
  cases book with
  | none =>
    have after := call_idle inv acks inv.held stepped held
    simp only [Option.isSome_none, Bool.false_and, Bool.or_false]
    cases action with
    | nextTuple answers => exact after
    | ack id answers =>
      have idle : Idle s := inv.held
      simp only [State.step, idle.inflight, List.map_nil, List.not_mem_nil, if_false] at stepped
      cases stepped
    | fail id => exact after
    | timer => exact after
  | some b =>
    obtain ⟨n, holds⟩ := inv.held
    simp only [Option.isSome_some, Bool.true_and]
    cases action with
    | nextTuple answers =>
      cases stepped
      obtain ⟨n', holds'⟩ := nextTuple_holds acks holds whole
      have still : booked s (.nextTuple answers) (s.nextTuple settings answers) (some b) =
          some b := holds'.booked
      rw [still] at held ⊢
      simp only [Option.isNone_some, Bool.or_false]
      exact call_open inv terminated rfl holds held (commits_nextTuple acks answers s)
    | ack id answers =>
      obtain ⟨pending, stepped⟩ := Option.ite_none_right_eq_some.mp stepped
      exact call_ack inv acks terminated rfl holds pending stepped careful held
    | fail id =>
      obtain ⟨pending, stepped⟩ := Option.ite_none_right_eq_some.mp stepped
      cases stepped
      have still : booked s (.fail id) (s.fail settings id) (some b) = some b :=
        (holds.failed acks pending).booked
      rw [still] at held ⊢
      simp only [Option.isNone_some, Bool.or_false]
      refine call_open inv terminated rfl holds held (.still ?_ ?_)
      · simp only [State.fail, acks, if_true]
      · simp only [State.fail, acks, if_true]
    | timer =>
      cases stepped
      obtain ⟨n', holds'⟩ : ∃ n', Holds b n' { s with commitTimeElapsed := true } :=
        ⟨n, holds.counter, holds.reader, holds.read, holds.accounted, holds.tuples, holds.tracker,
          holds.complete⟩
      have still : booked s .timer { s with commitTimeElapsed := true } (some b) = some b :=
        holds'.booked
      rw [still] at held ⊢
      simp only [Option.isNone_some, Bool.or_false]
      exact call_open inv terminated rfl holds held (.still rfl rfl)

theorem text_of_call {w w' : World} {action : Action}
    (taken : w.call settings action = some w') : w'.text = w.text := by
  obtain ⟨_, _, taken⟩ := Option.bind_eq_some_iff.mp taken
  cases taken
  rfl

theorem text_of_crash {w w' : World} (taken : w.crash digits = some w') : w'.text = w.text := by
  obtain ⟨_, _, taken⟩ := Option.bind_eq_some_iff.mp taken
  obtain ⟨_, _, taken⟩ := Option.bind_eq_some_iff.mp taken
  cases taken
  rfl

/-- Every record was acked by one of the spouts, or the next one would read it. -/
theorem no_record_lost (digits : CharacterDigit) (settings : Settings) (path : Nat)
    (text : List UInt16) (acks : settings.ackEnabled = true) (terminated : Terminated text)
    (short : text.length ≤ longMax) (turns : List Turn)
    (careful : AllSteps (step digits settings) Careful (.init path text) turns) :
    AllStates (step digits settings) (fun w => ∀ line, 0 < line → line ≤ total text →
      line ∈ w.ever ∨ w.done = false ∧ ∃ start, Offset.parse digits w.logged = some start ∧
        start.lineNumber < line) (.init path text) turns := by
  have run : AllStates (step digits settings) (fun w => WorldInv digits w ∧ w.text = text)
      (.init path text) turns := by
    refine .of_allSteps (fun w turn w' inv careful taken => ?_) turns
      ⟨worldInv_init digits path text, rfl⟩ careful
    obtain ⟨inv, rfl⟩ := inv
    cases turn with
    | call action => exact ⟨inv.call acks terminated careful taken, text_of_call taken⟩
    | crash => exact ⟨inv.crash short taken, text_of_crash taken⟩
  refine run.mono fun w inv line positive low => ?_
  obtain ⟨inv, rfl⟩ := inv
  cases done : w.done with
  | true => exact .inl (inv.closed done line positive low)
  | false =>
    obtain ⟨start, parsed, _, acked⟩ := inv.logged short
    rcases Int.lt_or_le start.lineNumber line with behind | front
    · exact .inr ⟨rfl, start, parsed, behind⟩
    · exact .inl (acked line positive front)

/-- The spout dies with the second of two records in flight. -/
theorem no_record_lost_two :
    AllStates (step asciiDigit ⟨true, 10, 1⟩) (fun w => ∀ line, 0 < line →
      line ≤ total [97, 10, 98, 10] → line ∈ w.ever ∨ w.done = false ∧
        ∃ start, Offset.parse asciiDigit w.logged = some start ∧ start.lineNumber < line)
      (.init 7 [97, 10, 98, 10])
      [.call (.nextTuple .good), .call (.ack ⟨1, 7, ⟨2, 1⟩⟩ .good),
        .call (.nextTuple .good), .crash, .call (.nextTuple .good)] := by
  refine no_record_lost asciiDigit ⟨true, 10, 1⟩ 7 [97, 10, 98, 10] rfl ?_ (by decide) _ ?_
  · rintro _ ⟨⟩
    rfl
  · rintro _ ⟨⟩
    refine ⟨nofun, fun _ _ => ⟨?_, fun _ _ => ⟨nofun, fun _ _ => ⟨trivial, fun _ _ =>
      ⟨nofun, trivial⟩⟩⟩⟩⟩
    rintro _ ⟨⟩
    exact ⟨fun _ => rfl, nofun⟩

end GitvTime.Guarantees.Hdfs.SpoutRecovery
