import GitvTime.Guarantees.Hdfs.SpoutRecovery

/-!
# A spout that reads no more

The spout closes a file on an ack only, and reads on only while the tracker is small. With
nothing in flight and nothing to retry there is no ack to come, so a file that was acked
before its end was found is never closed, and a tracker that has grown never shrinks.
-/
namespace GitvTime.Guarantees.Hdfs.StuckSpout
open GitvTime.Support GitvTime.Source.Hdfs.TextFileReader GitvTime.Source.Hdfs.HdfsSpout
open AckedOffsets ResumedReading SpoutRecords SpoutRecovery

variable {settings : Settings} {b : Book} {n : Nat} {s : State}

/-- Nothing is pending and nothing may be read. -/
structure Waits (settings : Settings) (file : OpenFile) (s : State) : Prop where
  reader : s.reader = some file
  inflight : s.inflight = []
  retryList : s.retryList = []
  blocked : s.fileReadCompletely = true ∨ file.reader.ahead = [] ∨
    settings.maxOutstanding ≤ s.tracker.size

theorem Waits.nextTuple {file : OpenFile} (waits : Waits settings file s)
    (acks : settings.ackEnabled = true) (answers : Answers) :
    Waits settings file (s.nextTuple settings answers) ∧
      (s.nextTuple settings answers).log = s.log ∧
      (s.nextTuple settings answers).waiting = s.waiting := by
  obtain ⟨reader, inflight, retryList, blocked⟩ := waits
  unfold State.nextTuple
  rw [retryList]
  dsimp only
  split
  case isTrue => exact ⟨⟨reader, inflight, retryList, blocked⟩, rfl, rfl⟩
  case isFalse small =>
    rw [reader]
    dsimp only
    split
    case isTrue => exact ⟨⟨reader, inflight, retryList, blocked⟩, rfl, rfl⟩
    case isFalse incomplete =>
      have at_end : file.reader.ahead = [] := by
        rcases blocked with complete | at_end | full
        · exact absurd complete incomplete
        · exact at_end
        · exact absurd (by simp [acks, full]) small
      cases throws : answers.throwsAt file.path with
      | some units =>
        have read : s.readRecord settings answers file = ({ s with reader := some file }, true) := by
          simp only [State.readRecord, throws, interrupted_of_ahead_nil at_end]
        rw [read]
        exact ⟨⟨rfl, inflight, retryList, .inr (.inl at_end)⟩, rfl, rfl⟩
      | none =>
        have read : s.readRecord settings answers file =
            ({ s with reader := some file, fileReadCompletely := true }, true) := by
          simp only [State.readRecord, throws, next_of_ahead_nil at_end, acks, if_true]
        rw [read]
        exact ⟨⟨rfl, inflight, retryList, .inl rfl⟩, rfl, rfl⟩

/-- It waits for ever. -/
theorem Waits.forever {file : OpenFile} (waits : Waits settings file s)
    (acks : settings.ackEnabled = true) (actions : List Action) :
    AllStates (State.step settings) (fun s' => s'.log = s.log ∧ s'.waiting = s.waiting) s
      actions := by
  have run : AllStates (State.step settings) (fun s' => Waits settings file s' ∧
      s'.log = s.log ∧ s'.waiting = s.waiting) s actions := by
    refine .of_invariant (fun s' action next inv taken => ?_) actions ⟨waits, rfl, rfl⟩
    obtain ⟨waits', log, waiting⟩ := inv
    cases action with
    | nextTuple answers =>
      cases taken
      obtain ⟨still, same_log, same_waiting⟩ := waits'.nextTuple acks answers
      exact ⟨still, same_log.trans log, same_waiting.trans waiting⟩
    | ack id answers | fail id =>
      simp only [State.step, waits'.inflight, List.map_nil, List.not_mem_nil, if_false] at taken
      cases taken
    | timer =>
      cases taken
      exact ⟨⟨waits'.reader, waits'.inflight, waits'.retryList, waits'.blocked⟩, log, waiting⟩
  exact run.mono fun _ inv => inv.2

/-- All records of the file are acked before its end is found: it is never archived, and
no other file is opened. -/
theorem acked_early_stops (b : Book) (acks : settings.ackEnabled = true)
    (held : Inv (s, some b)) (rests : s.inflight = [] ∧ s.retryList = [])
    (at_end : ∀ file, s.reader = some file → file.reader.ahead = []) (actions : List Action) :
    (∃ n, (b.reader n).ahead = [] ∧ ∀ i < n, b.idOf i ∈ b.acked) ∧
      AllStates (State.step settings) (fun s' => s'.log = s.log ∧ s'.waiting = s.waiting) s
        actions := by
  obtain ⟨n, holds⟩ := held
  have empty := at_end _ holds.reader
  have accounted := holds.accounted
  rw [rests.1, rests.2] at accounted
  refine ⟨⟨n, empty, fun i lt => ?_⟩, ?_⟩
  · exact accounted.symm.subset (List.mem_map.mpr ⟨i, List.mem_range.mpr lt, rfl⟩)
  · have waits : Waits settings ⟨b.file.path, b.reader n⟩ s :=
      ⟨holds.reader, rests.1, rests.2, .inr (.inl empty)⟩
    exact waits.forever acks actions

/-- The second record is acked before the first one, and enough records after it: when
nothing is pending, nothing is read any more. -/
theorem out_of_order_stops (b : Book) (before later : List MessageId)
    (acks : settings.ackEnabled = true) (terminated : Terminated b.file.text)
    (positioned : Positioned b.file.text b.file.start) (held : Inv (s, some b))
    (rests : s.inflight = [] ∧ s.retryList = []) (acked : b.acked = before ++ b.idOf 0 :: later)
    (second : b.idOf 1 ∈ before) (enough : settings.maxOutstanding ≤ later.length + 2)
    (actions : List Action) :
    AllStates (State.step settings) (fun s' => s'.log = s.log ∧ s'.waiting = s.waiting) s
      actions := by
  obtain ⟨n, holds⟩ := held
  have reading := reading_of_book terminated positioned holds
  have two : ∀ i, b.idOf i ∈ b.acked → i < n := by
    intro i member
    have inside := holds.accounted.subset (List.mem_append_right _ member)
    obtain ⟨j, lt, same⟩ := List.mem_map.mp inside
    have number := congrArg MessageId.msgNumber same
    simp only [Book.idOf] at number
    have at_j : j < n := List.mem_range.mp lt
    omega
  have zero_lt : 0 < n := two 0 (by simp [acked])
  have one_lt : 1 < n := two 1 (acked ▸ List.mem_append_left _ second)
  have first_line := line_of_id terminated positioned holds zero_lt
  have second_line := line_of_id terminated positioned holds one_lt
  rw [acked, List.map_append, List.map_cons] at reading
  have second_acked : Acked (before.map MessageId.offset) (b.file.start.lineNumber + 2) :=
    ⟨_, List.mem_map_of_mem second, by rw [second_line]; omega⟩
  obtain ⟨_, size⟩ := position_stuck (before.map MessageId.offset) (later.map MessageId.offset)
    (b.idOf 0).offset reading (by rw [first_line]; omega) second_acked
  have some_before : 0 < (tracked (before.map MessageId.offset)).size := by
    have tracks := tracks_tracked reading.front
    exact List.length_pos_iff.mpr (tracks.some (by simpa using List.ne_nil_of_mem second))
  have full : settings.maxOutstanding ≤ s.tracker.size := by
    rw [holds.tracker, acked, List.map_append, List.map_cons, size, List.length_map]
    omega
  have waits : Waits settings ⟨b.file.path, b.reader n⟩ s :=
    ⟨holds.reader, rests.1, rests.2, .inr (.inr full)⟩
  exact waits.forever acks actions

/-- A file of one line and the ack of it, before the end of the file is found. -/
theorem acked_early_stops_one :
    let file : File := ⟨7, [97, 10], ⟨0, 0⟩⟩
    let s : State := ⟨[⟨8, [98, 10], ⟨0, 0⟩⟩], some ⟨7, ⟨[], ⟨2, 1⟩⟩⟩, false, 1,
      tracked [⟨2, 1⟩], [], [], 1, false, []⟩
    (∃ n, ((⟨file, 0, [⟨1, 7, ⟨2, 1⟩⟩]⟩ : Book).reader n).ahead = [] ∧
        ∀ i < n, (⟨file, 0, [⟨1, 7, ⟨2, 1⟩⟩]⟩ : Book).idOf i ∈ [(⟨1, 7, ⟨2, 1⟩⟩ : MessageId)]) ∧
      AllStates (State.step ⟨true, 10, 5⟩) (fun s' => s'.log = s.log ∧ s'.waiting = s.waiting) s
        [.nextTuple .good, .nextTuple .good] := by
  intro file s
  refine acked_early_stops ⟨file, 0, [⟨1, 7, ⟨2, 1⟩⟩]⟩ rfl ?_ ⟨rfl, rfl⟩ ?_ _
  · refine ⟨1, rfl, rfl, ?_, ?_, nofun, rfl, nofun⟩
    · intro i lt
      cases Nat.lt_one_iff.mp lt
      rfl
    · exact List.Perm.refl _
  · rintro _ ⟨⟩
    rfl

/-- Two lines of three, the second acked first, with two tuples outstanding at most. -/
theorem out_of_order_stops_two :
    let s : State := ⟨[], some ⟨7, ⟨[99, 10], ⟨4, 2⟩⟩⟩, false, 2, tracked [⟨4, 2⟩, ⟨2, 1⟩], [], [],
      2, false, []⟩
    AllStates (State.step ⟨true, 2, 5⟩) (fun s' => s'.log = s.log ∧ s'.waiting = s.waiting) s
      [.nextTuple .good, .nextTuple .good] := by
  intro s
  let file : File := ⟨7, [97, 10, 98, 10, 99, 10], ⟨0, 0⟩⟩
  have positioned : Positioned file.text file.start := positioned_start _
  refine out_of_order_stops ⟨file, 0, [⟨2, 7, ⟨4, 2⟩⟩, ⟨1, 7, ⟨2, 1⟩⟩]⟩ [⟨2, 7, ⟨4, 2⟩⟩] [] rfl ?_
    positioned ?_ ⟨rfl, rfl⟩ rfl ?_ (by decide) _
  · rintro _ ⟨⟩
    rfl
  · refine ⟨2, rfl, rfl, ?_, ?_, nofun, rfl, nofun⟩
    · intro i lt
      match i, lt with
      | 0, _ | 1, _ => rfl
    · exact List.Perm.swap _ _ _
  · exact List.mem_singleton.mpr rfl

end GitvTime.Guarantees.Hdfs.StuckSpout
