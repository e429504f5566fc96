import GitvTime.Source.Hdfs.HdfsSpout
import GitvTime.Guarantees.Hdfs.AckedOffsets
import GitvTime.Guarantees.Hdfs.ResumedReading
import GitvTime.Support.Runs
import Mathlib.Data.List.Perm.Basic
import Mathlib.Data.List.Nodup

/-!
# The records of the open file

With acks, every record read from the open file is acked, in flight or waiting for a
retry, and is so once, as long as no read fails inside a line: the head of that line is
lost. The file is closed by an ack, and then the records that wait for a retry are
forgotten.
-/
namespace GitvTime.Guarantees.Hdfs.SpoutRecords
open GitvTime.Support GitvTime.Source.Hdfs.TextFileReader GitvTime.Source.Hdfs.HdfsSpout
open AckedOffsets ResumedReading

/-- The history of the open file: what was picked, the counter then, and the acks since. -/
structure Book where
  file : File
  base : Nat
  acked : List MessageId

namespace Book

/-- The reader behind `n` records. -/
def reader (b : Book) (n : Nat) : Reader := readerAt b.file.text b.file.start n

def idOf (b : Book) (i : Nat) : MessageId :=
  ⟨b.base + i + 1, b.file.path, (b.reader (i + 1)).offset⟩

def tupleOf (b : Book) (i : Nat) : Option Tuple := (b.reader i).next.1

end Book

/-- The spout with a file open, of which `n` records were read. -/
structure Holds (b : Book) (n : Nat) (s : State) : Prop where
  counter : s.tupleCounter = b.base + n
  reader : s.reader = some ⟨b.file.path, b.reader n⟩
  read : ∀ i < n, (b.tupleOf i).isSome = true
  accounted : ((s.inflight ++ s.retryList).map Prod.fst ++ b.acked).Perm
    ((List.range n).map b.idOf)
  tuples : ∀ pending ∈ s.inflight ++ s.retryList, ∃ i < n, pending = (b.idOf i, b.tupleOf i)
  tracker : s.tracker = tracked (b.acked.map MessageId.offset)
  complete : s.fileReadCompletely = true → (b.reader n).ahead = []

/-- The spout with no file open. -/
structure Idle (s : State) : Prop where
  reader : s.reader = none
  inflight : s.inflight = []
  retryList : s.retryList = []
  tracker : s.tracker = .empty

/-- The book behind an action. -/
def booked (s : State) (action : Action) (s' : State) : Option Book → Option Book
  | none => if s'.reader.isSome then s.waiting.head?.map (⟨·, s.tupleCounter, []⟩) else none
  | some b =>
    if s'.reader.isSome then
      match action with
      | .ack id _ => some { b with acked := b.acked ++ [id] }
      | _ => some b
    else none

def step (settings : Settings) (w : State × Option Book) (action : Action) :
    Option (State × Option Book) :=
  (w.1.step settings action).map fun s' => (s', booked w.1 action s' w.2)

/-- A read that fails does so in front of a line. -/
def WholeReads : Action → Prop
  | .nextTuple answers => ∀ path units, answers.throwsAt path = some units → units = 0
  | _ => True

/-- The book tells what the spout holds. -/
def Inv : State × Option Book → Prop
  | (s, none) => Idle s
  | (s, some b) => ∃ n, Holds b n s

variable {settings : Settings} {answers : Answers} {b : Book} {n : Nat} {s : State}

theorem next_none_iff (reader : Reader) : reader.next.1 = none ↔ reader.ahead = [] := by
  constructor
  · intro nothing
    obtain ⟨consumed, ⟨split, _, _, ends⟩, none_iff⟩ := next_consumes reader
    rw [none_iff.mp nothing] at split ends
    rcases ends with ⟨empty, _⟩ | ⟨line, whole, _⟩
    · rw [split, empty]
      rfl
    · simp at whole
  · intro empty
    rw [next_of_ahead_nil empty]

theorem interrupted_zero (reader : Reader) : reader.interrupted 0 = reader := by
  simp [Reader.interrupted]

theorem Book.reader_succ (b : Book) (n : Nat) : b.reader (n + 1) = (b.reader n).next.2 := rfl

theorem Book.ids_nodup (b : Book) (n : Nat) : ((List.range n).map b.idOf).Nodup := by
  refine List.Nodup.map (fun i j same => ?_) List.nodup_range
  have number := congrArg MessageId.msgNumber same
  simp only [Book.idOf] at number
  omega

theorem Holds.nodup (holds : Holds b n s) :
    ((s.inflight ++ s.retryList).map Prod.fst ++ b.acked).Nodup :=
  holds.accounted.nodup_iff.mpr (b.ids_nodup n)

/-- A commit touches nothing of this. -/
theorem Holds.commitProgress (holds : Holds b n s) (settings : Settings) (answers : Answers)
    (position : Option Offset) :
    Holds b n (s.commitProgress settings answers position) := by
  obtain ⟨counter, reader, read, accounted, tuples, tracker, complete⟩ := holds
  unfold State.commitProgress
  split
  · exact ⟨counter, reader, read, accounted, tuples, tracker, complete⟩
  · split
    · exact ⟨counter, reader, read, accounted, tuples, tracker, complete⟩
    · exact ⟨counter, reader, read, accounted, tuples, tracker, complete⟩

/-! ### Pending tuples -/

theorem filter_absent {inflight : List (MessageId × Option Tuple)} {id : MessageId}
    (absent : id ∉ inflight.map Prod.fst) : inflight.filter (·.1 ≠ id) = inflight := by
  refine List.filter_eq_self.mpr fun pending member => ?_
  have other : pending.1 ≠ id := fun same => absent (same ▸ List.mem_map_of_mem member)
  exact decide_eq_true other

/-- Taking out a pending tuple. -/
theorem take_out {inflight : List (MessageId × Option Tuple)} {id : MessageId}
    (nodup : (inflight.map Prod.fst).Nodup) (member : id ∈ inflight.map Prod.fst) :
    ∃ tuple front back, inflight = front ++ (id, tuple) :: back ∧
      inflight.filter (·.1 ≠ id) = front ++ back ∧
      inflight.find? (·.1 = id) = some (id, tuple) := by
  obtain ⟨⟨key, tuple⟩, inside, rfl⟩ := List.mem_map.mp member
  obtain ⟨front, back, rfl⟩ := List.append_of_mem inside
  rw [List.map_append, List.map_cons, List.nodup_middle] at nodup
  obtain ⟨absent, _⟩ := List.nodup_cons.mp nodup
  have absent_front : key ∉ front.map Prod.fst := fun inside =>
    absent (List.mem_append_left _ inside)
  have absent_back : key ∉ back.map Prod.fst := fun inside =>
    absent (List.mem_append_right _ inside)
  refine ⟨tuple, front, back, rfl, ?_, ?_⟩
  · rw [List.filter_append, List.filter_cons, filter_absent absent_front,
      filter_absent absent_back]
    simp
  · rw [List.find?_append, List.find?_eq_none.mpr fun pending inside => ?_]
    · simp
    · have other : pending.1 ≠ key := fun same => absent_front (same ▸ List.mem_map_of_mem inside)
      simpa using other

theorem Holds.retried {id : MessageId} {tuple : Option Tuple}
    {rest : List (MessageId × Option Tuple)} (holds : Holds b n s)
    (retries : s.retryList = (id, tuple) :: rest) :
    Holds b n ({ s with retryList := rest }.emitData tuple id) := by
  have nodup := holds.nodup
  have shift : ((s.inflight ++ [(id, tuple)]) ++ rest) = s.inflight ++ s.retryList := by
    rw [retries, List.append_assoc]
    rfl
  have absent : id ∉ s.inflight.map Prod.fst := by
    rw [retries, List.map_append, List.map_cons, List.append_assoc, List.cons_append,
      List.nodup_middle] at nodup
    exact fun inside => (List.nodup_cons.mp nodup).1 (List.mem_append_left _ inside)
  have emitted : ({ s with retryList := rest }.emitData tuple id).inflight =
      s.inflight ++ [(id, tuple)] := congrArg (· ++ [(id, tuple)]) (filter_absent absent)
  obtain ⟨counter, reader, read, accounted, tuples, tracker, complete⟩ := holds
  refine ⟨counter, reader, read, ?_, ?_, tracker, complete⟩
  · rw [emitted]
    exact (congrArg (List.map Prod.fst · ++ b.acked) shift).symm ▸ accounted
  · rw [emitted]
    exact shift.symm ▸ tuples

/-- A record more. -/
theorem Holds.emitted {tuple : Tuple} (holds : Holds b n s)
    (next : (b.reader n).next.1 = some tuple) :
    Holds b (n + 1) (State.emitData (some tuple) (b.idOf n)
      { s with
        reader := some ⟨b.file.path, b.reader (n + 1)⟩
        fileReadCompletely := false
        tupleCounter := s.tupleCounter + 1 }) := by
  have whole : (List.range (n + 1)).map b.idOf = (List.range n).map b.idOf ++ [b.idOf n] := by
    rw [List.range_succ, List.map_append]
    rfl
  have fresh := b.ids_nodup (n + 1)
  rw [whole] at fresh
  have new : b.idOf n ∉ (List.range n).map b.idOf := fun inside =>
    (List.nodup_append.mp fresh).2.2 _ inside _ (List.mem_singleton.mpr rfl) rfl
  have absent : b.idOf n ∉ s.inflight.map Prod.fst := by
    refine fun inside => new (holds.accounted.subset (List.mem_append_left _ ?_))
    rw [List.map_append]
    exact List.mem_append_left _ inside
  obtain ⟨counter, reader, read, accounted, tuples, tracker, complete⟩ := holds
  have inflight : s.inflight.filter (·.1 ≠ b.idOf n) = s.inflight := filter_absent absent
  refine ⟨?_, rfl, fun i lt => ?_, ?_, fun pending member => ?_, tracker, nofun⟩
  · show s.tupleCounter + 1 = _
    rw [counter]
    rfl
  · rcases Nat.lt_succ_iff_lt_or_eq.mp lt with lt | rfl
    · exact read i lt
    · rw [Book.tupleOf, next]
      rfl
  · have shuffled : (((s.inflight ++ [(b.idOf n, some tuple)]) ++ s.retryList).map Prod.fst ++
        b.acked).Perm (((s.inflight ++ s.retryList).map Prod.fst ++ b.acked) ++ [b.idOf n]) := by
      simp only [List.map_append, List.map_cons, List.append_assoc, List.singleton_append]
      refine List.Perm.append_left _ ?_
      rw [← List.append_assoc]
      exact (List.perm_append_singleton _ _).symm
    simp only [State.emitData, inflight, whole]
    exact shuffled.trans (accounted.append_right _)
  · simp only [State.emitData, inflight] at member
    rcases List.mem_append.mp member with member | member
    · rcases List.mem_append.mp member with member | member
      · obtain ⟨i, lt, same⟩ := tuples pending (List.mem_append_left _ member)
        exact ⟨i, Nat.lt_succ_of_lt lt, same⟩
      · rw [List.mem_singleton.mp member]
        exact ⟨n, Nat.lt_succ_self n, by rw [Book.tupleOf, next]⟩
    · obtain ⟨i, lt, same⟩ := tuples pending (List.mem_append_right _ member)
      exact ⟨i, Nat.lt_succ_of_lt lt, same⟩

/-! ### The calls of Storm -/

/-- A round of the loop with this file open. -/
theorem Holds.readRecord (acks : settings.ackEnabled = true) (holds : Holds b n s)
    (whole : WholeReads (.nextTuple answers)) :
    ∃ s' n', State.readRecord settings answers ⟨b.file.path, b.reader n⟩ s = (s', true) ∧
      Holds b n' s' := by
  unfold State.readRecord
  cases throws : answers.throwsAt b.file.path with
  | some units =>
    obtain ⟨counter, reader, read, accounted, tuples, tracker, complete⟩ := holds
    refine ⟨_, n, rfl, counter, ?_, read, accounted, tuples, tracker, complete⟩
    rw [whole _ _ throws, interrupted_zero]
  | none =>
  cases next : (b.reader n).next with
  | mk read after =>
    have at_after : b.reader (n + 1) = after := congrArg Prod.snd next
    cases read with
    | some tuple =>
      have emitted := holds.emitted (congrArg Prod.fst next)
      have id : (⟨s.tupleCounter + 1, b.file.path, after.offset⟩ : MessageId) = b.idOf n := by
        rw [Book.idOf, at_after, holds.counter]
      simp only [acks, if_true]
      refine ⟨_, n + 1, rfl, ?_⟩
      rw [id, ← at_after]
      exact emitted.commitProgress _ _ _
    | none =>
      have empty : (b.reader n).ahead = [] := (next_none_iff _).mp (congrArg Prod.fst next)
      have still : after = b.reader n := by
        rw [next_of_ahead_nil empty] at next
        exact (congrArg Prod.snd next).symm
      simp only [acks, if_true]
      obtain ⟨counter, reader, read, accounted, tuples, tracker, complete⟩ := holds
      refine ⟨_, n, rfl, counter, ?_, read, accounted, tuples, tracker, fun _ => empty⟩
      rw [still]

theorem nextTuple_holds (acks : settings.ackEnabled = true) (holds : Holds b n s)
    (whole : WholeReads (.nextTuple answers)) :
    ∃ n', Holds b n' (s.nextTuple settings answers) := by
  unfold State.nextTuple
  split
  case h_1 id tuple rest retries => exact ⟨n, holds.retried retries⟩
  case h_2 =>
    split
    · exact ⟨n, holds⟩
    · rw [holds.reader]
      dsimp only
      split
      · exact ⟨n, holds⟩
      · obtain ⟨s', n', read, holds'⟩ := holds.readRecord acks whole
        rw [read]
        exact ⟨n', holds'⟩

/-- The file that is picked next is opened at its start. -/
theorem nextTuple_idle (acks : settings.ackEnabled = true) (idle : Idle s)
    (whole : WholeReads (.nextTuple answers)) :
    Inv (s.nextTuple settings answers, booked s (.nextTuple answers)
      (s.nextTuple settings answers) none) := by
  unfold State.nextTuple
  rw [idle.retryList]
  dsimp only
  split
  · simp only [booked, idle.reader]
    exact idle
  · rw [idle.reader]
    dsimp only
    cases waiting : s.waiting with
    | nil =>
      simp only [State.pickNextFile, booked, idle.reader]
      exact idle
    | cons file rest =>
      have opened : Holds ⟨file, s.tupleCounter, []⟩ 0
          { s with
            waiting := rest
            fileReadCompletely := false
            reader := some ⟨file.path, .create file.text file.start⟩ } := by
        refine ⟨rfl, rfl, nofun, ?_, ?_, idle.tracker, nofun⟩
        · simp [idle.inflight, idle.retryList]
        · simp [idle.inflight, idle.retryList]
      obtain ⟨s', n', read, holds⟩ := opened.readRecord acks whole
      have same : State.readRecord settings answers ⟨file.path, .create file.text file.start⟩
          { s with waiting := rest, fileReadCompletely := false } = (s', true) := by
        rw [← read]
        rfl
      simp only [State.pickNextFile, same, booked, holds.reader, waiting]
      exact ⟨n', holds⟩

theorem Holds.acked {id : MessageId} (holds : Holds b n s)
    (pending : id ∈ s.inflight.map Prod.fst) :
    Holds { b with acked := b.acked ++ [id] } n
      { s with
        inflight := s.inflight.filter (·.1 ≠ id)
        acksSinceLastCommit := s.acksSinceLastCommit + 1
        tracker := ProgressTracker.recordAckedOffset id.offset s.tracker } := by
  have nodup := holds.nodup
  rw [List.map_append, List.append_assoc] at nodup
  obtain ⟨tuple, front, back, inflight, filtered, _⟩ :=
    take_out (List.nodup_append.mp nodup).1 pending
  obtain ⟨counter, reader, read, accounted, tuples, tracker, complete⟩ := holds
  refine ⟨counter, reader, read, ?_, fun other member => tuples other ?_, ?_, complete⟩
  · simp only [filtered]
    rw [inflight] at accounted
    refine List.Perm.trans ?_ accounted
    simp only [List.map_append, List.map_cons, List.append_assoc, List.cons_append]
    refine List.Perm.append_left _ ?_
    refine (List.Perm.append_left _ (List.Perm.append_left _ List.perm_append_comm)).trans ?_
    rw [List.singleton_append, ← List.append_assoc, ← List.append_assoc]
    exact List.perm_middle
  · simp only [filtered] at member
    rw [inflight]
    rcases List.mem_append.mp member with member | member
    · refine List.mem_append_left _ ?_
      rcases List.mem_append.mp member with member | member
      · exact List.mem_append_left _ member
      · exact List.mem_append_right _ (List.mem_cons_of_mem _ member)
    · exact List.mem_append_right _ member
  · simp only [tracker, List.map_append, List.map_cons, List.map_nil, tracked_append]

theorem Holds.failed {id : MessageId} (acks : settings.ackEnabled = true) (holds : Holds b n s)
    (pending : id ∈ s.inflight.map Prod.fst) : Holds b n (s.fail settings id) := by
  have nodup := holds.nodup
  rw [List.map_append, List.append_assoc] at nodup
  obtain ⟨tuple, front, back, inflight, filtered, found⟩ :=
    take_out (List.nodup_append.mp nodup).1 pending
  have shuffled : ((front ++ back) ++ (s.retryList ++ [(id, tuple)])).Perm
      (s.inflight ++ s.retryList) := by
    rw [inflight, List.append_assoc, List.append_assoc, List.cons_append]
    refine List.Perm.append_left _ ?_
    rw [← List.append_assoc]
    exact List.perm_append_singleton _ _
  unfold State.fail
  rw [if_pos acks, found, filtered]
  obtain ⟨counter, reader, read, accounted, tuples, tracker, complete⟩ := holds
  refine ⟨counter, reader, read, ?_, fun other member => tuples other ?_, tracker, complete⟩
  · exact ((shuffled.map Prod.fst).append_right _).trans accounted
  · exact shuffled.subset member

theorem commitProgress_frame (settings : Settings) (answers : Answers) (position : Option Offset)
    (s : State) :
    (s.commitProgress settings answers position).inflight = s.inflight ∧
      (s.commitProgress settings answers position).fileReadCompletely = s.fileReadCompletely := by
  unfold State.commitProgress
  split
  · exact ⟨rfl, rfl⟩
  · split <;> exact ⟨rfl, rfl⟩

/-- An ack leaves the file open, or it was the last one in flight and the file was read
completely. -/
theorem Holds.ack_cases {id : MessageId} (acks : settings.ackEnabled = true) (holds : Holds b n s)
    (answers : Answers) (pending : id ∈ s.inflight.map Prod.fst) :
    ∃ s', s.ack settings answers id = some s' ∧
      (Holds { b with acked := b.acked ++ [id] } n s' ∨
        Idle s' ∧ s.fileReadCompletely = true ∧ s.inflight.filter (·.1 ≠ id) = []) := by
  unfold State.ack
  rw [if_pos acks]
  dsimp only
  have after := (holds.acked pending).commitProgress settings answers
    (ProgressTracker.getCommitPosition (ProgressTracker.recordAckedOffset id.offset s.tracker))
  obtain ⟨inflight, complete⟩ := commitProgress_frame settings answers
    (ProgressTracker.getCommitPosition (ProgressTracker.recordAckedOffset id.offset s.tracker))
    { s with
      inflight := s.inflight.filter (·.1 ≠ id)
      acksSinceLastCommit := s.acksSinceLastCommit + 1
      tracker := ProgressTracker.recordAckedOffset id.offset s.tracker }
  split
  case isTrue last =>
    rw [Bool.and_eq_true, List.isEmpty_iff, inflight, complete] at last
    rw [after.reader]
    exact ⟨_, rfl, .inr ⟨⟨rfl, rfl, rfl, rfl⟩, last.1, last.2⟩⟩
  case isFalse => exact ⟨_, rfl, .inl after⟩

/-- Behind the last ack of a file, all its records are acked exactly if none of them
waits for a retry. -/
theorem Holds.all_acked_iff {id : MessageId} (holds : Holds b n s)
    (pending : id ∈ s.inflight.map Prod.fst) (last : s.inflight.filter (·.1 ≠ id) = []) :
    (∀ i < n, b.idOf i ∈ b.acked ++ [id]) ↔ s.retryList = [] := by
  have accounted := (holds.acked pending).accounted
  have nodup := (holds.acked pending).nodup
  have tuples := (holds.acked pending).tuples
  simp only [last, List.nil_append] at accounted nodup tuples
  constructor
  · intro all
    cases retries : s.retryList with
    | nil => rfl
    | cons first rest =>
      obtain ⟨i, lt, rfl⟩ := tuples first (retries ▸ List.mem_cons_self)
      rw [retries, List.map_cons, List.cons_append] at nodup
      exact absurd (List.mem_append_right _ (all i lt)) (List.nodup_cons.mp nodup).1
  · intro none_left i lt
    rw [none_left, List.map_nil, List.nil_append] at accounted
    exact accounted.symm.subset (List.mem_map.mpr ⟨i, List.mem_range.mpr lt, rfl⟩)

/-! ### Whole runs -/

theorem Holds.booked {b' : Book} {n' : Nat} {s s' : State} {action : Action}
    (holds' : Holds b' n' s') :
    booked s action s' (some b) = some (match action with
      | .ack id _ => { b with acked := b.acked ++ [id] }
      | _ => b) := by
  simp only [SpoutRecords.booked, holds'.reader, Option.isSome_some, if_true]
  cases action <;> rfl

theorem Idle.booked {s s' : State} {action : Action} {book : Option Book} (idle : Idle s') :
    booked s action s' book = none := by
  cases book <;> simp [SpoutRecords.booked, idle.reader]

theorem Inv.step {w w' : State × Option Book} {action : Action}
    (acks : settings.ackEnabled = true) (inv : Inv w) (whole : WholeReads action)
    (taken : step settings w action = some w') : Inv w' := by
  obtain ⟨s, book⟩ := w
  obtain ⟨s', stepped, rfl⟩ := Option.map_eq_some_iff.mp taken
  cases book with
  | none =>
    have idle : Idle s := inv
    cases action with
    | nextTuple answers =>
      cases stepped
      exact nextTuple_idle acks idle whole
    | ack id answers | fail id =>
      simp only [State.step, idle.inflight, List.map_nil, List.not_mem_nil, if_false] at stepped
      cases stepped
    | timer =>
      cases stepped
      have still : Idle { s with commitTimeElapsed := true } :=
        ⟨idle.reader, idle.inflight, idle.retryList, idle.tracker⟩
      rw [still.booked]
      exact ⟨idle.reader, idle.inflight, idle.retryList, idle.tracker⟩
  | some b =>
    obtain ⟨n, holds⟩ := inv
    cases action with
    | nextTuple answers =>
      cases stepped
      obtain ⟨n', holds'⟩ := nextTuple_holds acks holds whole
      rw [holds'.booked]
      exact ⟨n', holds'⟩
    | ack id answers =>
      obtain ⟨pending, stepped⟩ := Option.ite_none_right_eq_some.mp stepped
      obtain ⟨_, acked, holds' | ⟨idle, _⟩⟩ := holds.ack_cases acks answers pending
      · cases stepped.symm.trans acked
        rw [holds'.booked]
        exact ⟨n, holds'⟩
      · cases stepped.symm.trans acked
        rw [idle.booked]
        exact idle
    | fail id =>
      obtain ⟨pending, stepped⟩ := Option.ite_none_right_eq_some.mp stepped
      cases stepped
      have holds' := holds.failed acks pending
      rw [holds'.booked]
      exact ⟨n, holds'⟩
    | timer =>
      cases stepped
      have holds' : Holds b n { s with commitTimeElapsed := true } :=
        ⟨holds.counter, holds.reader, holds.read, holds.accounted, holds.tuples, holds.tracker,
          holds.complete⟩
      rw [holds'.booked]
      exact ⟨n, holds'⟩

theorem inv_init (waiting : List File) : Inv (.init waiting, none) := ⟨rfl, rfl, rfl, rfl⟩

/-- In every state with a file open, the records read from it are acked, in flight or
waiting for a retry, and each of them once. -/
theorem records_accounted (settings : Settings) (waiting : List File)
    (acks : settings.ackEnabled = true) (actions : List Action)
    (whole : ∀ action ∈ actions, WholeReads action) :
    AllStates (step settings) Inv (.init waiting, none) actions :=
  .of_allSteps (fun _ _ _ inv whole taken => inv.step acks whole taken) actions
    (inv_init waiting) (.of_forall whole)

/-- The first record fails and the second one is acked. -/
def twoRecords : List Action :=
  [.nextTuple .good, .nextTuple .good, .fail ⟨1, 7, ⟨2, 1⟩⟩, .nextTuple .good,
    .ack ⟨2, 7, ⟨4, 2⟩⟩ .good]

theorem records_accounted_two :
    AllStates (step ⟨true, 10, 1⟩) Inv (.init [⟨7, [97, 10, 98, 10], ⟨0, 0⟩⟩], none)
      twoRecords := by
  refine records_accounted ⟨true, 10, 1⟩ _ rfl twoRecords fun action member => ?_
  simp only [twoRecords, List.mem_cons, List.not_mem_nil, or_false] at member
  rcases member with rfl | rfl | rfl | rfl | rfl <;> first | trivial | exact nofun

/-- A read that fails inside the line loses the head of it. -/
example : (State.nextTuple ⟨true, 10, 1⟩ .good (State.nextTuple ⟨true, 10, 1⟩
    ⟨true, true, fun _ => some 1⟩ (.init [⟨7, [97, 98, 10], ⟨0, 0⟩⟩]))).log =
      [.emitted ⟨1, 7, ⟨3, 1⟩⟩ (some [98])] := by
  decide

/-- A file is closed by an ack when it was read completely, and all of the records read
from it were acked exactly if none of them waits for a retry. -/
theorem closed_iff_no_retry (settings : Settings) (waiting : List File)
    (acks : settings.ackEnabled = true) (actions : List Action)
    (whole : ∀ action ∈ actions, WholeReads action) :
    AllSteps (step settings) (fun w action => ∀ b s', w.2 = some b →
      w.1.step settings action = some s' → s'.reader = none →
        ∃ n id answers, action = .ack id answers ∧ w.1.tupleCounter = b.base + n ∧
          w.1.reader = some ⟨b.file.path, b.reader n⟩ ∧ (b.reader n).ahead = [] ∧
          ((∀ i < n, b.idOf i ∈ b.acked ++ [id]) ↔ w.1.retryList = []))
      (.init waiting, none) actions := by
  refine .of_allSteps (fun _ _ _ inv whole taken => inv.step acks whole taken) ?_ actions
    (inv_init waiting) (.of_forall whole)
  rintro ⟨s, book⟩ action next inv whole _ b s' rfl stepped closed
  obtain ⟨n, holds⟩ := inv
  have opened : ∀ {b' n' s'}, Holds b' n' s' → s'.reader ≠ none := fun holds' nothing => by
    rw [holds'.reader] at nothing
    cases nothing
  cases action with
  | nextTuple answers =>
    cases stepped
    obtain ⟨n', holds'⟩ := nextTuple_holds acks holds whole
    exact absurd closed (opened holds')
  | fail id =>
    obtain ⟨pending, stepped⟩ := Option.ite_none_right_eq_some.mp stepped
    cases stepped
    exact absurd closed (opened (holds.failed acks pending))
  | timer =>
    cases stepped
    exact absurd (holds.reader.symm.trans closed) nofun
  | ack id answers =>
    obtain ⟨pending, stepped⟩ := Option.ite_none_right_eq_some.mp stepped
    obtain ⟨_, acked, holds' | ⟨_, complete, empty⟩⟩ := holds.ack_cases acks answers pending
    · cases stepped.symm.trans acked
      exact absurd closed (opened holds')
    · exact ⟨n, id, answers, rfl, holds.counter, holds.reader, holds.complete complete,
        holds.all_acked_iff pending empty⟩

/-- The second record has failed when the first one is acked. -/
def closedEarly : List Action :=
  [.nextTuple .good, .nextTuple .good, .nextTuple .good, .fail ⟨2, 7, ⟨4, 2⟩⟩,
    .ack ⟨1, 7, ⟨2, 1⟩⟩ .good]

theorem closed_iff_no_retry_two :
    AllSteps (step ⟨true, 10, 1⟩) (fun w action => ∀ b s', w.2 = some b →
      w.1.step ⟨true, 10, 1⟩ action = some s' → s'.reader = none →
        ∃ n id answers, action = .ack id answers ∧ w.1.tupleCounter = b.base + n ∧
          w.1.reader = some ⟨b.file.path, b.reader n⟩ ∧ (b.reader n).ahead = [] ∧
          ((∀ i < n, b.idOf i ∈ b.acked ++ [id]) ↔ w.1.retryList = []))
      (.init [⟨7, [97, 10, 98, 10], ⟨0, 0⟩⟩], none) closedEarly := by
  refine closed_iff_no_retry ⟨true, 10, 1⟩ _ rfl closedEarly fun action member => ?_
  simp only [closedEarly, List.mem_cons, List.not_mem_nil, or_false] at member
  rcases member with rfl | rfl | rfl | rfl | rfl <;> first | trivial | exact nofun

end GitvTime.Guarantees.Hdfs.SpoutRecords
