import GitvTime.Source.Hdfs.TextFileReader

/-!
# The HDFS spout

`spout/HdfsSpout.java` of storm-hdfs-plus with the text reader: `nextTuple`, `ack`,
`fail` and the commits into the lock file. What `pickNextFile` finds are the waiting
files in order, each with the offset to start from. The text reader throws no
`ParseException`, so no file is marked as bad.
-/
namespace GitvTime.Source.Hdfs.HdfsSpout
open GitvTime.Support TextFileReader

structure Settings where
  ackEnabled : Bool
  maxOutstanding : Nat
  commitFrequencyCount : Int

/-- A file to pick, new or abandoned. -/
structure File where
  path : Nat
  text : List UInt16
  start : Offset

/-- `HdfsSpout.MessageId`. -/
structure MessageId where
  msgNumber : Nat
  fullPath : Nat
  offset : Offset
deriving DecidableEq

abbrev Tuple := List UInt16

/-- The open file: its path and reader. -/
structure OpenFile where
  path : Nat
  reader : Reader

/-- The answers of HDFS in one call: to the heartbeat, to the rename, and to the read of
the file with a path, which may throw an `IOException` behind some units of the line. -/
structure Answers where
  heartbeats : Bool
  renames : Bool
  throwsAt : Nat → Option Nat

/-- HDFS does as asked. -/
def Answers.good : Answers := ⟨true, true, fun _ => none⟩

inductive Event where
  | emitted (id : MessageId) (tuple : Option Tuple)
  | committed (position : Offset)
  | archived (path : Nat)
deriving DecidableEq

structure State where
  waiting : List File
  reader : Option OpenFile
  fileReadCompletely : Bool
  tupleCounter : Nat
  tracker : ProgressTracker
  inflight : List (MessageId × Option Tuple)
  retryList : List (MessageId × Option Tuple)
  acksSinceLastCommit : Int
  commitTimeElapsed : Bool
  log : List Event

namespace State

variable (settings : Settings) (answers : Answers)

/-- A spout after `open`. -/
def init (waiting : List File) : State :=
  ⟨waiting, none, true, 0, .empty, [], [], 0, false, []⟩

/-- `emitData`. -/
def emitData (tuple : Option Tuple) (id : MessageId) (s : State) : State :=
  { s with
    inflight := s.inflight.filter (·.1 ≠ id) ++ [(id, tuple)]
    log := .emitted id tuple :: s.log }

def canCommitNow (s : State) : Bool :=
  (settings.commitFrequencyCount > 0 && s.acksSinceLastCommit ≥ settings.commitFrequencyCount) ||
    s.commitTimeElapsed

/-- `commitProgress`. -/
def commitProgress (position : Option Offset) (s : State) : State :=
  match position with
  | none => s
  | some position =>
    if s.canCommitNow settings && answers.heartbeats then
      { s with
        acksSinceLastCommit := 0
        commitTimeElapsed := false
        log := .committed position :: s.log }
    else s

/-- `markFileAsDone` with `closeReaderAndResetTrackers`. -/
def markFileAsDone (path : Nat) (s : State) : State :=
  { s with
    inflight := []
    tracker := .empty
    retryList := []
    reader := none
    log := if answers.renames then .archived path :: s.log else s.log }

/-- One round of the loop in `nextTuple` with a file open, and whether the call returns. -/
def readRecord (file : OpenFile) (s : State) : State × Bool :=
  match answers.throwsAt file.path, file.reader.next with
  | some units, _ =>
    ({ s with reader := some { file with reader := file.reader.interrupted units } }, true)
  | none, (some tuple, reader) =>
    let s := { s with
      reader := some { file with reader := reader }
      fileReadCompletely := false
      tupleCounter := s.tupleCounter + 1 }
    let s := s.emitData tuple ⟨s.tupleCounter, file.path, reader.offset⟩
    if settings.ackEnabled then
      (s.commitProgress settings answers (ProgressTracker.getCommitPosition s.tracker), true)
    else
      let s := { s with acksSinceLastCommit := s.acksSinceLastCommit + 1 }
      (s.commitProgress settings answers (some reader.offset), true)
  | none, (none, reader) =>
    let s := { s with
      reader := some { file with reader := reader }
      fileReadCompletely := true }
    if settings.ackEnabled then (s, true) else (s.markFileAsDone answers file.path, false)

/-- The loop in `nextTuple` with no file open. -/
def pickNextFile : List File → State → State
  | [], s => s
  | file :: rest, s =>
    let s := { s with waiting := rest, fileReadCompletely := false }
    match s.readRecord settings answers ⟨file.path, .create file.text file.start⟩ with
    | (s, true) => s
    | (s, false) => pickNextFile rest s

/-- `nextTuple`. -/
def nextTuple (s : State) : State :=
  match s.retryList with
  | (id, tuple) :: rest => { s with retryList := rest }.emitData tuple id
  | [] =>
    if settings.ackEnabled && s.tracker.size ≥ settings.maxOutstanding then s
    else
      match s.reader with
      | none => s.pickNextFile settings answers s.waiting
      | some file =>
        if s.fileReadCompletely then s
        else
          match s.readRecord settings answers file with
          | (s, true) => s
          | (s, false) => s.pickNextFile settings answers s.waiting

/-- `ack`, `none` where `reader` is null. -/
def ack (id : MessageId) (s : State) : Option State :=
  if settings.ackEnabled then
    let s := { s with
      inflight := s.inflight.filter (·.1 ≠ id)
      acksSinceLastCommit := s.acksSinceLastCommit + 1
      tracker := s.tracker.recordAckedOffset id.offset }
    let s := s.commitProgress settings answers (ProgressTracker.getCommitPosition s.tracker)
    if s.fileReadCompletely && s.inflight.isEmpty then
      s.reader.map fun file => s.markFileAsDone answers file.path
    else some s
  else some s

/-- `fail`. -/
def fail (id : MessageId) (s : State) : State :=
  if settings.ackEnabled then
    { s with
      inflight := s.inflight.filter (·.1 ≠ id)
      retryList := s.retryList ++ [(id, (s.inflight.find? (·.1 = id)).bind Prod.snd)] }
  else s

end State

/-- What Storm and the timer do. -/
inductive Action where
  | nextTuple (answers : Answers)
  | ack (id : MessageId) (answers : Answers)
  | fail (id : MessageId)
  | timer

/-- Storm answers a tuple that was emitted and not yet answered. -/
def State.step (settings : Settings) (s : State) : Action → Option State
  | .nextTuple answers => some (s.nextTuple settings answers)
  | .ack id answers =>
    if id ∈ s.inflight.map Prod.fst then s.ack settings answers id else none
  | .fail id => if id ∈ s.inflight.map Prod.fst then some (s.fail settings id) else none
  | .timer => some { s with commitTimeElapsed := true }

end GitvTime.Source.Hdfs.HdfsSpout
