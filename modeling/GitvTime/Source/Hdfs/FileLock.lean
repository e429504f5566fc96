import GitvTime.Source.Hdfs.TextFileReader
import GitvTime.Source.TextFiles

/-!
# The lock of a file

`spout/FileLock.java` of storm-hdfs-plus. The spout that holds the lock logs its progress
into the lock file, and a spout that takes a stale lock over reads the last line of it.
HDFS keeps any part of a line whose write fails. A spout that dies or loses its lease
writes no more.
-/
namespace GitvTime.Source.Hdfs.FileLock
open GitvTime.Source.Numbers GitvTime.Source.SplitText GitvTime.Source.TextFiles TextFileReader

/-- `FileLock.LogEntry`. -/
structure LogEntry where
  eventTime : Int
  componentID : String
  fileOffset : String
deriving DecidableEq

namespace LogEntry

/-- `LogEntry.toString`. -/
def toString (entry : LogEntry) : String :=
  ToString.toString entry.eventTime ++ "," ++ entry.componentID ++ "," ++ entry.fileOffset

/-- `deserialize`, `none` where it throws. -/
def deserialize (digits : CharacterDigit) (line : String) : Option LogEntry := do
  let fields := splitLimit ',' 3 line
  let eventTime ← fields[0]?
  let componentID ← fields[1]?
  let fileOffset ← fields[2]?
  some ⟨← parseLong digits eventTime, componentID, fileOffset⟩

end LogEntry

/-- `getLastEntry`, `none` where it throws: a file without lines has null for its last one. -/
def getLastEntry (digits : CharacterDigit) (lockFile : List Char) : Option LogEntry := do
  let line ← lastLine lockFile
  LogEntry.deserialize digits (String.ofList line)

/-- `getLastEntryIfStale`; the outer `none` throws. An empty file, which it would delete,
has thrown before. -/
def getLastEntryIfStale (digits : CharacterDigit) (lockFile : List Char)
    (modifiedTime olderThan : Int) : Option (Option LogEntry) :=
  if modifiedTime ≤ olderThan then
    (getLastEntry digits lockFile).map fun lastEntry =>
      if lastEntry.eventTime ≤ olderThan then some lastEntry else none
  else some none

/-- A lock file, the spout that writes into it, and the stale entry that the spout which
looks for abandoned locks has found in it. The lock of the directory lets one spout look. -/
structure State where
  lockFile : List Char
  owner : Option String
  found : Option LogEntry
deriving DecidableEq

/-- How much of a line is written: all of it, or so many characters before the write
fails. -/
abbrev Cut := Option Nat

def Cut.apply (cut : Cut) (line : List Char) : List Char :=
  match cut with
  | none => line
  | some count => line.take count

namespace State

/-- `logProgress`; the new line stands in front, for better recovery from partial writes of
prior lines. -/
def logProgress (entry : LogEntry) (prefixNewLine : Bool) (cut : Cut) (s : State) : State :=
  let line := (if prefixNewLine then ['\n'] else []) ++ entry.toString.toList
  { s with lockFile := s.lockFile ++ cut.apply line }

/-- A constructor of `FileLock`, which throws if its write does. -/
def construct (entry : LogEntry) (prefixNewLine : Bool) (cut : Cut) (s : State) : State :=
  { s.logProgress entry prefixNewLine cut with
    owner := if cut.isNone then some entry.componentID else none }

/-- `tryLock`, which made the lock file. -/
def tryLock (now : Int) (spoutId : String) (cut : Cut) : State :=
  construct ⟨now, spoutId, "0"⟩ false cut ⟨[], none, none⟩

/-- `heartbeat`. -/
def heartbeat (now : Int) (fileOffset : Offset) (cut : Cut) (s : State) : Option State :=
  s.owner.map fun spoutId => s.logProgress ⟨now, spoutId, fileOffset.toString⟩ true cut

/-- The call of `getLastEntryIfStale` in `acquireOldestExpiredLock`. -/
def find (digits : CharacterDigit) (modifiedTime olderThan : Int) (s : State) : Option State :=
  (getLastEntryIfStale digits s.lockFile modifiedTime olderThan).map fun lastEntry =>
    { s with found := lastEntry }

/-- `takeOwnership` with the entry that was found; it waits for the lease of an owner. -/
def takeOwnership (now : Int) (spoutId : String) (cut : Cut) (s : State) : Option State :=
  match s.owner, s.found with
  | none, some lastEntry =>
    some { s.construct ⟨now, spoutId, lastEntry.fileOffset⟩ true cut with found := none }
  | _, _ => none

end State

inductive Action where
  | heartbeat (now : Int) (fileOffset : Offset) (cut : Cut)
  | dies
  | find (modifiedTime olderThan : Int)
  | takeOwnership (now : Int) (spoutId : String) (cut : Cut)
deriving DecidableEq

def State.step (digits : CharacterDigit) (s : State) : Action → Option State
  | .heartbeat now fileOffset cut => s.heartbeat now fileOffset cut
  | .dies => s.owner.map fun _ => { s with owner := none }
  | .find modifiedTime olderThan => s.find digits modifiedTime olderThan
  | .takeOwnership now spoutId cut => s.takeOwnership now spoutId cut

end GitvTime.Source.Hdfs.FileLock
