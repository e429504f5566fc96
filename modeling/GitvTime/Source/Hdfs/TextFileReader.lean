import GitvTime.Source.Numbers
import GitvTime.Source.SplitText
import GitvTime.Support.OrderedKeys

/-!
# Reading a file line by line

`spout/TextFileReader.java` and `spout/ProgressTracker.java` of storm-hdfs-plus. The text
is the UTF-16 units that the decoder gives.
-/
namespace GitvTime.Source.Hdfs.TextFileReader
open GitvTime.Support GitvTime.Source.Numbers GitvTime.Source.SplitText

/-- `TextFileReader.Offset`. -/
structure Offset where
  charOffset : Int
  lineNumber : Int
deriving DecidableEq

namespace Offset

/-- `Offset.toString`. -/
def toString (offset : Offset) : String :=
  "\x7bchar=" ++ ToString.toString offset.charOffset ++ ":line=" ++
    ToString.toString offset.lineNumber ++ ":\x7d"

/-- The number behind the equals sign of a part. -/
def number (digits : CharacterDigit) (parts : List String) (index : Nat) : Option Int := do
  let part ← parts[index]?
  let value ← (split '=' part)[1]?
  parseLong digits value

/-- `new Offset(String)`, `none` for an `IllegalArgumentException`. -/
def parse (digits : CharacterDigit) (offset : String) : Option Offset :=
  if offset = "0" then some ⟨0, 0⟩
  else do
    let parts := split ':' offset
    some ⟨← number digits parts 0, ← number digits parts 1⟩

def isNextOffset (offset other : Offset) : Bool :=
  other.charOffset > offset.charOffset && other.lineNumber == offset.lineNumber + 1

end Offset

def lineFeed : UInt16 := 10
def carriageReturn : UInt16 := 13

/-- The reader: what is ahead of it, and its offset. -/
structure Reader where
  ahead : List UInt16
  offset : Offset
deriving DecidableEq

namespace Reader

/-- The constructors; `skip` drops the units in front of the start offset. -/
def create (text : List UInt16) (startOffset : Offset) : Reader where
  ahead := if startOffset.charOffset > 0 then text.drop startOffset.charOffset.toNat else text
  offset := startOffset

/-- The loop of `readLineAndTrackOffset`: the line up to its line feed or the end. -/
def readLoop (sb : List UInt16) (offset : Offset) : List UInt16 → List UInt16 × Reader
  | [] => (sb, ⟨[], offset⟩)
  | ch :: rest =>
    let offset := { offset with charOffset := offset.charOffset + 1 }
    if ch = lineFeed then (sb, ⟨rest, { offset with lineNumber := offset.lineNumber + 1 }⟩)
    else if ch ≠ carriageReturn then readLoop (sb ++ [ch]) offset rest
    else readLoop sb offset rest

/-- `next`, which returns null where nothing was read. -/
def next (reader : Reader) : Option (List UInt16) × Reader :=
  let (line, after) := readLoop [] reader.offset reader.ahead
  (if reader.offset.charOffset = after.offset.charOffset then none else some line, after)

/-- `next` when the stream throws behind this many units of the line: they are gone, and
the line is not counted. -/
def interrupted (reader : Reader) (units : Nat) : Reader :=
  let lost := min units (reader.ahead.takeWhile (· ≠ lineFeed)).length
  ⟨reader.ahead.drop lost,
    { reader.offset with charOffset := reader.offset.charOffset + lost }⟩

end Reader

/-- `ProgressTracker`; the `TreeSet` compares line numbers. -/
abbrev ProgressTracker := OrderedKeys Offset Offset.lineNumber

namespace ProgressTracker

def recordAckedOffset (newOffset : Offset) (tracker : ProgressTracker) : ProgressTracker :=
  let offsets := tracker.add newOffset
  match offsets.first with
  | some currHead =>
    if currHead.isNextOffset newOffset then offsets.trimHead Offset.isNextOffset else offsets
  | none => offsets

def getCommitPosition (tracker : ProgressTracker) : Option Offset := tracker.first

end ProgressTracker

end GitvTime.Source.Hdfs.TextFileReader
