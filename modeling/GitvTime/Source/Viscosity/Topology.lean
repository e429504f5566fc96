import GitvTime.Source.Numbers
import GitvTime.Source.Patterns
import GitvTime.Source.Viscosity.Play
import GitvTime.Support.TupleTree

/-!
# The play topology

`Start_up` of viscosity-play: the spout's lines go through `TopFilter_Bolt` to a
distribute bolt for each kind of play, from there to the read bolts of both
tables or to `NoSrcName_Bolt`, and from a read bolt's callback to an insert or
update bolt. A bolt acks and fails its input in the tuple trees of Storm; the
callbacks of the two `AsyncBack` classes are steps of their own.
-/
namespace GitvTime.Source.Viscosity

open GitvTime.Source.Numbers GitvTime.Source.Patterns GitvTime.Source.StringHandle
open GitvTime.Support

/-! ### The live rows -/

/-- A tuple on `LIV_TO_USER`. -/
structure LivToUser where
  partner : String
  mac : String
  srcName : String
  chnCode : String
  albumName : String
  playOrder : String
  playLength : Long
  timeLength : Long
  logDate : String

/-- A tuple on `LIV_TO_PROGRAM`. -/
structure LivToProgram where
  partner : String
  srcName : String
  chnCode : String
  albumName : String
  playOrder : String
  province : String
  city : String
  playLength : Long
  timeLength : Long
  logDate : String

def livUserColumns : List String :=
  ["partner", "mac", "srcName", "chnCode", "albumName", "playOrder", "logDate"]

def livProgramColumns : List String :=
  ["partner", "srcName", "chnCode", "albumName", "playOrder", "province", "city", "logDate"]

/-- The key columns that `Mapper_Liv` binds for a user row. -/
def LivToUser.key (parseTimestamp : String → Option Int) (input : LivToUser) : List Value :=
  [.text input.partner, .text input.mac, .text input.srcName, .text input.chnCode,
    .text input.albumName, .text input.playOrder, .ofDate (parseTimestamp input.logDate)]

/-- The key columns that `Mapper_Liv` binds for a program row. -/
def LivToProgram.key (parseTimestamp : String → Option Int) (input : LivToProgram) : List Value :=
  [.text input.partner, .text input.srcName, .text input.chnCode, .text input.albumName,
    .text input.playOrder, .text input.province, .text input.city,
    .ofDate (parseTimestamp input.logDate)]

/-- The bolts behind `liv_distribute` for the table `liv_viscosity_user`. -/
def livUser (parseTimestamp : String → Option Int) : Pipeline LivToUser where
  read := ⟨"liv_viscosity_user", livUserColumns⟩
  insertNew := ⟨"liv_viscosity_user",
    [("click_num", .literal 1), ("playLength", .bound), ("timeLength", .bound)], livUserColumns⟩
  updateNew := ⟨"liv_viscosity_user",
    [("click_num", .literal 1), ("playLength", .bound)], livUserColumns⟩
  bindRead := LivToUser.key parseTimestamp
  bindInsert input :=
    .bigint input.playLength :: .bigint input.timeLength :: input.key parseTimestamp
  bindUpdate input := .bigint input.playLength :: input.key parseTimestamp
  playLength := LivToUser.playLength
  timeLength := LivToUser.timeLength

/-- The bolts behind `liv_distribute` for the table `liv_viscosity_program`. -/
def livProgram (parseTimestamp : String → Option Int) : Pipeline LivToProgram where
  read := ⟨"liv_viscosity_program", livProgramColumns⟩
  insertNew := ⟨"liv_viscosity_program",
    [("click_num", .literal 1), ("playLength", .bound), ("timeLength", .bound)], livProgramColumns⟩
  updateNew := ⟨"liv_viscosity_program",
    [("click_num", .literal 1), ("playLength", .bound)], livProgramColumns⟩
  bindRead := LivToProgram.key parseTimestamp
  bindInsert input :=
    .bigint input.playLength :: .bigint input.timeLength :: input.key parseTimestamp
  bindUpdate input := .bigint input.playLength :: input.key parseTimestamp
  playLength := LivToProgram.playLength
  timeLength := LivToProgram.timeLength

/-! ### The filter and the distribute bolts -/

/-- A tuple on `VOD_DIS`. -/
structure VodDis where
  partner : String
  mac : String
  srcId : String
  chnName : String
  chnId : String
  albumName : String
  albumId : String
  playOrder : String
  videoId : String
  timeLength : String
  playLength : String
  logDate : String
  city : String
  province : String

/-- A tuple on `LIV_DIS`. -/
structure LivDis where
  partner : String
  mac : String
  srcId : String
  chnCode : String
  albumName : String
  playOrder : String
  timeLength : String
  playLength : String
  logDate : String
  city : String
  province : String

/-- The `get` calls of `TopFilter_Bolt` on a vod line; one beyond the end throws. -/
def vodDis (contents : List String) : Option VodDis := do
  let partner ← contents[3]?
  let mac ← contents[5]?
  let srcId ← contents[16]?
  let chnName ← contents[15]?
  let chnId ← contents[14]?
  let albumName ← contents[10]?
  let albumId ← contents[9]?
  let playOrder ← contents[22]?
  let videoId ← contents[11]?
  let timeLength ← contents[13]?
  let playLength ← contents[19]?
  let logDate ← contents[30]?
  let city ← contents[33]?
  let province ← contents[35]?
  pure ⟨partner, mac, srcId, chnName, chnId, albumName, albumId, playOrder, videoId, timeLength,
    playLength, logDate, city, province⟩

/-- The `get` calls of `TopFilter_Bolt` on a livod line. -/
def livDis (contents : List String) : Option LivDis := do
  let partner ← contents[3]?
  let mac ← contents[5]?
  let srcId ← contents[16]?
  let chnCode ← contents[28]?
  let albumName ← contents[10]?
  let playOrder ← contents[22]?
  let timeLength ← contents[13]?
  let playLength ← contents[19]?
  let logDate ← contents[33]?
  let city ← contents[36]?
  let province ← contents[37]?
  pure ⟨partner, mac, srcId, chnCode, albumName, playOrder, timeLength, playLength, logDate, city,
    province⟩

/-- A tuple on one of the streams behind the distribute bolts. -/
inductive RowTuple where
  | vodUser (tuple : VodToUser)
  | vodProgram (tuple : VodToProgram)
  | livUser (tuple : LivToUser)
  | livProgram (tuple : LivToProgram)

/-- A tuple at the bolt that it is for, or its read's answer at the callback. -/
inductive Task where
  | topFilter (info : String)
  | vodDistribute (input : VodDis)
  | livDistribute (input : LivDis)
  | viscosity (input : RowTuple)
  | answered (input : RowTuple) (backCode : Nat)
  | write (stream : Stream) (input : RowTuple)
  | noSrcName (srcId : String)

/-- What `TopFilter_Bolt` emits for a line. -/
def topFilter (info : String) : Option Task :=
  if isBlank (some info) then none
  else
    let contents := strSplitTrim info
    match contents[0]? with
    | some "vod" => (vodDis contents).map .vodDistribute
    | some "livod" => (livDis contents).map .livDistribute
    | _ => none

/-- `isLegalField` of `VOD_Distribute_Bolt`. -/
def VodDis.isLegal (input : VodDis) : Bool :=
  isLegalField [some input.partner, some input.mac, some input.albumName, some input.albumId,
    some input.timeLength, some input.playLength, some input.chnName, some input.chnId,
    some input.logDate, some input.srcId]

/-- `isLegalField` of `LIV_Distribute_Bolt`. -/
def LivDis.isLegal (input : LivDis) : Bool :=
  isLegalField [some input.partner, some input.mac, some input.albumName, some input.timeLength,
    some input.playLength, some input.chnCode, some input.logDate, some input.srcId]

section
variable (digits : CharacterDigit) (srcNames : String → Option String)

/-- `VOD_Distribute_Bolt.execute`: what it emits. -/
def vodDistribute (input : VodDis) : List Task :=
  if input.isLegal then
    match parseLong digits input.timeLength, parseLong digits input.playLength with
    | some timeLength, some playLength =>
      match srcNames input.srcId with
      | some srcName =>
        [.viscosity (.vodUser ⟨input.partner, input.mac, srcName, input.chnName, input.chnId,
          input.albumName, input.albumId, some input.playOrder, some input.videoId,
          .ofInt 64 playLength, .ofInt 64 timeLength, input.logDate⟩),
        .viscosity (.vodProgram ⟨input.partner, srcName, input.chnName, input.chnId,
          input.albumName, input.albumId, some input.playOrder, some input.videoId,
          some input.province, some input.city, .ofInt 64 playLength, .ofInt 64 timeLength,
          input.logDate⟩)]
      | none => [.noSrcName input.srcId]
    | _, _ => []
  else []

/-- `LIV_Distribute_Bolt.execute`: what it emits. -/
def livDistribute (input : LivDis) : List Task :=
  if input.isLegal then
    match parseLong digits input.timeLength, parseLong digits input.playLength with
    | some timeLength, some playLength =>
      match srcNames input.srcId with
      | some srcName =>
        [.viscosity (.livUser ⟨input.partner, input.mac, srcName, input.chnCode, input.albumName,
          input.playOrder, .ofInt 64 playLength, .ofInt 64 timeLength, input.logDate⟩),
        .viscosity (.livProgram ⟨input.partner, srcName, input.chnCode, input.albumName,
          input.playOrder, input.province, input.city, .ofInt 64 playLength,
          .ofInt 64 timeLength, input.logDate⟩)]
      | none => [.noSrcName input.srcId]
    | _, _ => []
  else []

end

/-! ### The bolts in their trees -/

/-- Whose row an increment is for. -/
inductive RowSide where
  | user
  | program
deriving DecidableEq

def RowTuple.side : RowTuple → RowSide
  | .vodUser _ => .user
  | .vodProgram _ => .program
  | .livUser _ => .user
  | .livProgram _ => .program

/-- How Cassandra answers: an update may be reported as failed and yet be applied. -/
inductive Answer where
  | success
  | failure (applied : Bool)
deriving DecidableEq

section
variable (parseTimestamp : String → Option Int)

/-- `*_read_async`: the count, `none` when the query is refused. -/
def Pipeline.ask {τ : Type} (pipeline : Pipeline τ) (rows : Rows) (input : τ) : Option Nat :=
  pipeline.read.execute rows (pipeline.bindRead input)

def readRow (rows : Rows) : RowTuple → Option Nat
  | .vodUser input => (vodUser parseTimestamp).ask rows input
  | .vodProgram input => (vodProgram parseTimestamp).ask rows input
  | .livUser input => (livUser parseTimestamp).ask rows input
  | .livProgram input => (livProgram parseTimestamp).ask rows input

/-- The increment of the insert or update bolt, `none` when it is refused. -/
def writeRow (rows : Rows) (stream : Stream) : RowTuple → Option Rows
  | .vodUser input => (vodUser parseTimestamp).write rows input stream
  | .vodProgram input => (vodProgram parseTimestamp).write rows input stream
  | .livUser input => (livUser parseTimestamp).write rows input stream
  | .livProgram input => (livProgram parseTimestamp).write rows input stream

end

/-- What a task does: the rows after it, whether an increment was applied, what it
emits, and what becomes of its input. -/
structure Handled where
  rows : Rows
  applied : Bool := false
  emissions : List (Emission Task) := []
  verdict : Verdict Task

section
variable (digits : CharacterDigit) (parseTimestamp : String → Option Int)
  (srcNames : String → Option String)

/-- The read bolts and the callback of their query. -/
def askViscosity (rows : Rows) (answer : Answer) (input : RowTuple) : Handled :=
  match answer, readRow parseTimestamp rows input with
  | .success, some backCode => { rows := rows, verdict := .hold (.answered input backCode) }
  | _, _ => { rows := rows, verdict := .fail }

/-- The insert and update bolts and `update_back`. -/
def writeViscosity (rows : Rows) (answer : Answer) (stream : Stream) (input : RowTuple) : Handled :=
  match answer, writeRow parseTimestamp rows stream input with
  | .success, some next => { rows := next, applied := true, verdict := .ack }
  | .failure true, some next => { rows := next, applied := true, verdict := .fail }
  | _, _ => { rows := rows, verdict := .fail }

/-- `collector.emit(stream, new Values(…))`. -/
def unanchored (task : Task) : Emission Task := ⟨false, task⟩

/-- `collector.emit(stream, input, new Values(…))`. -/
def anchored (task : Task) : Emission Task := ⟨true, task⟩

/-- `execute` of each bolt, and the callbacks. -/
def execute (rows : Rows) (answer : Answer) : Task → Handled
  | .topFilter info =>
    { rows := rows, emissions := (topFilter info).toList.map unanchored, verdict := .ack }
  | .vodDistribute input =>
    { rows := rows, emissions := (vodDistribute digits srcNames input).map unanchored
      verdict := .ack }
  | .livDistribute input =>
    { rows := rows, emissions := (livDistribute digits srcNames input).map unanchored
      verdict := .ack }
  | .viscosity input => askViscosity parseTimestamp rows answer input
  | .answered input backCode =>
    { rows := rows
      emissions := [anchored (.write (if backCode = 0 then .insert else .update) input)]
      verdict := .ack }
  | .write stream input => writeViscosity parseTimestamp rows answer stream input
  | .noSrcName _ => { rows := rows, verdict := if answer = .success then .ack else .fail }

end

namespace Topology

/-- A tuple with the number of the spout record that it comes from. -/
structure Traced where
  record : Nat
  task : Task

/-- `applied` lists the increments that took effect; it is no data of the program. -/
structure State where
  rows : Rows
  srcNames : String → Option String
  records : List String
  forest : Forest Traced
  applied : List (Nat × RowSide)

inductive Action where
  | nextTuple (info : String)
  /-- the listener of `srcid_meaning` puts or removes a name -/
  | rename (srcId : String) (srcName : Option String)
  | timeout (record : Nat)
  | handle (index : Nat) (answer : Answer)

def State.init (rows : Rows) (srcNames : String → Option String) : State :=
  ⟨rows, srcNames, [], ⟨[], []⟩, []⟩

def State.status (s : State) (record : Nat) : Option RootStatus := s.forest.status[record]?

/-- The emission and verdict of a task, with the record it works for. -/
def traceVerdict (record : Nat) : Verdict Task → Verdict Traced
  | .ack => .ack
  | .fail => .fail
  | .hold task => .hold ⟨record, task⟩

def traceEmission (record : Nat) (emission : Emission Task) : Emission Traced :=
  ⟨emission.anchored, ⟨record, emission.content⟩⟩

/-- The increment that a task applied, if any. -/
def appliedBy (record : Nat) (handled : Handled) : Task → List (Nat × RowSide)
  | .write _ input => if handled.applied then [(record, input.side)] else []
  | _ => []

variable (digits : CharacterDigit) (parseTimestamp : String → Option Int)

def State.step (s : State) : Action → Option State
  | .nextTuple info =>
    some { s with
      records := s.records ++ [info]
      forest := s.forest.spoutEmit ⟨s.records.length, .topFilter info⟩ }
  | .rename srcId srcName =>
    some { s with srcNames := fun id => if id = srcId then srcName else s.srcNames id }
  | .timeout record => some { s with forest := s.forest.timeout record }
  | .handle index answer =>
    match s.forest.live[index]? with
    | none => none
    | some ⟨_, record, task⟩ =>
      let handled := execute digits parseTimestamp s.srcNames s.rows answer task
      (s.forest.handle index (handled.emissions.map (traceEmission record))
        (traceVerdict record handled.verdict)).map fun forest =>
          { s with
            rows := handled.rows
            forest := forest
            applied := appliedBy record handled task ++ s.applied }

end Topology

end GitvTime.Source.Viscosity
