import GitvTime.Source.Viscosity.Cassandra

/-!
# The play viscosity pipelines

A record goes to a read bolt that counts the rows under its key, asynchronously;
the callback sends it to the insert stream when there is none and to the update
stream otherwise; the bolt on that stream increments the row's counters. All
groupings are shuffles, so records of one row are handled by different tasks and
their steps interleave freely.
-/
namespace GitvTime.Source.Viscosity

/-- A tuple on `VOD_TO_USER`. `VOD_Distribute_Bolt` lets a null pass in the
optional fields. -/
structure VodToUser where
  partner : String
  mac : String
  srcName : String
  chnName : String
  chnId : String
  albumName : String
  albumId : String
  playOrder : Option String
  videoId : Option String
  playLength : Long
  timeLength : Long
  logDate : String
  deriving DecidableEq, Repr

/-- A tuple on `VOD_TO_PROGRAM`. -/
structure VodToProgram where
  partner : String
  srcName : String
  chnName : String
  chnId : String
  albumName : String
  albumId : String
  playOrder : Option String
  videoId : Option String
  province : Option String
  city : Option String
  playLength : Long
  timeLength : Long
  logDate : String
  deriving DecidableEq, Repr

/-- The streams `VOD_TO_*_INSERT` and `VOD_TO_*_UPDATE`. -/
inductive Stream where
  | insert | update
  deriving DecidableEq, Repr

/-- The read bolt and the two bolts behind it: their prepared statements, what
`Mapper` binds to them, and the `long` fields of the tuple. -/
structure Pipeline (τ : Type) where
  read : CountStatement
  insertNew : UpdateStatement
  updateNew : UpdateStatement
  bindRead : τ → List Value
  bindInsert : τ → List Value
  bindUpdate : τ → List Value
  playLength : τ → Long
  timeLength : τ → Long

/-! ### The user rows -/

def userColumns : List String :=
  ["partner", "mac", "srcName", "chnName", "chnId", "albumName", "albumId", "playOrder", "videoId",
    "logDate"]

/-- `VOD_UserViscosity_Bolt.read_user`. -/
def readUser : CountStatement := ⟨"vod_viscosity_user", userColumns⟩

/-- `VOD_ToUser_Insert_Bolt.insert_new_user`. -/
def insertNewUser : UpdateStatement :=
  ⟨"vod_viscosity_user",
    [("click_num", .literal 1), ("playLength", .bound), ("timeLength", .bound)], userColumns⟩

/-- `VOD_ToUser_Update_Bolt.update_new_user`. -/
def updateNewUser : UpdateStatement :=
  ⟨"vod_viscosity_user", [("click_num", .literal 1), ("playLength", .bound)], userColumns⟩

namespace Mapper

def readUser (parseTimestamp : String → Option Int) (input : VodToUser) : List Value :=
  [.text input.partner, .text input.mac, .text input.srcName, .text input.chnName,
    .text input.chnId, .text input.albumName, .text input.albumId, .ofText input.playOrder,
    .ofText input.videoId, .ofDate (parseTimestamp input.logDate)]

def insertNewUser (parseTimestamp : String → Option Int) (input : VodToUser) : List Value :=
  [.bigint input.playLength, .bigint input.timeLength, .text input.partner, .text input.mac,
    .text input.srcName, .text input.chnName, .text input.chnId, .text input.albumName,
    .text input.albumId, .ofText input.playOrder, .ofText input.videoId,
    .ofDate (parseTimestamp input.logDate)]

def updateNewUser (parseTimestamp : String → Option Int) (input : VodToUser) : List Value :=
  [.bigint input.playLength, .text input.partner, .text input.mac, .text input.srcName,
    .text input.chnName, .text input.chnId, .text input.albumName, .text input.albumId,
    .ofText input.playOrder, .ofText input.videoId, .ofDate (parseTimestamp input.logDate)]

end Mapper

/-- `parseTimestamp` is `OnlyDateUtils.parseTimestamp`, null for a text that is no date. -/
def vodUser (parseTimestamp : String → Option Int) : Pipeline VodToUser where
  read := readUser
  insertNew := insertNewUser
  updateNew := updateNewUser
  bindRead := Mapper.readUser parseTimestamp
  bindInsert := Mapper.insertNewUser parseTimestamp
  bindUpdate := Mapper.updateNewUser parseTimestamp
  playLength := VodToUser.playLength
  timeLength := VodToUser.timeLength

/-! ### The program rows -/

def programColumns : List String :=
  ["partner", "srcName", "chnName", "chnId", "albumName", "albumId", "playOrder", "videoId",
    "province", "city", "logDate"]

/-- `VOD_ProgramViscosity_Bolt.read_program`. -/
def readProgram : CountStatement := ⟨"vod_viscosity_program", programColumns⟩

/-- `VOD_ToProgram_Insert_Bolt.insert_new_program`. -/
def insertNewProgram : UpdateStatement :=
  ⟨"vod_viscosity_program",
    [("click_num", .literal 1), ("playLength", .bound), ("timeLength", .bound)], programColumns⟩

/-- `VOD_ToProgram_Update_Bolt.update_new_program`. -/
def updateNewProgram : UpdateStatement :=
  ⟨"vod_viscosity_program", [("click_num", .literal 1), ("playLength", .bound)], programColumns⟩

namespace Mapper

def readProgram (parseTimestamp : String → Option Int) (input : VodToProgram) : List Value :=
  [.text input.partner, .text input.srcName, .text input.chnName, .text input.chnId,
    .text input.albumName, .text input.albumId, .ofText input.playOrder, .ofText input.videoId,
    .ofText input.province, .ofText input.city, .ofDate (parseTimestamp input.logDate)]

def insertNewProgram (parseTimestamp : String → Option Int) (input : VodToProgram) : List Value :=
  [.bigint input.playLength, .bigint input.timeLength, .text input.partner, .text input.srcName,
    .text input.chnName, .text input.chnId, .text input.albumName, .text input.albumId,
    .ofText input.playOrder, .ofText input.videoId, .ofText input.province, .ofText input.city,
    .ofDate (parseTimestamp input.logDate)]

def updateNewProgram (parseTimestamp : String → Option Int) (input : VodToProgram) : List Value :=
  [.bigint input.playLength, .text input.partner, .text input.srcName, .text input.chnName,
    .text input.chnId, .text input.albumName, .text input.albumId, .ofText input.playOrder,
    .ofText input.videoId, .ofText input.province, .ofText input.city,
    .ofDate (parseTimestamp input.logDate)]

end Mapper

def vodProgram (parseTimestamp : String → Option Int) : Pipeline VodToProgram where
  read := readProgram
  insertNew := insertNewProgram
  updateNew := updateNewProgram
  bindRead := Mapper.readProgram parseTimestamp
  bindInsert := Mapper.insertNewProgram parseTimestamp
  bindUpdate := Mapper.updateNewProgram parseTimestamp
  playLength := VodToProgram.playLength
  timeLength := VodToProgram.timeLength

/-- The tables of the play topology. -/
inductive VodRows where
  | user | program
  deriving DecidableEq, Repr

def VodRows.Tuple : VodRows → Type
  | .user => VodToUser
  | .program => VodToProgram

def VodRows.pipeline (parseTimestamp : String → Option Int) : (table : VodRows) → Pipeline table.Tuple
  | .user => vodUser parseTimestamp
  | .program => vodProgram parseTimestamp

/-! ### Interleaved records -/

/-- Where a record is on its way. -/
inductive Stage where
  | toRead
  /-- the read has answered, its callback has not run -/
  | answered (backCode : Nat)
  | queued (stream : Stream)
  | acked (stream : Stream)
  | failed
  deriving DecidableEq, Repr

namespace Pipeline

variable {τ : Type} (pipeline : Pipeline τ)

/-- The row a record maps to. -/
def rowOf (tuple : τ) : Option Key := pipeline.read.key (pipeline.bindRead tuple)

/-- The update of the insert or update bolt. -/
def write (rows : Rows) (tuple : τ) : Stream → Option Rows
  | .insert => pipeline.insertNew.execute rows (pipeline.bindInsert tuple)
  | .update => pipeline.updateNew.execute rows (pipeline.bindUpdate tuple)

/-- The next step of a record: the read (`*_read_async`), its callback, or the
update (`update_back`). -/
def advance (rows : Rows) (tuple : τ) : Stage → Option (Rows × Stage)
  | .toRead =>
    match pipeline.read.execute rows (pipeline.bindRead tuple) with
    | some backCode => some (rows, .answered backCode)
    | none => some (rows, .failed)
  | .answered backCode => some (rows, .queued (if backCode = 0 then .insert else .update))
  | .queued stream =>
    match pipeline.write rows tuple stream with
    | some rows => some (rows, .acked stream)
    | none => some (rows, .failed)
  | .acked _ => none
  | .failed => none

structure State (τ : Type) where
  rows : Rows
  tuples : List (τ × Stage)

/-- One step of the record at `index`. -/
def step (s : State τ) (index : Nat) : Option (State τ) :=
  match s.tuples[index]? with
  | some (tuple, stage) =>
    (pipeline.advance s.rows tuple stage).map fun after =>
      ⟨after.1, s.tuples.set index (tuple, after.2)⟩
  | none => none

def State.init (rows : Rows) (records : List τ) : State τ :=
  ⟨rows, records.map fun tuple => (tuple, .toRead)⟩

/-- Every record has been processed. -/
def State.Finished (s : State τ) : Prop :=
  ∀ tuple stage, (tuple, stage) ∈ s.tuples → pipeline.advance s.rows tuple stage = none

end Pipeline

end GitvTime.Source.Viscosity
