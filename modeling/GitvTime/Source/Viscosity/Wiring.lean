import GitvTime.Source.Viscosity.Streams

/-!
# The wires of the play topology

Behind the distribute bolts each table has a read bolt, the callback of its query and
two bolts that write. All of them take their values out of the tuple by name, and the
mappers put them behind the `?` of a statement by position.
-/
namespace GitvTime.Source.Viscosity.Wiring

/-! ### The mappers -/

/-- `Mapper.read_program`. -/
def Mapper.readProgram (partner srcName chnName chnId albumName albumId playOrder videoId province
    city : String) (logDate : Option Int) : List Value :=
  [.text partner, .text srcName, .text chnName, .text chnId, .text albumName, .text albumId,
    .text playOrder, .text videoId, .text province, .text city, .ofDate logDate]

/-- `Mapper.insert_new_program`. -/
def Mapper.insertNewProgram (partner srcName chnName chnId albumName albumId playOrder videoId
    province city : String) (playLength timeLength : Long) (logDate : Option Int) : List Value :=
  [.bigint playLength, .bigint timeLength, .text partner, .text srcName, .text chnName, .text chnId,
    .text albumName, .text albumId, .text playOrder, .text videoId, .text province, .text city,
    .ofDate logDate]

/-- `Mapper.update_new_program`. -/
def Mapper.updateNewProgram (partner srcName chnName chnId albumName albumId playOrder videoId
    province city : String) (playLength : Long) (logDate : Option Int) : List Value :=
  [.bigint playLength, .text partner, .text srcName, .text chnName, .text chnId, .text albumName,
    .text albumId, .text playOrder, .text videoId, .text province, .text city, .ofDate logDate]

/-- `Mapper.read_user`. -/
def Mapper.readUser (partner mac srcName chnName chnId albumName albumId playOrder videoId : String)
    (logDate : Option Int) : List Value :=
  [.text partner, .text mac, .text srcName, .text chnName, .text chnId, .text albumName,
    .text albumId, .text playOrder, .text videoId, .ofDate logDate]

/-- `Mapper.insert_new_user`. -/
def Mapper.insertNewUser (partner mac srcName chnName chnId albumName albumId playOrder
    videoId : String) (playLength timeLength : Long) (logDate : Option Int) : List Value :=
  [.bigint playLength, .bigint timeLength, .text partner, .text mac, .text srcName, .text chnName,
    .text chnId, .text albumName, .text albumId, .text playOrder, .text videoId, .ofDate logDate]

/-- `Mapper.update_new_user`. -/
def Mapper.updateNewUser (partner mac srcName chnName chnId albumName albumId playOrder
    videoId : String) (playLength : Long) (logDate : Option Int) : List Value :=
  [.bigint playLength, .text partner, .text mac, .text srcName, .text chnName, .text chnId,
    .text albumName, .text albumId, .text playOrder, .text videoId, .ofDate logDate]

/-- `Mapper_Liv.read_program`. -/
def MapperLiv.readProgram (partner srcName chnCode albumName playOrder province city : String)
    (logDate : Option Int) : List Value :=
  [.text partner, .text srcName, .text chnCode, .text albumName, .text playOrder, .text province,
    .text city, .ofDate logDate]

/-- `Mapper_Liv.insert_new_program`. -/
def MapperLiv.insertNewProgram (partner srcName chnCode albumName playOrder province city : String)
    (playLength timeLength : Long) (logDate : Option Int) : List Value :=
  [.bigint playLength, .bigint timeLength, .text partner, .text srcName, .text chnCode,
    .text albumName, .text playOrder, .text province, .text city, .ofDate logDate]

/-- `Mapper_Liv.update_new_program`. -/
def MapperLiv.updateNewProgram (partner srcName chnCode albumName playOrder province city : String)
    (playLength : Long) (logDate : Option Int) : List Value :=
  [.bigint playLength, .text partner, .text srcName, .text chnCode, .text albumName,
    .text playOrder, .text province, .text city, .ofDate logDate]

/-- `Mapper_Liv.read_user`. -/
def MapperLiv.readUser (partner mac srcName chnCode albumName playOrder : String)
    (logDate : Option Int) : List Value :=
  [.text partner, .text mac, .text srcName, .text chnCode, .text albumName, .text playOrder,
    .ofDate logDate]

/-- `Mapper_Liv.insert_new_user`. -/
def MapperLiv.insertNewUser (partner mac srcName chnCode albumName playOrder : String)
    (playLength timeLength : Long) (logDate : Option Int) : List Value :=
  [.bigint playLength, .bigint timeLength, .text partner, .text mac, .text srcName, .text chnCode,
    .text albumName, .text playOrder, .ofDate logDate]

/-- `Mapper_Liv.update_new_user`. -/
def MapperLiv.updateNewUser (partner mac srcName chnCode albumName playOrder : String)
    (playLength : Long) (logDate : Option Int) : List Value :=
  [.bigint playLength, .text partner, .text mac, .text srcName, .text chnCode, .text albumName,
    .text playOrder, .ofDate logDate]

/-! ### The bolts of the four pipelines -/

section
variable (parseTimestamp : String → Option Int)

namespace VodUserViscosityBolt

/-- `VOD_UserViscosity_Bolt.read_user`. -/
def readUser : CountStatement where
  table := "vod_viscosity_user"
  whereColumns :=
    ["partner", "mac", "srcName", "chnName", "chnId", "albumName", "albumId", "playOrder",
      "videoId", "logDate"]

/-- `execute`: what it binds. -/
def execute (input : Tuple) : Option (List Value) := do
  let partner ← input.getStringByField "partner"
  let mac ← input.getStringByField "mac"
  let srcName ← input.getStringByField "srcName"
  let chnName ← input.getStringByField "chnName"
  let chnId ← input.getStringByField "chnId"
  let albumName ← input.getStringByField "albumName"
  let albumId ← input.getStringByField "albumId"
  let playOrder ← input.getStringByField "playOrder"
  let videoId ← input.getStringByField "videoId"
  let logDate ← input.getStringByField "logDate"
  let lg_date := parseTimestamp logDate
  pure (Mapper.readUser partner mac srcName chnName chnId albumName albumId playOrder videoId
    lg_date)

end VodUserViscosityBolt

/-- `onSuccess` of `AsyncBack.user_read_async`: the stream and what is emitted on it. -/
def AsyncBack.userOnSuccess (backCode : Nat) (input : Tuple) : Option (Stream × Tuple) := do
  if backCode = 0 then
    let emitted ← emit vodToUserInsertFields [.string (← input.getStringByField "partner"),
      .string (← input.getStringByField "mac"), .string (← input.getStringByField "srcName"),
      .string (← input.getStringByField "chnName"), .string (← input.getStringByField "chnId"),
      .string (← input.getStringByField "albumName"), .string (← input.getStringByField "albumId"),
      .string (← input.getStringByField "playOrder"), .string (← input.getStringByField "videoId"),
      .long (← input.getLongByField "playLength"), .long (← input.getLongByField "timeLength"),
      .string (← input.getStringByField "logDate")]
    pure (.insert, emitted)
  else
    let emitted ← emit vodToUserUpdateFields [.string (← input.getStringByField "partner"),
      .string (← input.getStringByField "mac"), .string (← input.getStringByField "srcName"),
      .string (← input.getStringByField "chnName"), .string (← input.getStringByField "chnId"),
      .string (← input.getStringByField "albumName"), .string (← input.getStringByField "albumId"),
      .string (← input.getStringByField "playOrder"), .string (← input.getStringByField "videoId"),
      .long (← input.getLongByField "playLength"), .string (← input.getStringByField "logDate")]
    pure (.update, emitted)

namespace VodToUserInsertBolt

/-- `VOD_ToUser_Insert_Bolt.insert_new_user`. -/
def insertNewUser : UpdateStatement where
  table := "vod_viscosity_user"
  set := [("click_num", .literal 1), ("playLength", .bound), ("timeLength", .bound)]
  whereColumns :=
    ["partner", "mac", "srcName", "chnName", "chnId", "albumName", "albumId", "playOrder",
      "videoId", "logDate"]

/-- `execute`: what it binds. -/
def execute (input : Tuple) : Option (List Value) := do
  let partner ← input.getStringByField "partner"
  let mac ← input.getStringByField "mac"
  let srcName ← input.getStringByField "srcName"
  let chnName ← input.getStringByField "chnName"
  let chnId ← input.getStringByField "chnId"
  let albumName ← input.getStringByField "albumName"
  let albumId ← input.getStringByField "albumId"
  let playOrder ← input.getStringByField "playOrder"
  let videoId ← input.getStringByField "videoId"
  let playLength ← input.getLongByField "playLength"
  let timeLength ← input.getLongByField "timeLength"
  let logDate ← input.getStringByField "logDate"
  let lg_date := parseTimestamp logDate
  pure (Mapper.insertNewUser partner mac srcName chnName chnId albumName albumId playOrder videoId
    playLength timeLength lg_date)

end VodToUserInsertBolt

namespace VodToUserUpdateBolt

/-- `VOD_ToUser_Update_Bolt.update_new_user`. -/
def updateNewUser : UpdateStatement where
  table := "vod_viscosity_user"
  set := [("click_num", .literal 1), ("playLength", .bound)]
  whereColumns :=
    ["partner", "mac", "srcName", "chnName", "chnId", "albumName", "albumId", "playOrder",
      "videoId", "logDate"]

/-- `execute`: what it binds. -/
def execute (input : Tuple) : Option (List Value) := do
  let partner ← input.getStringByField "partner"
  let mac ← input.getStringByField "mac"
  let srcName ← input.getStringByField "srcName"
  let chnName ← input.getStringByField "chnName"
  let chnId ← input.getStringByField "chnId"
  let albumName ← input.getStringByField "albumName"
  let albumId ← input.getStringByField "albumId"
  let playOrder ← input.getStringByField "playOrder"
  let videoId ← input.getStringByField "videoId"
  let playLength ← input.getLongByField "playLength"
  let logDate ← input.getStringByField "logDate"
  let lg_date := parseTimestamp logDate
  pure (Mapper.updateNewUser partner mac srcName chnName chnId albumName albumId playOrder videoId
    playLength lg_date)

end VodToUserUpdateBolt

namespace VodProgramViscosityBolt

/-- `VOD_ProgramViscosity_Bolt.read_program`. -/
def readProgram : CountStatement where
  table := "vod_viscosity_program"
  whereColumns :=
    ["partner", "srcName", "chnName", "chnId", "albumName", "albumId", "playOrder", "videoId",
      "province", "city", "logDate"]

/-- `execute`: what it binds. -/
def execute (input : Tuple) : Option (List Value) := do
  let partner ← input.getStringByField "partner"
  let srcName ← input.getStringByField "srcName"
  let chnName ← input.getStringByField "chnName"
  let chnId ← input.getStringByField "chnId"
  let albumName ← input.getStringByField "albumName"
  let albumId ← input.getStringByField "albumId"
  let playOrder ← input.getStringByField "playOrder"
  let videoId ← input.getStringByField "videoId"
  let province ← input.getStringByField "province"
  let city ← input.getStringByField "city"
  let logDate ← input.getStringByField "logDate"
  let lg_date := parseTimestamp logDate
  pure (Mapper.readProgram partner srcName chnName chnId albumName albumId playOrder videoId
    province city lg_date)

end VodProgramViscosityBolt

/-- `onSuccess` of `AsyncBack.program_read_async`: the stream and what is emitted on it. -/
def AsyncBack.programOnSuccess (backCode : Nat) (input : Tuple) : Option (Stream × Tuple) := do
  if backCode = 0 then
    let emitted ← emit vodToProgramInsertFields [.string (← input.getStringByField "partner"),
      .string (← input.getStringByField "srcName"), .string (← input.getStringByField "chnName"),
      .string (← input.getStringByField "chnId"), .string (← input.getStringByField "albumName"),
      .string (← input.getStringByField "albumId"), .string (← input.getStringByField "playOrder"),
      .string (← input.getStringByField "videoId"), .string (← input.getStringByField "province"),
      .string (← input.getStringByField "city"), .long (← input.getLongByField "playLength"),
      .long (← input.getLongByField "timeLength"), .string (← input.getStringByField "logDate")]
    pure (.insert, emitted)
  else
    let emitted ← emit vodToProgramUpdateFields [.string (← input.getStringByField "partner"),
      .string (← input.getStringByField "srcName"), .string (← input.getStringByField "chnName"),
      .string (← input.getStringByField "chnId"), .string (← input.getStringByField "albumName"),
      .string (← input.getStringByField "albumId"), .string (← input.getStringByField "playOrder"),
      .string (← input.getStringByField "videoId"), .string (← input.getStringByField "province"),
      .string (← input.getStringByField "city"), .long (← input.getLongByField "playLength"),
      .string (← input.getStringByField "logDate")]
    pure (.update, emitted)

namespace VodToProgramInsertBolt

/-- `VOD_ToProgram_Insert_Bolt.insert_new_program`. -/
def insertNewProgram : UpdateStatement where
  table := "vod_viscosity_program"
  set := [("click_num", .literal 1), ("playLength", .bound), ("timeLength", .bound)]
  whereColumns :=
    ["partner", "srcName", "chnName", "chnId", "albumName", "albumId", "playOrder", "videoId",
      "province", "city", "logDate"]

/-- `execute`: what it binds. -/
def execute (input : Tuple) : Option (List Value) := do
  let partner ← input.getStringByField "partner"
  let srcName ← input.getStringByField "srcName"
  let chnName ← input.getStringByField "chnName"
  let chnId ← input.getStringByField "chnId"
  let albumName ← input.getStringByField "albumName"
  let albumId ← input.getStringByField "albumId"
  let playOrder ← input.getStringByField "playOrder"
  let videoId ← input.getStringByField "videoId"
  let province ← input.getStringByField "province"
  let city ← input.getStringByField "city"
  let playLength ← input.getLongByField "playLength"
  let timeLength ← input.getLongByField "timeLength"
  let logDate ← input.getStringByField "logDate"
  let lg_date := parseTimestamp logDate
  pure (Mapper.insertNewProgram partner srcName chnName chnId albumName albumId playOrder videoId
    province city playLength timeLength lg_date)

end VodToProgramInsertBolt

namespace VodToProgramUpdateBolt

/-- `VOD_ToProgram_Update_Bolt.update_new_program`. -/
def updateNewProgram : UpdateStatement where
  table := "vod_viscosity_program"
  set := [("click_num", .literal 1), ("playLength", .bound)]
  whereColumns :=
    ["partner", "srcName", "chnName", "chnId", "albumName", "albumId", "playOrder", "videoId",
      "province", "city", "logDate"]

/-- `execute`: what it binds. -/
def execute (input : Tuple) : Option (List Value) := do
  let partner ← input.getStringByField "partner"
  let srcName ← input.getStringByField "srcName"
  let chnName ← input.getStringByField "chnName"
  let chnId ← input.getStringByField "chnId"
  let albumName ← input.getStringByField "albumName"
  let albumId ← input.getStringByField "albumId"
  let playOrder ← input.getStringByField "playOrder"
  let videoId ← input.getStringByField "videoId"
  let city ← input.getStringByField "city"
  let province ← input.getStringByField "province"
  let playLength ← input.getLongByField "playLength"
  let logDate ← input.getStringByField "logDate"
  let lg_date := parseTimestamp logDate
  pure (Mapper.updateNewProgram partner srcName chnName chnId albumName albumId playOrder videoId
    province city playLength lg_date)

end VodToProgramUpdateBolt

namespace LivUserViscosityBolt

/-- `LIV_UserViscosity_Bolt.read_user`. -/
def readUser : CountStatement where
  table := "liv_viscosity_user"
  whereColumns :=
    ["partner", "mac", "srcName", "chnCode", "albumName", "playOrder", "logDate"]

/-- `execute`: what it binds. -/
def execute (input : Tuple) : Option (List Value) := do
  let partner ← input.getStringByField "partner"
  let mac ← input.getStringByField "mac"
  let srcName ← input.getStringByField "srcName"
  let chnCode ← input.getStringByField "chnCode"
  let albumName ← input.getStringByField "albumName"
  let playOrder ← input.getStringByField "playOrder"
  let logDate ← input.getStringByField "logDate"
  let lg_date := parseTimestamp logDate
  pure (MapperLiv.readUser partner mac srcName chnCode albumName playOrder lg_date)

end LivUserViscosityBolt

/-- `onSuccess` of `AsyncBack_Liv.user_read_async`: the stream and what is emitted on it. -/
def AsyncBackLiv.userOnSuccess (backCode : Nat) (input : Tuple) : Option (Stream × Tuple) := do
  if backCode = 0 then
    let emitted ← emit livToUserInsertFields [.string (← input.getStringByField "partner"),
      .string (← input.getStringByField "mac"), .string (← input.getStringByField "srcName"),
      .string (← input.getStringByField "chnCode"), .string (← input.getStringByField "albumName"),
      .string (← input.getStringByField "playOrder"), .long (← input.getLongByField "playLength"),
      .long (← input.getLongByField "timeLength"), .string (← input.getStringByField "logDate")]
    pure (.insert, emitted)
  else
    let emitted ← emit livToUserUpdateFields [.string (← input.getStringByField "partner"),
      .string (← input.getStringByField "mac"), .string (← input.getStringByField "srcName"),
      .string (← input.getStringByField "chnCode"), .string (← input.getStringByField "albumName"),
      .string (← input.getStringByField "playOrder"), .long (← input.getLongByField "playLength"),
      .string (← input.getStringByField "logDate")]
    pure (.update, emitted)

namespace LivToUserInsertBolt

/-- `LIV_ToUser_Insert_Bolt.insert_new_user`. -/
def insertNewUser : UpdateStatement where
  table := "liv_viscosity_user"
  set := [("click_num", .literal 1), ("playLength", .bound), ("timeLength", .bound)]
  whereColumns :=
    ["partner", "mac", "srcName", "chnCode", "albumName", "playOrder", "logDate"]

/-- `execute`: what it binds. -/
def execute (input : Tuple) : Option (List Value) := do
  let partner ← input.getStringByField "partner"
  let mac ← input.getStringByField "mac"
  let srcName ← input.getStringByField "srcName"
  let chnCode ← input.getStringByField "chnCode"
  let albumName ← input.getStringByField "albumName"
  let playOrder ← input.getStringByField "playOrder"
  let playLength ← input.getLongByField "playLength"
  let timeLength ← input.getLongByField "timeLength"
  let logDate ← input.getStringByField "logDate"
  let lg_date := parseTimestamp logDate
  pure (MapperLiv.insertNewUser partner mac srcName chnCode albumName playOrder playLength
    timeLength lg_date)

end LivToUserInsertBolt

namespace LivToUserUpdateBolt

/-- `LIV_ToUser_Update_Bolt.update_new_user`. -/
def updateNewUser : UpdateStatement where
  table := "liv_viscosity_user"
  set := [("click_num", .literal 1), ("playLength", .bound)]
  whereColumns :=
    ["partner", "mac", "srcName", "chnCode", "albumName", "playOrder", "logDate"]

/-- `execute`: what it binds. -/
def execute (input : Tuple) : Option (List Value) := do
  let partner ← input.getStringByField "partner"
  let mac ← input.getStringByField "mac"
  let srcName ← input.getStringByField "srcName"
  let chnCode ← input.getStringByField "chnCode"
  let albumName ← input.getStringByField "albumName"
  let playOrder ← input.getStringByField "playOrder"
  let playLength ← input.getLongByField "playLength"
  let logDate ← input.getStringByField "logDate"
  let lg_date := parseTimestamp logDate
  pure (MapperLiv.updateNewUser partner mac srcName chnCode albumName playOrder playLength lg_date)

end LivToUserUpdateBolt

namespace LivProgramViscosityBolt

/-- `LIV_ProgramViscosity_Bolt.read_program`. -/
def readProgram : CountStatement where
  table := "liv_viscosity_program"
  whereColumns :=
    ["partner", "srcName", "chnCode", "albumName", "playOrder", "province", "city", "logDate"]

/-- `execute`: what it binds. -/
def execute (input : Tuple) : Option (List Value) := do
  let partner ← input.getStringByField "partner"
  let srcName ← input.getStringByField "srcName"
  let chnCode ← input.getStringByField "chnCode"
  let albumName ← input.getStringByField "albumName"
  let playOrder ← input.getStringByField "playOrder"
  let province ← input.getStringByField "province"
  let city ← input.getStringByField "city"
  let logDate ← input.getStringByField "logDate"
  let lg_date := parseTimestamp logDate
  pure (MapperLiv.readProgram partner srcName chnCode albumName playOrder province city lg_date)

end LivProgramViscosityBolt

/-- `onSuccess` of `AsyncBack_Liv.program_read_async`: the stream and what is emitted on it. -/
def AsyncBackLiv.programOnSuccess (backCode : Nat) (input : Tuple) : Option (Stream × Tuple) := do
  if backCode = 0 then
    let emitted ← emit livToProgramInsertFields [.string (← input.getStringByField "partner"),
      .string (← input.getStringByField "srcName"), .string (← input.getStringByField "chnCode"),
      .string (← input.getStringByField "albumName"),
      .string (← input.getStringByField "playOrder"), .string (← input.getStringByField "province"),
      .string (← input.getStringByField "city"), .long (← input.getLongByField "playLength"),
      .long (← input.getLongByField "timeLength"), .string (← input.getStringByField "logDate")]
    pure (.insert, emitted)
  else
    let emitted ← emit livToProgramUpdateFields [.string (← input.getStringByField "partner"),
      .string (← input.getStringByField "srcName"), .string (← input.getStringByField "chnCode"),
      .string (← input.getStringByField "albumName"),
      .string (← input.getStringByField "playOrder"), .string (← input.getStringByField "province"),
      .string (← input.getStringByField "city"), .long (← input.getLongByField "playLength"),
      .string (← input.getStringByField "logDate")]
    pure (.update, emitted)

namespace LivToProgramInsertBolt

/-- `LIV_ToProgram_Insert_Bolt.insert_new_program`. -/
def insertNewProgram : UpdateStatement where
  table := "liv_viscosity_program"
  set := [("click_num", .literal 1), ("playLength", .bound), ("timeLength", .bound)]
  whereColumns :=
    ["partner", "srcName", "chnCode", "albumName", "playOrder", "province", "city", "logDate"]

/-- `execute`: what it binds. -/
def execute (input : Tuple) : Option (List Value) := do
  let partner ← input.getStringByField "partner"
  let srcName ← input.getStringByField "srcName"
  let chnCode ← input.getStringByField "chnCode"
  let albumName ← input.getStringByField "albumName"
  let playOrder ← input.getStringByField "playOrder"
  let city ← input.getStringByField "city"
  let province ← input.getStringByField "province"
  let playLength ← input.getLongByField "playLength"
  let timeLength ← input.getLongByField "timeLength"
  let logDate ← input.getStringByField "logDate"
  let lg_date := parseTimestamp logDate
  pure (MapperLiv.insertNewProgram partner srcName chnCode albumName playOrder province city
    playLength timeLength lg_date)

end LivToProgramInsertBolt

namespace LivToProgramUpdateBolt

/-- `LIV_ToProgram_Update_Bolt.update_new_program`. -/
def updateNewProgram : UpdateStatement where
  table := "liv_viscosity_program"
  set := [("click_num", .literal 1), ("playLength", .bound)]
  whereColumns :=
    ["partner", "srcName", "chnCode", "albumName", "playOrder", "province", "city", "logDate"]

/-- `execute`: what it binds. -/
def execute (input : Tuple) : Option (List Value) := do
  let partner ← input.getStringByField "partner"
  let srcName ← input.getStringByField "srcName"
  let chnCode ← input.getStringByField "chnCode"
  let albumName ← input.getStringByField "albumName"
  let playOrder ← input.getStringByField "playOrder"
  let city ← input.getStringByField "city"
  let province ← input.getStringByField "province"
  let playLength ← input.getLongByField "playLength"
  let logDate ← input.getStringByField "logDate"
  let lg_date := parseTimestamp logDate
  pure (MapperLiv.updateNewProgram partner srcName chnCode albumName playOrder province city
    playLength lg_date)

end LivToProgramUpdateBolt

end

/-! ### The pipelines -/

/-- A read bolt, the callback of its query and the two bolts behind it. -/
structure Wires where
  read : CountStatement
  insertNew : UpdateStatement
  updateNew : UpdateStatement
  viscosity : Tuple → Option (List Value)
  onSuccess : Nat → Tuple → Option (Stream × Tuple)
  insert : Tuple → Option (List Value)
  update : Tuple → Option (List Value)

/-- What runs after the read: the statement and what is bound to it. -/
def Wires.write (wires : Wires) (backCode : Nat) (input : Tuple) :
    Option (UpdateStatement × List Value) := do
  let (stream, emitted) ← wires.onSuccess backCode input
  match stream with
  | .insert => pure (wires.insertNew, ← wires.insert emitted)
  | .update => pure (wires.updateNew, ← wires.update emitted)

section
variable (parseTimestamp : String → Option Int)

def vodUserWires : Wires where
  read := VodUserViscosityBolt.readUser
  insertNew := VodToUserInsertBolt.insertNewUser
  updateNew := VodToUserUpdateBolt.updateNewUser
  viscosity := VodUserViscosityBolt.execute parseTimestamp
  onSuccess := AsyncBack.userOnSuccess
  insert := VodToUserInsertBolt.execute parseTimestamp
  update := VodToUserUpdateBolt.execute parseTimestamp

def vodProgramWires : Wires where
  read := VodProgramViscosityBolt.readProgram
  insertNew := VodToProgramInsertBolt.insertNewProgram
  updateNew := VodToProgramUpdateBolt.updateNewProgram
  viscosity := VodProgramViscosityBolt.execute parseTimestamp
  onSuccess := AsyncBack.programOnSuccess
  insert := VodToProgramInsertBolt.execute parseTimestamp
  update := VodToProgramUpdateBolt.execute parseTimestamp

def livUserWires : Wires where
  read := LivUserViscosityBolt.readUser
  insertNew := LivToUserInsertBolt.insertNewUser
  updateNew := LivToUserUpdateBolt.updateNewUser
  viscosity := LivUserViscosityBolt.execute parseTimestamp
  onSuccess := AsyncBackLiv.userOnSuccess
  insert := LivToUserInsertBolt.execute parseTimestamp
  update := LivToUserUpdateBolt.execute parseTimestamp

def livProgramWires : Wires where
  read := LivProgramViscosityBolt.readProgram
  insertNew := LivToProgramInsertBolt.insertNewProgram
  updateNew := LivToProgramUpdateBolt.updateNewProgram
  viscosity := LivProgramViscosityBolt.execute parseTimestamp
  onSuccess := AsyncBackLiv.programOnSuccess
  insert := LivToProgramInsertBolt.execute parseTimestamp
  update := LivToProgramUpdateBolt.execute parseTimestamp

end

end GitvTime.Source.Viscosity.Wiring
