import GitvTime.Source.Viscosity.Topology

/-!
# The streams of the play topology

The bolts emit their values by position under the field names that a stream declares
and take them out of a tuple by name. This is written out here as the filter and the
distribute bolts have it; the module of the topology passes whole records instead.
-/
namespace GitvTime.Source.Viscosity.Wiring
open GitvTime.Source.Numbers GitvTime.Source.Patterns GitvTime.Source.StringHandle

/-! ### Tuples -/

/-- What a field holds; no bolt here emits a null. -/
inductive Item where
  | string (value : String)
  | long (value : Long)
  deriving DecidableEq, Repr

/-- Values under the fields that their stream declares. -/
structure Tuple where
  fields : List String
  values : List Item
  fits : values.length = fields.length

/-- `collector.emit`, `none` when it throws: the values have to fit the declared fields. -/
def emit (fields : List String) (values : List Item) : Option Tuple :=
  if fits : values.length = fields.length then some ⟨fields, values, fits⟩ else none

def Tuple.getValueByField (input : Tuple) (field : String) : Option Item :=
  (input.fields.zip input.values).lookup field

/-- `getStringByField`, `none` when it throws. -/
def Tuple.getStringByField (input : Tuple) (field : String) : Option String :=
  match input.getValueByField field with
  | some (.string value) => some value
  | _ => none

/-- `getLongByField`, `none` when it throws. -/
def Tuple.getLongByField (input : Tuple) (field : String) : Option Long :=
  match input.getValueByField field with
  | some (.long value) => some value
  | _ => none

/-! ### The declared streams -/

/-- `VOD_DIS` of `TopFilter_Bolt`. -/
def vodDisFields : List String :=
  ["play_type", "partner", "mac", "srcId", "chnName", "chnId", "albumName", "albumId", "playOrder",
    "videoId", "timeLength", "playLength", "logDate", "city", "province"]

/-- `LIV_DIS` of `TopFilter_Bolt`. -/
def livDisFields : List String :=
  ["play_type", "partner", "mac", "srcId", "chnCode", "albumName", "playOrder", "timeLength",
    "playLength", "logDate", "city", "province"]

/-- `VOD_TO_USER` of `VOD_Distribute_Bolt`. -/
def vodToUserFields : List String :=
  ["partner", "mac", "srcName", "chnName", "chnId", "albumName", "albumId", "playOrder", "videoId",
    "playLength", "timeLength", "logDate"]

/-- `VOD_TO_PROGRAM` of `VOD_Distribute_Bolt`. -/
def vodToProgramFields : List String :=
  ["partner", "srcName", "chnName", "chnId", "albumName", "albumId", "playOrder", "videoId",
    "province", "city", "playLength", "timeLength", "logDate"]

/-- `LIV_TO_USER` of `LIV_Distribute_Bolt`. -/
def livToUserFields : List String :=
  ["partner", "mac", "srcName", "chnCode", "albumName", "playOrder", "playLength", "timeLength",
    "logDate"]

/-- `LIV_TO_PROGRAM` of `LIV_Distribute_Bolt`. -/
def livToProgramFields : List String :=
  ["partner", "srcName", "chnCode", "albumName", "playOrder", "province", "city", "playLength",
    "timeLength", "logDate"]

/-- `VOD_TO_USER_INSERT` of `VOD_UserViscosity_Bolt`. -/
def vodToUserInsertFields : List String :=
  ["partner", "mac", "srcName", "chnName", "chnId", "albumName", "albumId", "playOrder", "videoId",
    "playLength", "timeLength", "logDate"]

/-- `VOD_TO_USER_UPDATE` of `VOD_UserViscosity_Bolt`. -/
def vodToUserUpdateFields : List String :=
  ["partner", "mac", "srcName", "chnName", "chnId", "albumName", "albumId", "playOrder", "videoId",
    "playLength", "logDate"]

/-- `VOD_TO_PROGRAM_INSERT` of `VOD_ProgramViscosity_Bolt`. -/
def vodToProgramInsertFields : List String :=
  ["partner", "srcName", "chnName", "chnId", "albumName", "albumId", "playOrder", "videoId",
    "province", "city", "playLength", "timeLength", "logDate"]

/-- `VOD_TO_PROGRAM_UPDATE` of `VOD_ProgramViscosity_Bolt`. -/
def vodToProgramUpdateFields : List String :=
  ["partner", "srcName", "chnName", "chnId", "albumName", "albumId", "playOrder", "videoId",
    "province", "city", "playLength", "logDate"]

/-- `LIV_TO_USER_INSERT` of `LIV_UserViscosity_Bolt`. -/
def livToUserInsertFields : List String :=
  ["partner", "mac", "srcName", "chnCode", "albumName", "playOrder", "playLength", "timeLength",
    "logDate"]

/-- `LIV_TO_USER_UPDATE` of `LIV_UserViscosity_Bolt`. -/
def livToUserUpdateFields : List String :=
  ["partner", "mac", "srcName", "chnCode", "albumName", "playOrder", "playLength", "logDate"]

/-- `LIV_TO_PROGRAM_INSERT` of `LIV_ProgramViscosity_Bolt`. -/
def livToProgramInsertFields : List String :=
  ["partner", "srcName", "chnCode", "albumName", "playOrder", "province", "city", "playLength",
    "timeLength", "logDate"]

/-- `LIV_TO_PROGRAM_UPDATE` of `LIV_ProgramViscosity_Bolt`. -/
def livToProgramUpdateFields : List String :=
  ["partner", "srcName", "chnCode", "albumName", "playOrder", "province", "city", "playLength",
    "logDate"]

/-! ### The filter and the distribute bolts -/

/-- The two kinds of play that `TopFilter_Bolt` tells apart. -/
inductive Kind where
  | vod | liv
  deriving DecidableEq, Repr

/-- The vod branch of `TopFilter_Bolt`. -/
def topFilterVod (playType : String) (contents : List String) : Option Tuple := do
  let partner ← contents[3]?
  let mac ← contents[5]?
  let srcId ← contents[16]?
  let chnName ← contents[15]?
  let chnId ← contents[14]?
  let albumName ← contents[10]?
  let albumId ← contents[9]?
  let playOrder ← contents[22]?
  let videoId ← contents[11]?
  let timeLength ← contents[13]?
  let playLength ← contents[19]?
  let logDate ← contents[30]?
  let city ← contents[33]?
  let province ← contents[35]?
  emit vodDisFields [.string playType, .string partner, .string mac, .string srcId,
    .string chnName, .string chnId, .string albumName, .string albumId, .string playOrder,
    .string videoId, .string timeLength, .string playLength, .string logDate, .string city,
    .string province]

/-- The livod branch of `TopFilter_Bolt`. -/
def topFilterLiv (playType : String) (contents : List String) : Option Tuple := do
  let partner ← contents[3]?
  let mac ← contents[5]?
  let srcId ← contents[16]?
  let chnCode ← contents[28]?
  let albumName ← contents[10]?
  let playOrder ← contents[22]?
  let timeLength ← contents[13]?
  let playLength ← contents[19]?
  let logDate ← contents[33]?
  let city ← contents[36]?
  let province ← contents[37]?
  emit livDisFields [.string playType, .string partner, .string mac, .string srcId,
    .string chnCode, .string albumName, .string playOrder, .string timeLength, .string playLength,
    .string logDate, .string city, .string province]

/-- `TopFilter_Bolt.execute`: the stream and what is emitted on it. -/
def topFilter (info : String) : Option (Kind × Tuple) :=
  if isBlank (some info) then none
  else
    let contents := strSplitTrim info
    match contents[0]? with
    | some "vod" => (topFilterVod "vod" contents).map fun tuple => (.vod, tuple)
    | some "livod" => (topFilterLiv "livod" contents).map fun tuple => (.liv, tuple)
    | _ => none

section
variable (digits : CharacterDigit) (srcNames : String → Option String)

/-- `VOD_Distribute_Bolt.execute`: what it emits on `VOD_TO_USER` and `VOD_TO_PROGRAM`. -/
def vodDistribute (input : Tuple) : Option (Tuple × Tuple) := do
  let partner ← input.getStringByField "partner"
  let mac ← input.getStringByField "mac"
  let srcId ← input.getStringByField "srcId"
  let chnName ← input.getStringByField "chnName"
  let chnId ← input.getStringByField "chnId"
  let albumName ← input.getStringByField "albumName"
  let albumId ← input.getStringByField "albumId"
  let playOrder ← input.getStringByField "playOrder"
  let videoId ← input.getStringByField "videoId"
  let timeLength ← input.getStringByField "timeLength"
  let playLength ← input.getStringByField "playLength"
  let logDate ← input.getStringByField "logDate"
  let city ← input.getStringByField "city"
  let province ← input.getStringByField "province"
  if isLegalField [some partner, some mac, some albumName, some albumId, some timeLength,
      some playLength, some chnName, some chnId, some logDate, some srcId] then
    let time_Length ← parseLong digits timeLength
    let play_Length ← parseLong digits playLength
    let srcName ← srcNames srcId
    let toUser ← emit vodToUserFields [.string partner, .string mac, .string srcName,
      .string chnName, .string chnId, .string albumName, .string albumId, .string playOrder,
      .string videoId, .long (.ofInt 64 play_Length), .long (.ofInt 64 time_Length),
      .string logDate]
    let toProgram ← emit vodToProgramFields [.string partner, .string srcName, .string chnName,
      .string chnId, .string albumName, .string albumId, .string playOrder, .string videoId,
      .string province, .string city, .long (.ofInt 64 play_Length),
      .long (.ofInt 64 time_Length), .string logDate]
    pure (toUser, toProgram)
  else none

/-- `LIV_Distribute_Bolt.execute`: what it emits on `LIV_TO_USER` and `LIV_TO_PROGRAM`. -/
def livDistribute (input : Tuple) : Option (Tuple × Tuple) := do
  let partner ← input.getStringByField "partner"
  let mac ← input.getStringByField "mac"
  let srcId ← input.getStringByField "srcId"
  let chnCode ← input.getStringByField "chnCode"
  let albumName ← input.getStringByField "albumName"
  let playOrder ← input.getStringByField "playOrder"
  let timeLength ← input.getStringByField "timeLength"
  let playLength ← input.getStringByField "playLength"
  let logDate ← input.getStringByField "logDate"
  let city ← input.getStringByField "city"
  let province ← input.getStringByField "province"
  if isLegalField [some partner, some mac, some albumName, some timeLength, some playLength,
      some chnCode, some logDate, some srcId] then
    let time_Length ← parseLong digits timeLength
    let play_Length ← parseLong digits playLength
    let srcName ← srcNames srcId
    let toUser ← emit livToUserFields [.string partner, .string mac, .string srcName,
      .string chnCode, .string albumName, .string playOrder, .long (.ofInt 64 play_Length),
      .long (.ofInt 64 time_Length), .string logDate]
    let toProgram ← emit livToProgramFields [.string partner, .string srcName, .string chnCode,
      .string albumName, .string playOrder, .string province, .string city,
      .long (.ofInt 64 play_Length), .long (.ofInt 64 time_Length), .string logDate]
    pure (toUser, toProgram)
  else none

end

end GitvTime.Source.Viscosity.Wiring
