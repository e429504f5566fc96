import Mathlib.Data.List.Basic

/-!
# Synchronisation of user_info with MySQL

`QueueConsumer.run` of userinfo-consumer-mysql and the three `getFromMysql`
behind it. A Java method is a program over its local `uif`: an exception ends it
and keeps what was filled in, as the catch block returns `uif`. MySQL answers
from its content; every JDBC call can throw instead. Of a result set the code
reads the first row only. The asynchronous update is applied at once or not at
all, and a consumer has its own `SynData`.
-/
namespace GitvTime.Source.RmConsumer

/-- `bean/UserInfo.java`; timestamps are milliseconds, `none` is null. -/
structure UserInfo where
  partner : String
  macAddr : String
  province : String
  mainAccountId : Option String := none
  childAccountId : Option String := none
  userId : Option String := none
  accountTime : Option Int := none
  activateTime : Option Int := none
  status : Int := 0
  userType : Int := 0
  cityName : Option String := none
  areaName : Option String := none
deriving DecidableEq

namespace UserInfo

def setMainAccountId (value : Option String) (uif : UserInfo) : UserInfo :=
  { uif with mainAccountId := value }

def setChildAccountId (value : Option String) (uif : UserInfo) : UserInfo :=
  { uif with childAccountId := value }

def setUserId (value : Option String) (uif : UserInfo) : UserInfo := { uif with userId := value }

def setAccountTime (value : Option Int) (uif : UserInfo) : UserInfo :=
  { uif with accountTime := value }

def setActivateTime (value : Option Int) (uif : UserInfo) : UserInfo :=
  { uif with activateTime := value }

def setStatus (value : Int) (uif : UserInfo) : UserInfo := { uif with status := value }

def setUserType (value : Int) (uif : UserInfo) : UserInfo := { uif with userType := value }

def setCityName (value : Option String) (uif : UserInfo) : UserInfo :=
  { uif with cityName := value }

def setAreaName (value : Option String) (uif : UserInfo) : UserInfo :=
  { uif with areaName := value }

end UserInfo

structure ContUserMac where
  mainAccountId : Option String
  childAccountId : Option String
  userType : Option Int
  createTime : Option Int

structure ContUserChild where
  areaNo : Option String
  status : Option Int
  createTime : Option Int

structure ContUserAreaInfo where
  areaName : Option String
  cityName : Option String

structure HdcOrderingRelationInfo where
  phoneNumber : Option String
  userCity : Option String
  userType : Option Int
  status : Option Int
  firstLogin : Option Int
  createDate : Option Int

structure ActiveSuccess where
  userId : Option String
  createTime : Option Int

structure OrderRelation where
  userCity : Option String
  createTime : Option Int
  opType : Option String
  idType : Option String

/-- The first row each query finds, by its key. No row has a null key; a null
column of a found row is an inner `none`. -/
structure Mysql where
  contUserMac : String → Option ContUserMac
  contUserChild : String → Option ContUserChild
  contUserAreaInfo : String → Option ContUserAreaInfo
  hdcOrderingRelationInfo : String → Option HdcOrderingRelationInfo
  city : String → Option (Option String)
  device : String → Option (Option Int)
  activeSuccess : String → Option ActiveSuccess
  orderRelation : String → Option OrderRelation

/-- `sql1`, `sql2` and `sql3` of an implementation. -/
inductive Query where
  | sql1
  | sql2
  | sql3
deriving DecidableEq

/-- What can throw; `column` is the n-th read of a column of a result set. -/
inductive Call where
  | isClosed
  | getConnection
  | prepareStatement (query : Query)
  | setString (query : Query)
  | executeQuery (query : Query)
  | next (query : Query)
  | column (query : Query) (index n : Nat)
  | close (query : Query)
  | nullPointer
deriving DecidableEq

inductive Connection where
  | null
  | closed
  | opened
deriving DecidableEq

/-- The fields of a `SynData`: `prepared` says that the statement belongs to the
open connection; with another one `setString` throws. -/
structure SynData where
  connection : Connection
  prepared : Query → Bool

/-- The fields and the local variable that `getFromMysql` works on. -/
structure Frame where
  syn : SynData
  uif : Option UserInfo

abbrev Body := EStateM Unit Frame

section
variable (throws : Call → Bool)

/-- The `prepareStatement` calls of `initConnection`, up to the first that throws. -/
def prepareAll : List Query → SynData → SynData
  | [], syn => syn
  | query :: rest, syn =>
    if throws (.prepareStatement query) then syn
    else prepareAll rest { syn with prepared := fun q => q = query || syn.prepared q }

/-- `initConnection`: its catch block only logs. `JDBCPoolUtils.getConnection`
gives null when it fails. -/
def initConnection (syn : SynData) : SynData :=
  if throws .getConnection then { syn with connection := .null }
  else prepareAll throws [.sql1, .sql2, .sql3] { syn with connection := .opened }

def call (c : Call) : Body Unit := if throws c then throw () else pure ()

/-- `connection == null || connection.isClosed()`. -/
def connectionLost : Body Bool := do
  match (← get).syn.connection with
  | .null => pure true
  | .closed => call throws .isClosed; pure true
  | .opened => call throws .isClosed; pure false

def reconnect : Body Unit := do
  if ← connectionLost throws then
    modify fun frame => { frame with syn := initConnection throws frame.syn }

def setString (query : Query) : Body Unit := do
  if (← get).syn.prepared query then call throws (.setString query) else throw ()

/-- `setString`, `executeQuery` and `next` of a query that finds `row`. -/
def select {α : Type} (query : Query) (row : Option α) : Body (Option α) := do
  setString throws query
  call throws (.executeQuery query)
  call throws (.next query)
  pure row

/-- `getString`, `getInt` or `getTimestamp`. -/
def column {α : Type} (query : Query) (index n : Nat) (value : α) : Body α := do
  call throws (.column query index n)
  pure value

/-- A method call on a reference. -/
def dereference {α : Type} : Option α → Body α
  | some value => pure value
  | none => throw ()

end

/-- `new UserInfo()` with the three fields set from constants. -/
def create (partner province mac : String) : Body Unit :=
  modify fun frame =>
    { frame with uif := some { partner := partner, macAddr := mac, province := province } }

/-- A call of a setter. -/
def fill (set : UserInfo → UserInfo) : Body Unit :=
  modify fun frame => { frame with uif := frame.uif.map set }

/-- `getInt`: 0 for a null column. -/
def getInt (value : Option Int) : Int := value.getD 0

/-- `city` without a final 市. -/
def cityOf (city : String) : String :=
  if city.toList.getLast? = some '市' then String.ofList city.toList.dropLast else city

/-- The query of table `city` and what is done with its row. -/
def fillCity (throws : Call → Bool) (db : Mysql) (query : Query) (id : Option String) :
    Body Unit := do
  match ← select throws query (id.bind db.city) with
  | none => pure ()
  | some name =>
    let city ← dereference (← column throws query 1 1 name)
    fill (.setCityName (some (cityOf city)))

namespace AhCmcc
variable (throws : Call → Bool) (db : Mysql)

/-- 1=开户 becomes 6=激活. -/
def statusOf (status : Int) : Int := if status = 1 then 6 else status

/-- `sql3` and what is done with its row. -/
def fillArea (areaNo : Option String) : Body Unit := do
  match ← select throws .sql3 (areaNo.bind db.contUserAreaInfo) with
  | none => pure ()
  | some area =>
    let areaName ← column throws .sql3 1 1 area.areaName
    fill (.setAreaName areaName)
    let city ← dereference (← column throws .sql3 2 1 area.cityName)
    fill (.setCityName (some (cityOf city)))

/-- `sql2` and what is done with its row. -/
def fillChild (childAccountId : Option String) : Body Unit := do
  match ← select throws .sql2 (childAccountId.bind db.contUserChild) with
  | none => pure ()
  | some child =>
    let areaNo ← column throws .sql2 1 1 child.areaNo
    fillArea throws db areaNo
    call throws (.close .sql3)
    let status ← column throws .sql2 2 1 (getInt child.status)
    fill (.setStatus (statusOf status))
    let accountTime ← dereference (← column throws .sql2 3 1 child.createTime)
    fill (.setAccountTime (some accountTime))

def getFromMysql (partner mac : String) : Body Unit := do
  reconnect throws
  match ← select throws .sql1 (db.contUserMac mac) with
  | none => pure ()
  | some row =>
    create partner "安徽省" mac
    let mainAccountId ← column throws .sql1 1 1 row.mainAccountId
    fill (.setMainAccountId mainAccountId)
    let childAccountId ← column throws .sql1 2 1 row.childAccountId
    fill (.setChildAccountId childAccountId)
    let userId ← column throws .sql1 2 2 row.childAccountId
    fill (.setUserId userId)
    let userType ← column throws .sql1 3 1 (getInt row.userType)
    fill (.setUserType userType)
    let activateTime ← dereference (← column throws .sql1 4 1 row.createTime)
    fill (.setActivateTime (some activateTime))
    call throws (.close .sql1)
    fillChild throws db childAccountId
    call throws (.close .sql2)

end AhCmcc

namespace JsCmcc
variable (throws : Call → Bool) (db : Mysql)

/-- 1=开户, 6=激活, 4=暂停; 0 stands for null. -/
def statusOf (status firstLogin : Int) : Int :=
  if firstLogin = 1 ∧ status = 1 then 1
  else if firstLogin = 0 ∧ status = 1 then 6
  else if firstLogin = 0 ∧ status = 0 then 4
  else 0

/-- `sql3` and what is done with its row. -/
def fillDevice (mac : String) : Body Unit := do
  match ← select throws .sql3 (db.device mac) with
  | none => pure ()
  | some devCtime =>
    let activateTime ← dereference (← column throws .sql3 1 1 devCtime)
    fill (.setActivateTime (some activateTime))

def getFromMysql (partner mac : String) : Body Unit := do
  reconnect throws
  match ← select throws .sql1 (db.hdcOrderingRelationInfo mac) with
  | none => pure ()
  | some row =>
    create partner "江苏省" mac
    let mainAccountId ← column throws .sql1 1 1 row.phoneNumber
    fill (.setMainAccountId mainAccountId)
    let childAccountId ← column throws .sql1 1 2 row.phoneNumber
    fill (.setChildAccountId childAccountId)
    let userId ← column throws .sql1 1 3 row.phoneNumber
    fill (.setUserId userId)
    let userCity ← column throws .sql1 2 1 row.userCity
    fillCity throws db .sql2 userCity
    call throws (.close .sql2)
    let userType ← column throws .sql1 3 1 (getInt row.userType)
    fill (.setUserType userType)
    let status ← column throws .sql1 4 1 (getInt row.status)
    let firstLogin ← column throws .sql1 5 1 (getInt row.firstLogin)
    fill (.setStatus (statusOf status firstLogin))
    let accountTime ← dereference (← column throws .sql1 6 1 row.createDate)
    fill (.setAccountTime (some accountTime))
    call throws (.close .sql1)
    fillDevice throws db mac
    call throws (.close .sql3)

end JsCmcc

namespace JsCmccCp
variable (throws : Call → Bool) (db : Mysql)

def statusOf (opType : String) : Int :=
  if opType = "0" then 1
  else if opType = "1" then 2
  else if opType = "2" then 4
  else if opType = "3" then 5
  else if opType = "6" then 6
  else if opType = "8" then 7
  else 0

def userTypeOf (idType : String) : Int :=
  if idType = "01" then 1
  else if idType = "91" then 2
  else if idType = "92" then 3
  else 0

/-- `sql2` and what is done with its row. -/
def fillOrder (userId : Option String) : Body Unit := do
  match ← select throws .sql2 (userId.bind db.orderRelation) with
  | none => pure ()
  | some order =>
    let userCity ← column throws .sql2 1 1 order.userCity
    let accountTime ← dereference (← column throws .sql2 2 1 order.createTime)
    fill (.setAccountTime (some accountTime))
    fillCity throws db .sql3 userCity
    call throws (.close .sql3)
    let opType ← dereference (← column throws .sql2 3 1 order.opType)
    fill (.setStatus (statusOf opType))
    let idType ← dereference (← column throws .sql2 4 1 order.idType)
    fill (.setUserType (userTypeOf idType))

def getFromMysql (partner mac : String) : Body Unit := do
  reconnect throws
  match ← select throws .sql1 (db.activeSuccess mac) with
  | none => pure ()
  | some row =>
    create partner "江苏省" mac
    let mainAccountId ← column throws .sql1 1 1 row.userId
    fill (.setMainAccountId mainAccountId)
    let childAccountId ← column throws .sql1 1 2 row.userId
    fill (.setChildAccountId childAccountId)
    let userId ← column throws .sql1 1 3 row.userId
    fill (.setUserId userId)
    let activateTime ← dereference (← column throws .sql1 2 1 row.createTime)
    fill (.setActivateTime (some activateTime))
    call throws (.close .sql1)
    fillOrder throws db userId
    call throws (.close .sql2)

end JsCmccCp

/-- The implementations of `SynFactory`. -/
inductive Partner where
  | ahCmcc
  | jsCmcc
  | jsCmccCp
deriving DecidableEq

def Partner.routingKey : Partner → String
  | .ahCmcc => "AH_CMCC"
  | .jsCmcc => "JS_CMCC"
  | .jsCmccCp => "JS_CMCC_CP"

def Partner.getFromMysql (partner : Partner) (throws : Call → Bool) (db : Mysql) (mac : String) :
    Body Unit :=
  match partner with
  | .ahCmcc => AhCmcc.getFromMysql throws db partner.routingKey mac
  | .jsCmcc => JsCmcc.getFromMysql throws db partner.routingKey mac
  | .jsCmccCp => JsCmccCp.getFromMysql throws db partner.routingKey mac

/-- The catch block of `getFromMysql` logs, and `uif` is returned in any case. -/
def caught (body : Body Unit) (syn : SynData) : Frame :=
  match body.run ⟨syn, none⟩ with
  | .ok _ frame => frame
  | .error _ frame => frame

/-- What a consumer works on: its `SynData` and the two Cassandra tables, by mac. -/
structure State where
  syn : SynData
  userInfo : String → Option UserInfo
  notFound : String → Bool

/-- A mac from the queue, what MySQL holds then and which calls throw; whether the
connection was closed since the last one; whether Cassandra takes the update. -/
structure Poll where
  mac : String
  db : Mysql
  throws : Call → Bool
  dropped : Bool
  accepted : Bool

/-- An update that Cassandra applied. -/
inductive Update where
  | userInfo (uif : UserInfo)
  | notFound

/-- A closed connection leaves no statement of use. -/
def SynData.drop (syn : SynData) (dropped : Bool) : SynData :=
  if dropped && syn.connection = .opened then ⟨.closed, fun _ => false⟩ else syn

/-- The end of `getFromMysql` for the polled mac. -/
def State.lookUp (s : State) (partner : Partner) (poll : Poll) : Frame :=
  caught (partner.getFromMysql poll.throws poll.db poll.mac) (s.syn.drop poll.dropped)

/-- `QueueConsumer.run`: the update it makes. -/
def State.update (s : State) (partner : Partner) (poll : Poll) : Option Update :=
  if poll.accepted then
    match (s.lookUp partner poll).uif with
    | some uif => some (.userInfo uif)
    | none => some .notFound
  else none

def State.step (partner : Partner) (s : State) (poll : Poll) : Option State :=
  let after := { s with syn := (s.lookUp partner poll).syn }
  match s.update partner poll with
  | some (.userInfo uif) =>
    some { after with userInfo := fun mac => if mac = poll.mac then some uif else s.userInfo mac }
  | some .notFound =>
    some { after with notFound := fun mac => mac = poll.mac || s.notFound mac }
  | none => some after

end GitvTime.Source.RmConsumer
