import GitvTime.Source.UserInfo.MysqlSync
import GitvTime.Support.FaultyCalls
import GitvTime.Support.Runs

/-!
# What the MySQL synchronisation writes

A consumer is faithful in a step when it updates `user_info` only with the record
that completed lookups give, and `not_found_from_mysql` only for a mac that the
first query did not find. As `getFromMysql` returns what it has when a call
throws, null or half filled, a consumer is faithful throughout a run exactly when
every call that the lookups make returns, or Cassandra refuses the update.
-/
namespace GitvTime.Guarantees.UserInfo.MysqlSync

open GitvTime.Source.RmConsumer
open GitvTime.Support

/-- The call returns; `setString` needs a statement of the open connection. -/
def Returns (throws : Call → Bool) (syn : SynData) : Call → Prop
  | .nullPointer => False
  | .setString query => syn.prepared query = true ∧ throws (.setString query) = false
  | c => throws c = false

/-! ## The calls of the lookups, up to the last that fills a column -/

def selected (query : Query) : List Call := [.setString query, .executeQuery query, .next query]

def dereferenced {α : Type} : Option α → List Call
  | none => [.nullPointer]
  | some _ => []

def cityLookups (db : Mysql) (query : Query) (id : Option String) : List Call :=
  selected query ++
  match id.bind db.city with
  | none => []
  | some name => .column query 1 1 :: dereferenced name

def areaLookups (db : Mysql) (areaNo : Option String) : List Call :=
  selected .sql3 ++
  match areaNo.bind db.contUserAreaInfo with
  | none => []
  | some area => .column .sql3 1 1 :: .column .sql3 2 1 :: dereferenced area.cityName

def childLookups (db : Mysql) (childAccountId : Option String) : List Call :=
  selected .sql2 ++
  match childAccountId.bind db.contUserChild with
  | none => []
  | some child =>
    .column .sql2 1 1 :: areaLookups db child.areaNo ++
      .close .sql3 :: .column .sql2 2 1 :: .column .sql2 3 1 :: dereferenced child.createTime

def ahLookups (db : Mysql) (mac : String) : List Call :=
  selected .sql1 ++
  match db.contUserMac mac with
  | none => []
  | some row =>
    .column .sql1 1 1 :: .column .sql1 2 1 :: .column .sql1 2 2 :: .column .sql1 3 1 ::
      .column .sql1 4 1 :: dereferenced row.createTime ++
      .close .sql1 :: childLookups db row.childAccountId

def deviceLookups (db : Mysql) (mac : String) : List Call :=
  selected .sql3 ++
  match db.device mac with
  | none => []
  | some devCtime => .column .sql3 1 1 :: dereferenced devCtime

def jsLookups (db : Mysql) (mac : String) : List Call :=
  selected .sql1 ++
  match db.hdcOrderingRelationInfo mac with
  | none => []
  | some row =>
    .column .sql1 1 1 :: .column .sql1 1 2 :: .column .sql1 1 3 :: .column .sql1 2 1 ::
      cityLookups db .sql2 row.userCity ++
      .close .sql2 :: .column .sql1 3 1 :: .column .sql1 4 1 :: .column .sql1 5 1 ::
      .column .sql1 6 1 :: dereferenced row.createDate ++
      .close .sql1 :: deviceLookups db mac

def orderLookups (db : Mysql) (userId : Option String) : List Call :=
  selected .sql2 ++
  match userId.bind db.orderRelation with
  | none => []
  | some order =>
    .column .sql2 1 1 :: .column .sql2 2 1 :: dereferenced order.createTime ++
      cityLookups db .sql3 order.userCity ++
      .close .sql3 :: .column .sql2 3 1 :: dereferenced order.opType ++
      .column .sql2 4 1 :: dereferenced order.idType

def cpLookups (db : Mysql) (mac : String) : List Call :=
  selected .sql1 ++
  match db.activeSuccess mac with
  | none => []
  | some row =>
    .column .sql1 1 1 :: .column .sql1 1 2 :: .column .sql1 1 3 :: .column .sql1 2 1 ::
      dereferenced row.createTime ++
      .close .sql1 :: orderLookups db row.userId

def lookups (partner : Partner) (db : Mysql) (mac : String) : List Call :=
  match partner with
  | .ahCmcc => ahLookups db mac
  | .jsCmcc => jsLookups db mac
  | .jsCmccCp => cpLookups db mac

/-! ## The record that the content of MySQL gives -/

def ahRecord (db : Mysql) (partner mac : String) (row : ContUserMac) : UserInfo :=
  let child := row.childAccountId.bind db.contUserChild
  let area := (child.bind (·.areaNo)).bind db.contUserAreaInfo
  { partner := partner, macAddr := mac, province := "安徽省"
    mainAccountId := row.mainAccountId
    childAccountId := row.childAccountId
    userId := row.childAccountId
    accountTime := child.bind (·.createTime)
    activateTime := row.createTime
    status := (child.map fun child => AhCmcc.statusOf (getInt child.status)).getD 0
    userType := getInt row.userType
    cityName := (area.bind (·.cityName)).map cityOf
    areaName := area.bind (·.areaName) }

def jsRecord (db : Mysql) (partner mac : String) (row : HdcOrderingRelationInfo) : UserInfo :=
  { partner := partner, macAddr := mac, province := "江苏省"
    mainAccountId := row.phoneNumber
    childAccountId := row.phoneNumber
    userId := row.phoneNumber
    accountTime := row.createDate
    activateTime := (db.device mac).join
    status := JsCmcc.statusOf (getInt row.status) (getInt row.firstLogin)
    userType := getInt row.userType
    cityName := (row.userCity.bind db.city).join.map cityOf }

def cpRecord (db : Mysql) (partner mac : String) (row : ActiveSuccess) : UserInfo :=
  let order := row.userId.bind db.orderRelation
  { partner := partner, macAddr := mac, province := "江苏省"
    mainAccountId := row.userId
    childAccountId := row.userId
    userId := row.userId
    accountTime := order.bind (·.createTime)
    activateTime := row.createTime
    status := ((order.bind (·.opType)).map JsCmccCp.statusOf).getD 0
    userType := ((order.bind (·.idType)).map JsCmccCp.userTypeOf).getD 0
    cityName := ((order.bind (·.userCity)).bind db.city).join.map cityOf }

/-- `none` for a mac that the first query does not find. -/
def record (partner : Partner) (db : Mysql) (mac : String) : Option UserInfo :=
  match partner with
  | .ahCmcc => (db.contUserMac mac).map (ahRecord db partner.routingKey mac)
  | .jsCmcc => (db.hdcOrderingRelationInfo mac).map (jsRecord db partner.routingKey mac)
  | .jsCmccCp => (db.activeSuccess mac).map (cpRecord db partner.routingKey mac)

/-! ## Completed lookups give the record -/

section
variable {throws : Call → Bool} {syn : SynData} {uif : Option UserInfo}

theorem call_ends {c : Call} (plain : Returns throws syn c ↔ throws c = false) :
    EndsWith (Returns throws syn) [c] (call throws c) ⟨syn, uif⟩ () ⟨syn, uif⟩ where
  ends returned := by
    have quiet := plain.mp (returned c (List.mem_singleton_self c))
    rw [call, if_neg (by simp [quiet])]
    rfl
  throws other member failed := by
    cases List.mem_singleton.mp member
    have thrown : throws c = true := by simpa using fun quiet => failed (plain.mpr quiet)
    exact ⟨(), ⟨syn, uif⟩, by rw [call, if_pos thrown]; rfl⟩

theorem call_leaves (c : Call) :
    Leaves (Returns throws syn) [] (call throws c) ⟨syn, uif⟩ ⟨syn, uif⟩ where
  leaves _ := by
    rw [call]
    split <;> rfl
  throws _ member := absurd member List.not_mem_nil

theorem setString_ends (query : Query) :
    EndsWith (Returns throws syn) [.setString query] (setString throws query) ⟨syn, uif⟩ ()
      ⟨syn, uif⟩ := by
  refine EndsWith.get.quiet ?_
  cases prepared : syn.prepared query with
  | true =>
    rw [if_pos rfl]
    exact call_ends (by simp [Returns, prepared])
  | false =>
    rw [if_neg (by simp)]
    exact .of_throws List.mem_cons_self (by simp [Returns, prepared]) ⟨_, _, rfl⟩

theorem select_ends {α : Type} (query : Query) (row : Option α) :
    EndsWith (Returns throws syn) (selected query) (select throws query row) ⟨syn, uif⟩ row
      ⟨syn, uif⟩ := by
  refine (setString_ends query).bind ?_
  refine (call_ends Iff.rfl).bind ?_
  exact (call_ends Iff.rfl).bind (EndsWith.pure row)

theorem column_ends {α : Type} (query : Query) (index n : Nat) (value : α) :
    EndsWith (Returns throws syn) [.column query index n] (column throws query index n value)
      ⟨syn, uif⟩ value ⟨syn, uif⟩ :=
  (call_ends Iff.rfl).bind (EndsWith.pure value)

theorem close_ends (query : Query) :
    EndsWith (Returns throws syn) [.close query] (call throws (.close query)) ⟨syn, uif⟩ ()
      ⟨syn, uif⟩ :=
  call_ends Iff.rfl

theorem fill_ends (set : UserInfo → UserInfo) (bean : UserInfo) :
    EndsWith (Returns throws syn) [] (fill set) ⟨syn, some bean⟩ () ⟨syn, some (set bean)⟩ :=
  EndsWith.modify _

theorem create_ends (partner province mac : String) :
    EndsWith (Returns throws syn) [] (create partner province mac) ⟨syn, uif⟩ ()
      ⟨syn, some { partner := partner, macAddr := mac, province := province }⟩ :=
  EndsWith.modify _

/-- Behind a reference the program goes on with its object. -/
theorem dereference_ends {α β : Type} (value : Option α) {f : α → Body β} {calls : List Call}
    {b : β} {frame : Frame}
    (later : ∀ a, value = some a →
      EndsWith (Returns throws syn) calls (f a) ⟨syn, uif⟩ b frame) :
    EndsWith (Returns throws syn) (dereferenced value ++ calls) (dereference value >>= f)
      ⟨syn, uif⟩ b frame := by
  cases value with
  | none => exact .of_throws List.mem_cons_self id (Throws.bind ⟨_, _, rfl⟩)
  | some a => exact later a rfl

theorem dereference_leaves {α β : Type} (value : Option α) {f : α → Body β} {calls : List Call}
    {frame : Frame}
    (later : ∀ a, value = some a → Leaves (Returns throws syn) calls (f a) ⟨syn, uif⟩ frame) :
    Leaves (Returns throws syn) (dereferenced value ++ calls) (dereference value >>= f)
      ⟨syn, uif⟩ frame := by
  cases value with
  | none => exact .of_throws List.mem_cons_self id (Throws.bind ⟨_, _, rfl⟩)
  | some a => exact later a rfl

/-- A column that is filled from a reference, as the last thing. -/
theorem dereference_fill {α : Type} (value : Option α) {set : α → UserInfo → UserInfo}
    {bean bean' : UserInfo} (filled : ∀ a, value = some a → set a bean = bean') :
    EndsWith (Returns throws syn) (dereferenced value) (dereference value >>= fun a => fill (set a))
      ⟨syn, some bean⟩ () ⟨syn, some bean'⟩ := by
  rw [← List.append_nil (dereferenced value)]
  exact dereference_ends value fun a found => filled a found ▸ fill_ends (set a) bean

theorem fillCity_ends (db : Mysql) (query : Query) (id : Option String) {bean : UserInfo}
    (blank : bean.cityName = none) :
    EndsWith (Returns throws syn) (cityLookups db query id) (fillCity throws db query id)
      ⟨syn, some bean⟩ () ⟨syn, some (bean.setCityName ((id.bind db.city).join.map cityOf))⟩ := by
  refine (select_ends query (id.bind db.city)).bind ?_
  cases id.bind db.city with
  | none =>
    cases bean
    cases blank
    exact EndsWith.pure ()
  | some name =>
    refine (column_ends query 1 1 name).bind (dereference_fill name fun city found => ?_)
    subst found
    rfl

theorem fillArea_ends (db : Mysql) (areaNo : Option String) {bean : UserInfo}
    (blank : bean.cityName = none ∧ bean.areaName = none) :
    EndsWith (Returns throws syn) (areaLookups db areaNo) (AhCmcc.fillArea throws db areaNo)
      ⟨syn, some bean⟩ ()
      ⟨syn, some ((bean.setAreaName ((areaNo.bind db.contUserAreaInfo).bind (·.areaName))).setCityName
        (((areaNo.bind db.contUserAreaInfo).bind (·.cityName)).map cityOf))⟩ := by
  refine (select_ends .sql3 (areaNo.bind db.contUserAreaInfo)).bind ?_
  cases areaNo.bind db.contUserAreaInfo with
  | none =>
    cases bean
    obtain ⟨rfl, rfl⟩ := blank
    exact EndsWith.pure ()
  | some area =>
    refine (column_ends .sql3 1 1 area.areaName).bind ((fill_ends _ bean).quiet ?_)
    refine (column_ends .sql3 2 1 area.cityName).bind (dereference_fill _ fun city found => ?_)
    rw [Option.bind_some, Option.bind_some, found, Option.map_some]

/-- The columns filled from the child's row and its area. -/
def withChild (db : Mysql) (childAccountId : Option String) (bean : UserInfo) : UserInfo :=
  let child := childAccountId.bind db.contUserChild
  let area := (child.bind (·.areaNo)).bind db.contUserAreaInfo
  (((bean.setAreaName (area.bind (·.areaName))).setCityName
    ((area.bind (·.cityName)).map cityOf)).setStatus
    ((child.map fun child => AhCmcc.statusOf (getInt child.status)).getD 0)).setAccountTime
    (child.bind (·.createTime))

theorem fillChild_ends (db : Mysql) (childAccountId : Option String) {bean : UserInfo}
    (blank : bean.cityName = none ∧ bean.areaName = none)
    (unset : bean.accountTime = none ∧ bean.status = 0) :
    EndsWith (Returns throws syn) (childLookups db childAccountId)
      (AhCmcc.fillChild throws db childAccountId) ⟨syn, some bean⟩ ()
      ⟨syn, some (withChild db childAccountId bean)⟩ := by
  unfold withChild
  refine (select_ends .sql2 (childAccountId.bind db.contUserChild)).bind ?_
  cases childAccountId.bind db.contUserChild with
  | none =>
    cases bean
    obtain ⟨rfl, rfl⟩ := blank
    obtain ⟨rfl, rfl⟩ := unset
    exact EndsWith.pure ()
  | some child =>
    refine (column_ends .sql2 1 1 child.areaNo).bind ?_
    refine (fillArea_ends db child.areaNo blank).bind ((close_ends .sql3).bind ?_)
    refine (column_ends .sql2 2 1 (getInt child.status)).bind ((fill_ends _ _).quiet ?_)
    refine (column_ends .sql2 3 1 child.createTime).bind (dereference_fill _ fun time found => ?_)
    simp only [Option.bind_some, Option.map_some, Option.getD_some, found]

theorem fillDevice_ends (db : Mysql) (mac : String) {bean : UserInfo}
    (blank : bean.activateTime = none) :
    EndsWith (Returns throws syn) (deviceLookups db mac) (JsCmcc.fillDevice throws db mac)
      ⟨syn, some bean⟩ () ⟨syn, some (bean.setActivateTime (db.device mac).join)⟩ := by
  refine (select_ends .sql3 (db.device mac)).bind ?_
  cases db.device mac with
  | none =>
    cases bean
    cases blank
    exact EndsWith.pure ()
  | some devCtime =>
    refine (column_ends .sql3 1 1 devCtime).bind (dereference_fill devCtime fun time found => ?_)
    subst found
    rfl

/-- The columns filled from the order's row and its city. -/
def withOrder (db : Mysql) (userId : Option String) (bean : UserInfo) : UserInfo :=
  let order := userId.bind db.orderRelation
  (((bean.setAccountTime (order.bind (·.createTime))).setCityName
    (((order.bind (·.userCity)).bind db.city).join.map cityOf)).setStatus
    (((order.bind (·.opType)).map JsCmccCp.statusOf).getD 0)).setUserType
    (((order.bind (·.idType)).map JsCmccCp.userTypeOf).getD 0)

theorem fillOrder_ends (db : Mysql) (userId : Option String) {bean : UserInfo}
    (blank : bean.cityName = none ∧ bean.accountTime = none)
    (unset : bean.status = 0 ∧ bean.userType = 0) :
    EndsWith (Returns throws syn) (orderLookups db userId) (JsCmccCp.fillOrder throws db userId)
      ⟨syn, some bean⟩ () ⟨syn, some (withOrder db userId bean)⟩ := by
  unfold withOrder
  refine (select_ends .sql2 (userId.bind db.orderRelation)).bind ?_
  cases userId.bind db.orderRelation with
  | none =>
    cases bean
    obtain ⟨rfl, rfl⟩ := blank
    obtain ⟨rfl, rfl⟩ := unset
    exact EndsWith.pure ()
  | some order =>
    simp only [List.cons_append, List.append_assoc]
    refine (column_ends .sql2 1 1 order.userCity).bind ?_
    refine (column_ends .sql2 2 1 order.createTime).bind (dereference_ends _ fun time opened => ?_)
    refine (fill_ends _ bean).quiet ?_
    refine (fillCity_ends db .sql3 order.userCity (by exact blank.1)).bind ?_
    refine (close_ends .sql3).bind ?_
    refine (column_ends .sql2 3 1 order.opType).bind (dereference_ends _ fun opType typed => ?_)
    refine (fill_ends _ _).quiet ?_
    refine (column_ends .sql2 4 1 order.idType).bind (dereference_fill _ fun idType found => ?_)
    simp only [Option.bind_some, opened, typed, found, Option.map_some, Option.getD_some]

/-- What `reconnect` does when `isClosed` returns. -/
def connected (throws : Call → Bool) (syn : SynData) : SynData :=
  if syn.connection = .opened then syn else initConnection throws syn

theorem reconnect_ends {start : SynData}
    (isClosed : start.connection = .null ∨ throws .isClosed = false) :
    EndsWith (Returns throws (connected throws start)) [] (reconnect throws) ⟨start, none⟩ ()
      ⟨connected throws start, none⟩ where
  ends _ := by
    obtain ⟨connection, prepared⟩ := start
    cases connection with
    | null => rfl
    | closed => simp_all [reconnect, connectionLost, call, connected]
    | opened => simp_all [reconnect, connectionLost, call, connected]
  throws _ member := absurd member List.not_mem_nil

theorem reconnect_throws {start : SynData} (known : start.connection ≠ .null)
    (isClosed : throws .isClosed = true) : Throws (reconnect throws) ⟨start, none⟩ := by
  obtain ⟨connection, prepared⟩ := start
  refine ⟨(), ⟨⟨connection, prepared⟩, none⟩, ?_⟩
  cases connection with
  | null => exact absurd rfl known
  | closed => simp_all [reconnect, connectionLost, call]
  | opened => simp_all [reconnect, connectionLost, call]

section
variable {start : SynData} (db : Mysql) (partner mac : String)

theorem ahCmcc_leaves (isClosed : start.connection = .null ∨ throws .isClosed = false) :
    Leaves (Returns throws (connected throws start)) (ahLookups db mac)
      (AhCmcc.getFromMysql throws db partner mac) ⟨start, none⟩
      ⟨connected throws start, (db.contUserMac mac).map (ahRecord db partner mac)⟩ := by
  refine .quiet (reconnect_ends isClosed) (.after (select_ends .sql1 (db.contUserMac mac)) ?_)
  cases db.contUserMac mac with
  | none => exact (EndsWith.pure ()).leaves
  | some row =>
    simp only [List.cons_append]
    refine .quiet (create_ends partner "安徽省" mac) ?_
    refine .after (column_ends .sql1 1 1 row.mainAccountId) (.quiet (fill_ends _ _) ?_)
    refine .after (column_ends .sql1 2 1 row.childAccountId) (.quiet (fill_ends _ _) ?_)
    refine .after (column_ends .sql1 2 2 row.childAccountId) (.quiet (fill_ends _ _) ?_)
    refine .after (column_ends .sql1 3 1 (getInt row.userType)) (.quiet (fill_ends _ _) ?_)
    refine .after (column_ends .sql1 4 1 row.createTime) (dereference_leaves _ fun time found => ?_)
    refine .quiet (fill_ends _ _) (.after (close_ends .sql1) ?_)
    refine EndsWith.finally (a := ()) ?_ (call_leaves (.close .sql2))
    obtain ⟨_, childAccountId, _, _⟩ := row
    cases found
    exact fillChild_ends db childAccountId ⟨rfl, rfl⟩ ⟨rfl, rfl⟩

theorem jsCmcc_leaves (isClosed : start.connection = .null ∨ throws .isClosed = false) :
    Leaves (Returns throws (connected throws start)) (jsLookups db mac)
      (JsCmcc.getFromMysql throws db partner mac) ⟨start, none⟩
      ⟨connected throws start, (db.hdcOrderingRelationInfo mac).map (jsRecord db partner mac)⟩ := by
  refine .quiet (reconnect_ends isClosed)
    (.after (select_ends .sql1 (db.hdcOrderingRelationInfo mac)) ?_)
  cases db.hdcOrderingRelationInfo mac with
  | none => exact (EndsWith.pure ()).leaves
  | some row =>
    simp only [List.cons_append, List.append_assoc]
    refine .quiet (create_ends partner "江苏省" mac) ?_
    refine .after (column_ends .sql1 1 1 row.phoneNumber) (.quiet (fill_ends _ _) ?_)
    refine .after (column_ends .sql1 1 2 row.phoneNumber) (.quiet (fill_ends _ _) ?_)
    refine .after (column_ends .sql1 1 3 row.phoneNumber) (.quiet (fill_ends _ _) ?_)
    refine .after (column_ends .sql1 2 1 row.userCity) ?_
    refine .after (fillCity_ends db .sql2 row.userCity rfl) (.after (close_ends .sql2) ?_)
    refine .after (column_ends .sql1 3 1 (getInt row.userType)) (.quiet (fill_ends _ _) ?_)
    refine .after (column_ends .sql1 4 1 (getInt row.status)) ?_
    refine .after (column_ends .sql1 5 1 (getInt row.firstLogin)) (.quiet (fill_ends _ _) ?_)
    refine .after (column_ends .sql1 6 1 row.createDate) (dereference_leaves _ fun time found => ?_)
    refine .quiet (fill_ends _ _) (.after (close_ends .sql1) ?_)
    refine EndsWith.finally (a := ()) ?_ (call_leaves (.close .sql3))
    obtain ⟨_, _, _, _, _, _⟩ := row
    cases found
    exact fillDevice_ends db mac rfl

theorem jsCmccCp_leaves (isClosed : start.connection = .null ∨ throws .isClosed = false) :
    Leaves (Returns throws (connected throws start)) (cpLookups db mac)
      (JsCmccCp.getFromMysql throws db partner mac) ⟨start, none⟩
      ⟨connected throws start, (db.activeSuccess mac).map (cpRecord db partner mac)⟩ := by
  refine .quiet (reconnect_ends isClosed) (.after (select_ends .sql1 (db.activeSuccess mac)) ?_)
  cases db.activeSuccess mac with
  | none => exact (EndsWith.pure ()).leaves
  | some row =>
    simp only [List.cons_append]
    refine .quiet (create_ends partner "江苏省" mac) ?_
    refine .after (column_ends .sql1 1 1 row.userId) (.quiet (fill_ends _ _) ?_)
    refine .after (column_ends .sql1 1 2 row.userId) (.quiet (fill_ends _ _) ?_)
    refine .after (column_ends .sql1 1 3 row.userId) (.quiet (fill_ends _ _) ?_)
    refine .after (column_ends .sql1 2 1 row.createTime) (dereference_leaves _ fun time found => ?_)
    refine .quiet (fill_ends _ _) (.after (close_ends .sql1) ?_)
    refine EndsWith.finally (a := ()) ?_ (call_leaves (.close .sql2))
    obtain ⟨userId, _⟩ := row
    cases found
    exact fillOrder_ends db userId ⟨rfl, rfl⟩ ⟨rfl, rfl⟩

end

end

/-! ## The updates of a consumer -/

section
variable (partner : Partner) (s : State) (poll : Poll)

/-- The first query was answered. -/
structure FirstQueryComplete : Prop where
  isClosed : (s.syn.drop poll.dropped).connection = .null ∨ poll.throws .isClosed = false
  returned : ∀ c ∈ selected .sql1,
    Returns poll.throws (connected poll.throws (s.syn.drop poll.dropped)) c

/-- All lookups for the polled mac were answered, and no null was dereferenced. -/
structure LookupsComplete : Prop where
  isClosed : (s.syn.drop poll.dropped).connection = .null ∨ poll.throws .isClosed = false
  returned : ∀ c ∈ lookups partner poll.db poll.mac,
    Returns poll.throws (connected poll.throws (s.syn.drop poll.dropped)) c

/-- The consumer updates `user_info` with the record of completed lookups only, and
`not_found_from_mysql` only when the first query was answered with no row. -/
structure Faithful : Prop where
  updated : ∀ uif, s.update partner poll = some (.userInfo uif) →
    LookupsComplete partner s poll ∧ record partner poll.db poll.mac = some uif
  absent : s.update partner poll = some .notFound →
    FirstQueryComplete s poll ∧ record partner poll.db poll.mac = none

end

section
variable {partner : Partner} {s next : State} {poll : Poll}

/-- Without a first row there is only the first query. -/
theorem lookups_of_absent {db : Mysql} {mac : String} (absent : record partner db mac = none) :
    lookups partner db mac = selected .sql1 := by
  cases partner with
  | ahCmcc => rw [lookups, ahLookups, Option.map_eq_none_iff.mp absent, List.append_nil]
  | jsCmcc => rw [lookups, jsLookups, Option.map_eq_none_iff.mp absent, List.append_nil]
  | jsCmccCp => rw [lookups, cpLookups, Option.map_eq_none_iff.mp absent, List.append_nil]

theorem caught_eq (body : Body Unit) (syn : SynData) :
    caught body syn = finalState (body.run ⟨syn, none⟩) := by
  rw [caught]
  cases body.run ⟨syn, none⟩ <;> rfl

/-- Completed lookups end with their record, in every implementation. -/
theorem getFromMysql_leaves {start : SynData}
    (isClosed : start.connection = .null ∨ poll.throws .isClosed = false) :
    Leaves (Returns poll.throws (connected poll.throws start)) (lookups partner poll.db poll.mac)
      (partner.getFromMysql poll.throws poll.db poll.mac) ⟨start, none⟩
      ⟨connected poll.throws start, record partner poll.db poll.mac⟩ := by
  cases partner with
  | ahCmcc => exact ahCmcc_leaves poll.db _ poll.mac isClosed
  | jsCmcc => exact jsCmcc_leaves poll.db _ poll.mac isClosed
  | jsCmccCp => exact jsCmccCp_leaves poll.db _ poll.mac isClosed

theorem lookUp_of_complete (complete : LookupsComplete partner s poll) :
    (s.lookUp partner poll).uif = record partner poll.db poll.mac := by
  rw [State.lookUp, caught_eq]
  exact congrArg Frame.uif ((getFromMysql_leaves complete.isClosed).leaves complete.returned)

/-- The catch block of `getFromMysql` is passed by only when the lookups are complete. -/
theorem complete_of_returned {frame : Frame}
    (returned : (partner.getFromMysql poll.throws poll.db poll.mac).run
      ⟨s.syn.drop poll.dropped, none⟩ = .ok () frame) :
    LookupsComplete partner s poll := by
  have isClosed : (s.syn.drop poll.dropped).connection = .null ∨ poll.throws .isClosed = false := by
    by_contra lost
    rw [not_or, Bool.not_eq_false] at lost
    have stopped : Throws (partner.getFromMysql poll.throws poll.db poll.mac)
        ⟨s.syn.drop poll.dropped, none⟩ := by
      cases partner with
      | ahCmcc => exact (reconnect_throws lost.1 lost.2).bind
      | jsCmcc => exact (reconnect_throws lost.1 lost.2).bind
      | jsCmccCp => exact (reconnect_throws lost.1 lost.2).bind
    obtain ⟨e, last, thrown⟩ := stopped
    cases thrown.symm.trans returned
  exact ⟨isClosed, (getFromMysql_leaves isClosed).all_returned returned⟩

theorem update_of_found {uif : UserInfo} (accepted : poll.accepted = true)
    (found : (s.lookUp partner poll).uif = some uif) :
    s.update partner poll = some (.userInfo uif) := by
  rw [State.update, if_pos accepted, found]

theorem update_of_null (accepted : poll.accepted = true)
    (null : (s.lookUp partner poll).uif = none) : s.update partner poll = some .notFound := by
  rw [State.update, if_pos accepted, null]

theorem update_of_refused (refused : poll.accepted = false) : s.update partner poll = none := by
  rw [State.update, refused]
  rfl

/-- A consumer always updates one of the tables, unless Cassandra refuses. -/
theorem faithful_iff :
    Faithful partner s poll ↔ LookupsComplete partner s poll ∨ poll.accepted = false := by
  constructor
  · intro faithful
    cases accepted : poll.accepted with
    | false => exact .inr rfl
    | true =>
      left
      cases found : (s.lookUp partner poll).uif with
      | some uif => exact (faithful.updated uif (update_of_found accepted found)).1
      | none =>
        obtain ⟨⟨isClosed, returned⟩, absent⟩ := faithful.absent (update_of_null accepted found)
        exact ⟨isClosed, lookups_of_absent absent ▸ returned⟩
  · rintro (complete | refused)
    · have result := lookUp_of_complete complete
      cases accepted : poll.accepted with
      | false => exact ⟨by simp [update_of_refused accepted], by simp [update_of_refused accepted]⟩
      | true =>
        cases found : record partner poll.db poll.mac with
        | some uif =>
          have update := update_of_found accepted (result.trans found)
          refine ⟨fun other same => ⟨complete, ?_⟩, fun same => ?_⟩
          · cases same.symm.trans update
            exact found
          · cases same.symm.trans update
        | none =>
          have update := update_of_null accepted (result.trans found)
          refine ⟨fun other same => ?_, fun _ => ⟨⟨complete.isClosed, ?_⟩, found⟩⟩
          · cases same.symm.trans update
          · exact lookups_of_absent found ▸ complete.returned
    · exact ⟨by simp [update_of_refused refused], by simp [update_of_refused refused]⟩

/-- A faithful consumer changes neither table after a failed lookup. -/
theorem Faithful.unchanged (faithful : Faithful partner s poll)
    (failed : ¬ LookupsComplete partner s poll) (taken : s.step partner poll = some next) :
    next.userInfo = s.userInfo ∧ next.notFound = s.notFound := by
  have refused := (faithful_iff.mp faithful).resolve_left failed
  rw [State.step, update_of_refused refused] at taken
  cases taken
  exact ⟨rfl, rfl⟩

end

/-- In every run of a consumer, over every content of MySQL and every pattern of
failures, each step is faithful exactly when its lookups are complete or Cassandra
refuses the update. -/
theorem mysql_sync_faithful_iff (partner : Partner) (s : State) (polls : List Poll) :
    AllSteps (State.step partner) (Faithful partner) s polls ↔
      AllSteps (State.step partner)
        (fun s poll => LookupsComplete partner s poll ∨ poll.accepted = false) s polls :=
  AllSteps.congr fun _ _ => faithful_iff

section
/-- A device whose area has no city name. -/
def uncited : Mysql where
  contUserMac _ := some ⟨some "13900000000", some "13900000001", some 1, some 1479427200000⟩
  contUserChild _ := some ⟨some "0551", some 1, some 1479427200000⟩
  contUserAreaInfo _ := some ⟨some "蜀山区", none⟩
  hdcOrderingRelationInfo _ := none
  city _ := none
  device _ := none
  activeSuccess _ := none
  orderRelation _ := none

def openSyn : SynData := ⟨.opened, fun _ => true⟩

/-- The columns of an activated device, with its city. -/
def activated : UserInfo :=
  { partner := "AH_CMCC", macAddr := "00226d0001f3", province := "安徽省"
    accountTime := some 1479427200000, status := 6, cityName := some "合肥" }

def uncitedPoll : Poll := ⟨"00226d0001f3", uncited, fun _ => false, false, true⟩

/-- The null city ends the lookups before status and account time are read, and the
half-filled record overwrites those columns with 0 and null. -/
theorem null_city_overwrites :
    (State.step .ahCmcc ⟨openSyn, fun _ => some activated, fun _ => false⟩ uncitedPoll).map
      (fun next => (next.userInfo "00226d0001f3").map fun uif =>
        (uif.status, uif.accountTime, uif.cityName)) = some (some (0, none, none)) ∧
    ¬ ∀ (partner : Partner) (s : State) (polls : List Poll),
      AllSteps (State.step partner) (Faithful partner) s polls := by
  constructor
  · rfl
  · intro faithful
    have step := faithful .ahCmcc ⟨openSyn, fun _ => some activated, fun _ => false⟩ [uncitedPoll]
    have complete := (faithful_iff.mp (step _ rfl).1).resolve_right (by decide)
    exact complete.returned .nullPointer (by decide)

end

end GitvTime.Guarantees.UserInfo.MysqlSync
