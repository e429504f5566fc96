import GitvTime.Source.Patterns

/-!
# The app versions of userinfo-app-version

`AppVersionIsChanged_Bolt` reads the stored version of an upgrade's app,
`AsyncBack.appVersion_read_async` emits the upgrade when it differs, and
`AppVersionUpdate_Bolt` writes the version and an entry of the update history. All
groupings are shuffles and all statements asynchronous, so the statements and
callbacks of the upgrades come in any order; Cassandra applies each statement at
once. The timestamp parser of Cassandra is a parameter, null on a text that is
none; texts have no quote in them.
-/
namespace GitvTime.Source.UserInfo.AppVersion
open GitvTime.Source.StringHandle GitvTime.Source.Patterns

def LIVOD : String := "LIVOD"
def V0_VOD : String := "V0_VOD"
def V1_VOD : String := "V1_VOD"
def CNM : String := "CNM"

/-- `livod_app_version`, `vod_app_version` and `cnm_app_version`, each with its
`update_history`. -/
inductive VersionColumn where
  | livod
  | vod
  | cnm
  deriving DecidableEq, Repr

/-- The `switch (type)` of both bolts. -/
def columnOf (type : String) : Option VersionColumn :=
  if type = LIVOD then some .livod
  else if type = V0_VOD then some .vod
  else if type = V1_VOD then some .vod
  else if type = CNM then some .cnm
  else none

/-- The tuple that `TopFilter_Bolt` emits. -/
structure Upgrade where
  enumtype : Option String
  partner : Option String
  mac : Option String
  appVersion : Option String
  updateRes : Option String
  logtime : Option String
  deriving DecidableEq, Repr

def Upgrade.isLegal (input : Upgrade) : Bool :=
  isLegalField [input.enumtype, input.partner, input.mac, input.appVersion, input.updateRes,
    input.logtime]

/-- A version column of a row of `user_info`. -/
structure Key where
  partner : String
  mac : String
  column : VersionColumn
  deriving DecidableEq, Repr

/-- What the statements of a tuple read and write. -/
def Upgrade.key (input : Upgrade) : Option Key :=
  match input.partner, input.mac, input.enumtype.bind columnOf with
  | some partner, some mac, some column => some ⟨partner, mac, column⟩
  | _, _, _ => none

/-- The version is null where there is no row: `apply` makes `""` of that, which is
as blank as null. -/
structure Cell where
  appVersion : Option String
  updateHistory : String → Option Int

/-- `onSuccess` of the read: whether the tuple is emitted. -/
def isChanged (input : Upgrade) (appVersion : Option String) : Bool :=
  isBlank appVersion || input.appVersion != appVersion

/-- `UPDATE user_info SET …_app_version='%s', …_update_history = …_update_history
+ { '%s' : '%s'}`. -/
def Cell.update (cell : Cell) (appVersion : String) (logtime : Int) : Cell where
  appVersion := some appVersion
  updateHistory := Function.update cell.updateHistory appVersion (some logtime)

/-- Where a tuple stands. -/
inductive Stage where
  | received
  /-- the version was read, `onSuccess` has not run -/
  | read (appVersion : Option String)
  /-- on its way to `AppVersionUpdate_Bolt` -/
  | emitted
  | finished
  deriving DecidableEq, Repr

structure Task where
  input : Upgrade
  stage : Stage

structure State where
  store : Key → Cell
  tasks : List Task

def State.init (store : Key → Cell) (inputs : List Upgrade) : State :=
  ⟨store, inputs.map fun input => ⟨input, .received⟩⟩

/-- A statement or a callback of the tuple with this index. -/
inductive Action where
  | isChanged (index : Nat)
  | onSuccess (index : Nat)
  | update (index : Nat)
  deriving DecidableEq, Repr

/-- `AppVersionIsChanged_Bolt.execute` with its read. -/
def Upgrade.execute (input : Upgrade) (store : Key → Cell) : Stage :=
  if input.isLegal = true then
    if input.updateRes = some "0" then
      match input.key with
      | some key => .read (store key).appVersion
      -- the default case answers nothing, and the spout replays the tuple
      | none => .received
    else .finished
  else .finished

variable (parseTime : String → Option Int)

/-- What the update statement of a tuple writes, `none` when Cassandra refuses it. -/
def Upgrade.write (input : Upgrade) : Option (Key × String × Int) :=
  match input.key, input.appVersion, input.logtime.bind parseTime with
  | some key, some appVersion, some logtime => some (key, appVersion, logtime)
  | _, _, _ => none

def State.step (s : State) : Action → Option State
  | .isChanged index =>
    match s.tasks[index]? with
    | some ⟨input, .received⟩ =>
      some ⟨s.store, s.tasks.set index ⟨input, input.execute s.store⟩⟩
    | _ => none
  | .onSuccess index =>
    match s.tasks[index]? with
    | some ⟨input, .read appVersion⟩ =>
      let next := if isChanged input appVersion then .emitted else .finished
      some ⟨s.store, s.tasks.set index ⟨input, next⟩⟩
    | _ => none
  | .update index =>
    match s.tasks[index]? with
    | some ⟨input, .emitted⟩ =>
      match input.write parseTime with
      | some (key, appVersion, logtime) =>
        some ⟨Function.update s.store key ((s.store key).update appVersion logtime),
          s.tasks.set index ⟨input, .finished⟩⟩
      -- the tuple is failed, and the spout replays it
      | none => some ⟨s.store, s.tasks.set index ⟨input, .received⟩⟩
    | _ => none

/-- All tuples are processed. -/
def State.Finished (s : State) : Prop := ∀ task ∈ s.tasks, task.stage = .finished

end GitvTime.Source.UserInfo.AppVersion
