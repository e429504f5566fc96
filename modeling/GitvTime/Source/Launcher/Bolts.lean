import GitvTime.Source.Launcher.LogBean

/-!
# The launcher's clean and partition bolts

`FilterData_Bolt` cleans the lines of the five actions and expands the APK of
102 and 103; Kafka carries what it emits to `PartitionBolt` of the other topology
on the topic of the action. The json and date parsers are parameters.
-/
namespace GitvTime.Source.Launcher
open GitvTime.Source.StringHandle

/-- What a bolt does with a tuple. -/
inductive Outcome (α : Type) where
  | emitted (values : α)
  | acked
  | failed
  | thrown
  deriving DecidableEq, Repr

def isHex (c : Char) : Bool :=
  (('A' ≤ c && c ≤ 'F') || ('a' ≤ c && c ≤ 'f')) || ('0' ≤ c && c ≤ '9')

/-- `MC.matches("([A-Fa-f0-9]{2}:){5}[A-Fa-f0-9]{2}")`. -/
def matchesMac : List Char → Nat → Bool
  | [a, b], 0 => isHex a && isHex b
  | a :: b :: ':' :: rest, n + 1 => isHex a && isHex b && matchesMac rest n
  | _, _ => false

/-- `fieldsFilter`, `none` when `MC` is null. -/
def LogBean.fieldsFilter (log : LogBean) : Option Bool :=
  log.mc.map fun mc => matchesMac mc.toList 5 && !isBlank log.p

namespace FilterDataBolt

variable (jsonToBean : String → Option ApkBean)

/-- Actions 100, 101 and 104 pass on the line itself. -/
def forward (action content : String) (decoded : Bool × LogBean) :
    Outcome (String × String) :=
  if decoded.1 = true then
    match decoded.2.fieldsFilter with
    | some true => .emitted (action, content)
    | some false => .acked
    | none => .failed
  else .acked

/-- Actions 102 and 103 expand the APK with `toString(String)`. -/
def expand (action : String) (decoded : Bool × LogBean) (apk : Option String)
    (toStringApk : String → String) : Outcome (String × String) :=
  if decoded.1 = true then
    match decoded.2.fieldsFilter, apk with
    | some true, some apk =>
      match jsonToBean (String.ofList (apk.toList.map fun c => if c = '\x27' then '\x22' else c)) with
      | some apkBean => .emitted (action, toStringApk apkBean.toString)
      | none => .acked
    | some false, _ => .acked
    | _, _ => .failed
  else .acked

/-- `execute`; an exception fails the tuple. -/
def execute (action content : String) : Outcome (String × String) :=
  if action = "100" then
    let log0 := LogBean0.stringToBeanInit {} content
    forward action content (log0.1, log0.2.toLogBean)
  else if action = "101" then
    let log1 := LogBean1.stringToBeanInit {} content
    forward action content (log1.1, log1.2.toLogBean)
  else if action = "104" then
    let log4 := LogBean4.stringToBeanInit {} content
    forward action content (log4.1, log4.2.toLogBean)
  else if action = "102" then
    let log2 := LogBean2.stringToBeanInit {} content
    expand jsonToBean action (log2.1, log2.2.toLogBean) log2.2.apk log2.2.toStringApk
  else if action = "103" then
    let log3 := LogBean3.stringToBeanInit {} content
    expand jsonToBean action (log3.1, log3.2.toLogBean) log3.2.apk log3.2.toStringApk
  else .acked

variable (content : String)

theorem execute_100 :
    execute jsonToBean "100" content =
      forward "100" content ((LogBean0.stringToBeanInit {} content).1,
        (LogBean0.stringToBeanInit {} content).2.toLogBean) := rfl

theorem execute_101 :
    execute jsonToBean "101" content =
      forward "101" content ((LogBean1.stringToBeanInit {} content).1,
        (LogBean1.stringToBeanInit {} content).2.toLogBean) := rfl

theorem execute_102 :
    execute jsonToBean "102" content =
      expand jsonToBean "102" ((LogBean2.stringToBeanInit {} content).1,
        (LogBean2.stringToBeanInit {} content).2.toLogBean)
        (LogBean2.stringToBeanInit {} content).2.apk
        (LogBean2.stringToBeanInit {} content).2.toStringApk := rfl

theorem execute_103 :
    execute jsonToBean "103" content =
      expand jsonToBean "103" ((LogBean3.stringToBeanInit {} content).1,
        (LogBean3.stringToBeanInit {} content).2.toLogBean)
        (LogBean3.stringToBeanInit {} content).2.apk
        (LogBean3.stringToBeanInit {} content).2.toStringApk := rfl

theorem execute_104 :
    execute jsonToBean "104" content =
      forward "104" content ((LogBean4.stringToBeanInit {} content).1,
        (LogBean4.stringToBeanInit {} content).2.toLogBean) := rfl

end FilterDataBolt

namespace PartitionBolt

variable (parseTimestamp : String → Option Int)

def topicPrefix : String := "launcher-log-"

/-- What is emitted: `Action`, `LogDate`, `TS`, `Content`. -/
structure Values where
  action : String
  logDate : Option String
  ts : Int
  content : String
  deriving DecidableEq, Repr

/-- The branch of one action; a timestamp that does not parse throws. -/
def partition (action data : String) (decoded : Bool × LogBean) : Outcome Values :=
  if decoded.1 = true then
    match decoded.2.timestamp.bind parseTimestamp with
    | some ts => .emitted ⟨action, decoded.2.recordDay, ts, data⟩
    | none => .thrown
  else .acked

def execute (topic data : String) : Outcome Values :=
  let action := String.ofList (topic.toList.drop topicPrefix.length)
  if action = "100" then
    let log0 := LogBean0.stringToBeanInit {} data
    partition parseTimestamp action data (log0.1, log0.2.toLogBean)
  else if action = "101" then
    let log1 := LogBean1.stringToBeanInit {} data
    partition parseTimestamp action data (log1.1, log1.2.toLogBean)
  else if action = "102" then
    let log2 := LogBean2.string4ConApkToBeanInit {} data
    partition parseTimestamp action data (log2.1, log2.2.toLogBean)
  else if action = "103" then
    let log3 := LogBean3.string4ConApkToBeanInit {} data
    partition parseTimestamp action data (log3.1, log3.2.toLogBean)
  else if action = "104" then
    let log4 := LogBean4.stringToBeanInit {} data
    partition parseTimestamp action data (log4.1, log4.2.toLogBean)
  else .emitted ⟨action, none, 0, data⟩

end PartitionBolt

end GitvTime.Source.Launcher
