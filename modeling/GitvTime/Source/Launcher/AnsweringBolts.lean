import GitvTime.Source.Launcher.UrlDecode
import GitvTime.Source.StormBolt

/-!
# How the launcher's bolts answer their tuples

`execute` of `FilterData_Bolt`, `URLDecode_Bolt` and `PartitionBolt` with every
call of the collector and every exception. The fields may hold anything; the
parsers of the json, the query string and the time stamp are parameters. What
the bolts emit is what `FilterDataBolt.execute`, `urlDecode` and
`PartitionBolt.execute` say.
-/
namespace GitvTime.Source.Launcher
open GitvTime.Support GitvTime.Source.StringHandle GitvTime.Source.Patterns GitvTime.Source.StormBolt

namespace FilterDataBolt

variable (jsonToBean : String → Option ApkBean) (emits : Bool)

/-- The cases 100, 101 and 104 up to their break. -/
def forwardCase (action content : String) (decoded : Bool × LogBean) :
    Execution (String × String) Unit := do
  if decoded.1 = true then
    let passes ← Logged.ofOption decoded.2.fieldsFilter
    if passes = true then
      emit emits (action, content)

/-- The cases 102 and 103, with the `ack` after the switch. -/
def expandCase (action : String) (decoded : Bool × LogBean) (apk : Option String)
    (toStringApk : String → String) : Execution (String × String) Unit := do
  if decoded.1 = true then
    let passes ← Logged.ofOption decoded.2.fieldsFilter
    if passes = true then
      let apk ← Logged.ofOption apk
      let json := String.ofList (apk.toList.map fun c => if c = '\x27' then '\x22' else c)
      match jsonToBean json with
      | none =>
        ack
        return
      | some apkBean => emit emits (action, toStringApk apkBean.toString)
  ack

/-- The body of the try block. A null action makes the switch throw, a null
content the splitter. -/
def tryBody (actionField contentField : Field) : Execution (String × String) Unit := do
  let action ← getStringByField actionField
  let content ← getStringByField contentField
  let action ← Logged.ofOption action
  if action = "100" then
    let content ← Logged.ofOption content
    let log0 := LogBean0.stringToBeanInit {} content
    forwardCase emits action content (log0.1, log0.2.toLogBean)
    ack
  else if action = "101" then
    let content ← Logged.ofOption content
    let log1 := LogBean1.stringToBeanInit {} content
    forwardCase emits action content (log1.1, log1.2.toLogBean)
    ack
  else if action = "104" then
    let content ← Logged.ofOption content
    let log4 := LogBean4.stringToBeanInit {} content
    forwardCase emits action content (log4.1, log4.2.toLogBean)
    ack
  else if action = "102" then
    let content ← Logged.ofOption content
    let log2 := LogBean2.stringToBeanInit {} content
    expandCase jsonToBean emits action (log2.1, log2.2.toLogBean) log2.2.apk log2.2.toStringApk
  else if action = "103" then
    let content ← Logged.ofOption content
    let log3 := LogBean3.stringToBeanInit {} content
    expandCase jsonToBean emits action (log3.1, log3.2.toLogBean) log3.2.apk log3.2.toStringApk
  else
    ack

def executeCalls (actionField contentField : Field) : Execution (String × String) Unit :=
  Logged.tryCatch (tryBody jsonToBean emits actionField contentField) fail

end FilterDataBolt

namespace UrlDecodeBolt

variable (otherC : Char → Bool) (decodeTo : String → Option MultiMap) (emits : Bool)

/-- `FieldMapToBean.getLogBean`, which throws when `setTimestamp` does and returns
null for an action it does not know. -/
def getLogBeanCall (map : MultiMap) (ip timestamp : String) :
    Execution (String × String) (Option AnyLogBean) := do
  match map.getValue "A" with
  | some "100" | some "101" | some "102" | some "103" | some "104" =>
    let logBean ← Logged.ofOption (getLogBean otherC map ip timestamp)
    return some logBean
  | _ => return none

/-- The body of the try block. -/
def tryBody (ip time data : Option String) : Execution (String × String) Unit :=
  match ip, time, data with
  | some ip, some time, some data => do
    if isLegalField [some ip, some time, some data] then
      let multiMap ← Logged.ofOption (decodeTo (urlAnalyze data))
      let action := multiMap.getValue "A"
      if isBlank action = true then
        ack
        return
      match ← getLogBeanCall otherC multiMap ip time with
      | some logBean => emit emits (action.getD "", logBean.toString)
      | none => pure ()
      ack
    else
      ack
  | _, _, _ => ack

/-- The three fields are read before the try block. -/
def executeCalls (ipField timeField dataField : Field) : Execution (String × String) Unit := do
  let ip ← getStringByField ipField
  let time ← getStringByField timeField
  let data ← getStringByField dataField
  Logged.tryCatch (tryBody otherC decodeTo emits ip time data) ack

end UrlDecodeBolt

namespace PartitionBolt

variable (parseTimestamp : String → Option Int) (emits : Bool)

/-- `s.substring(n, s.length())`, counted in UTF-16 units, or `none` when it throws.
Of a surrogate pair that is cut an unpaired half remains. -/
def substringFrom : Nat → List Char → Option (List Char)
  | 0, chars => some chars
  | _ + 1, [] => none
  | n + 1, c :: rest =>
    if c.toNat < 0x10000 then substringFrom n rest
    else
      match n with
      | 0 => some ('\uFFFD' :: rest)
      | n + 1 => substringFrom n rest

/-- The bean that the switch fills for an action, and whether it accepts the line. -/
def decoder (action : String) : Option (String → Bool × LogBean) :=
  if action = "100" then some fun data =>
    let log0 := LogBean0.stringToBeanInit {} data
    (log0.1, log0.2.toLogBean)
  else if action = "101" then some fun data =>
    let log1 := LogBean1.stringToBeanInit {} data
    (log1.1, log1.2.toLogBean)
  else if action = "102" then some fun data =>
    let log2 := LogBean2.string4ConApkToBeanInit {} data
    (log2.1, log2.2.toLogBean)
  else if action = "103" then some fun data =>
    let log3 := LogBean3.string4ConApkToBeanInit {} data
    (log3.1, log3.2.toLogBean)
  else if action = "104" then some fun data =>
    let log4 := LogBean4.stringToBeanInit {} data
    (log4.1, log4.2.toLogBean)
  else none

/-- What is emitted; the content of an action without a case may be null. -/
structure EmittedValues where
  action : String
  logDate : Option String
  ts : Int
  content : Option String
  deriving DecidableEq, Repr

/-- There is no try block, and no answer after the emission. -/
def executeCalls (topicField dataField : Field) : Execution EmittedValues Unit := do
  let topic ← getStringByField topicField
  let data ← getStringByField dataField
  let topic ← Logged.ofOption topic
  let chars ← Logged.ofOption (substringFrom topicPrefix.length topic.toList)
  let action := String.ofList chars
  match decoder action with
  | some decode =>
    let content ← Logged.ofOption data
    let decoded := decode content
    if decoded.1 = true then
      let ts ← Logged.ofOption (decoded.2.timestamp.bind parseTimestamp)
      emit emits ⟨action, decoded.2.recordDay, ts, data⟩
    else
      ack
      return
  | none => emit emits ⟨action, none, 0, data⟩

end PartitionBolt

end GitvTime.Source.Launcher
