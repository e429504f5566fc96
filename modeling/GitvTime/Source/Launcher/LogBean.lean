import GitvTime.Source.StringHandle

/-!
# The log beans of the launcher and their lines

A bean prints its fields as columns separated by `|` and reads them back by
position. Actions 102 and 103 carry an `APK` json; after it has been parsed the
bean prints the columns of the `ApkBean` in the place of the json
(`toString(String)`) and reads such a line with `string4ConApkToBeanInit`.
-/
namespace GitvTime.Source.Launcher
open GitvTime.Source.StringHandle

/-- What `StringBuilder.append` writes for a field; `none` is null. -/
def print (field : Option String) : String := field.getD "null"

/-- The columns with `LOGBEAN_SEPARATOR` between them. -/
def appendColumns : List (Option String) → String
  | [] => ""
  | [field] => print field
  | field :: rest => strJoin₂ (print field) (appendColumns rest)

/-- The fields that all beans share. -/
structure LogBean where
  action : Option String := none
  mc : Option String := none
  p : Option String := none
  v : Option String := none
  uid : Option String := none
  stbid : Option String := none
  ts : Option String := none
  os : Option String := none
  hm : Option String := none
  ug : Option String := none
  ip : Option String := none
  timestamp : Option String := none
  recordDay : Option String := none
  deriving DecidableEq, Repr

/-- The first nine columns of every line. -/
def LogBean.first (log : LogBean) : List (Option String) :=
  [log.action, log.p, log.mc, log.v, log.uid, log.stbid, log.ts, log.os, log.hm]

/-- The last three columns of every line. -/
def LogBean.last (log : LogBean) : List (Option String) := [log.ip, log.timestamp, log.recordDay]

/-! ### Action 100 -/

structure LogBean0 extends LogBean where
  lic : Option String := none
  deriving DecidableEq, Repr

namespace LogBean0

def columns (log : LogBean0) : List (Option String) := log.first ++ [log.ug, log.lic] ++ log.last

def toString (log : LogBean0) : String := appendColumns log.columns

def init (_ : LogBean0) (ls : List String) : LogBean0 where
  action := ls[0]?
  p := ls[1]?
  mc := ls[2]?
  v := ls[3]?
  uid := ls[4]?
  stbid := ls[5]?
  ts := ls[6]?
  os := ls[7]?
  hm := ls[8]?
  ug := ls[9]?
  lic := ls[10]?
  ip := ls[11]?
  timestamp := ls[12]?
  recordDay := ls[13]?

def stringToBeanInit (log : LogBean0) (content : String) : Bool × LogBean0 :=
  let contents := strSplitTrim content
  if contents.length = 14 then (true, log.init contents) else (false, log)

end LogBean0

/-! ### Action 101 -/

structure LogBean1 extends LogBean where
  ov : Option String := none
  deriving DecidableEq, Repr

namespace LogBean1

def columns (log : LogBean1) : List (Option String) := log.first ++ [log.ov, log.ug] ++ log.last

def toString (log : LogBean1) : String := appendColumns log.columns

def init (_ : LogBean1) (ls : List String) : LogBean1 where
  action := ls[0]?
  p := ls[1]?
  mc := ls[2]?
  v := ls[3]?
  uid := ls[4]?
  stbid := ls[5]?
  ts := ls[6]?
  os := ls[7]?
  hm := ls[8]?
  ov := ls[9]?
  ug := ls[10]?
  ip := ls[11]?
  timestamp := ls[12]?
  recordDay := ls[13]?

def stringToBeanInit (log : LogBean1) (content : String) : Bool × LogBean1 :=
  let contents := strSplitTrim content
  if contents.length = 14 then (true, log.init contents) else (false, log)

end LogBean1

/-! ### Action 102 -/

structure LogBean2 extends LogBean where
  apk : Option String := none
  sid : Option String := none
  ar : Option String := none
  x : Option String := none
  y : Option String := none
  tnum : Option String := none
  ctp : Option String := none
  deriving DecidableEq, Repr

namespace LogBean2

def afterApk (log : LogBean2) : List (Option String) :=
  [log.sid, log.ar, log.x, log.y, log.tnum, log.ug, log.ctp] ++ log.last

/-- The columns with `apk` in the tenth place. -/
def columnsWith (log : LogBean2) (apk : Option String) : List (Option String) :=
  log.first ++ [apk] ++ log.afterApk

/-- `toString()`. -/
def toString (log : LogBean2) : String := appendColumns (log.columnsWith log.apk)

/-- `toString(String APK_Trans)`. -/
def toStringApk (log : LogBean2) (apkTrans : String) : String :=
  appendColumns (log.columnsWith (some apkTrans))

def init (_ : LogBean2) (ls : List String) : LogBean2 where
  action := ls[0]?
  p := ls[1]?
  mc := ls[2]?
  v := ls[3]?
  uid := ls[4]?
  stbid := ls[5]?
  ts := ls[6]?
  os := ls[7]?
  hm := ls[8]?
  apk := ls[9]?
  sid := ls[10]?
  ar := ls[11]?
  x := ls[12]?
  y := ls[13]?
  tnum := ls[14]?
  ug := ls[15]?
  ctp := ls[16]?
  ip := ls[17]?
  timestamp := ls[18]?
  recordDay := ls[19]?

def stringToBeanInit (log : LogBean2) (content : String) : Bool × LogBean2 :=
  let contents := strSplitTrim content
  if contents.length = 20 then (true, log.init contents) else (false, log)

/-- Leaves `APK` as it is. -/
def init4ConApk (log : LogBean2) (ls : List String) : LogBean2 where
  action := ls[0]?
  p := ls[1]?
  mc := ls[2]?
  v := ls[3]?
  uid := ls[4]?
  stbid := ls[5]?
  ts := ls[6]?
  os := ls[7]?
  hm := ls[8]?
  apk := log.apk
  sid := ls[27]?
  ar := ls[28]?
  x := ls[29]?
  y := ls[30]?
  tnum := ls[31]?
  ug := ls[32]?
  ctp := ls[33]?
  ip := ls[34]?
  timestamp := ls[35]?
  recordDay := ls[36]?

def string4ConApkToBeanInit (log : LogBean2) (content : String) : Bool × LogBean2 :=
  let contents := strSplitTrim content
  if contents.length = 37 then (true, log.init4ConApk contents) else (false, log)

end LogBean2

/-! ### Action 103 -/

structure LogBean3 extends LogBean where
  apk : Option String := none
  tp : Option String := none
  re : Option String := none
  deriving DecidableEq, Repr

namespace LogBean3

def afterApk (log : LogBean3) : List (Option String) :=
  [log.tp, log.re, log.ug] ++ log.last

/-- The columns with `apk` in the tenth place. -/
def columnsWith (log : LogBean3) (apk : Option String) : List (Option String) :=
  log.first ++ [apk] ++ log.afterApk

/-- `toString()`. -/
def toString (log : LogBean3) : String := appendColumns (log.columnsWith log.apk)

/-- `toString(String APK_Trans)`. -/
def toStringApk (log : LogBean3) (apkTrans : String) : String :=
  appendColumns (log.columnsWith (some apkTrans))

def init (_ : LogBean3) (ls : List String) : LogBean3 where
  action := ls[0]?
  p := ls[1]?
  mc := ls[2]?
  v := ls[3]?
  uid := ls[4]?
  stbid := ls[5]?
  ts := ls[6]?
  os := ls[7]?
  hm := ls[8]?
  apk := ls[9]?
  tp := ls[10]?
  re := ls[11]?
  ug := ls[12]?
  ip := ls[13]?
  timestamp := ls[14]?
  recordDay := ls[15]?

def stringToBeanInit (log : LogBean3) (content : String) : Bool × LogBean3 :=
  let contents := strSplitTrim content
  if contents.length = 16 then (true, log.init contents) else (false, log)

/-- Leaves `APK` as it is. -/
def init4ConApk (log : LogBean3) (ls : List String) : LogBean3 where
  action := ls[0]?
  p := ls[1]?
  mc := ls[2]?
  v := ls[3]?
  uid := ls[4]?
  stbid := ls[5]?
  ts := ls[6]?
  os := ls[7]?
  hm := ls[8]?
  apk := log.apk
  tp := ls[27]?
  re := ls[28]?
  ug := ls[29]?
  ip := ls[30]?
  timestamp := ls[31]?
  recordDay := ls[32]?

def string4ConApkToBeanInit (log : LogBean3) (content : String) : Bool × LogBean3 :=
  let contents := strSplitTrim content
  if contents.length = 33 then (true, log.init4ConApk contents) else (false, log)

end LogBean3

/-! ### Action 104 -/

structure LogBean4 extends LogBean where
  tnum : Option String := none
  otn : Option String := none
  deriving DecidableEq, Repr

namespace LogBean4

def columns (log : LogBean4) : List (Option String) :=
  log.first ++ [log.tnum, log.otn, log.ug] ++ log.last

def toString (log : LogBean4) : String := appendColumns log.columns

def init (_ : LogBean4) (ls : List String) : LogBean4 where
  action := ls[0]?
  p := ls[1]?
  mc := ls[2]?
  v := ls[3]?
  uid := ls[4]?
  stbid := ls[5]?
  ts := ls[6]?
  os := ls[7]?
  hm := ls[8]?
  tnum := ls[9]?
  otn := ls[10]?
  ug := ls[11]?
  ip := ls[12]?
  timestamp := ls[13]?
  recordDay := ls[14]?

def stringToBeanInit (log : LogBean4) (content : String) : Bool × LogBean4 :=
  let contents := strSplitTrim content
  if contents.length = 15 then (true, log.init contents) else (false, log)

end LogBean4

/-! ### The parsed APK -/

/-- Null where the json has no such key. -/
structure ApkBean where
  mAction : Option String := none
  mPackage : Option String := none
  cls : Option String := none
  pkg : Option String := none
  albumId : Option String := none
  chnId : Option String := none
  cpId : Option String := none
  type : Option String := none
  cpContentId : Option String := none
  topicLayout : Option String := none
  topicPicBg : Option String := none
  chnName : Option String := none
  currTypingCode : Option String := none
  currTypingName : Option String := none
  typings : Option String := none
  num : Option String := none
  tvId : Option String := none
  tagId : Option String := none
  pageName : Option String := none
  screenInfo : Option String := none
  picUrl : Option String := none
  deriving DecidableEq, Repr

/-- `initType` and `initData` as `toString` sets them. -/
def ApkBean.initActivity (apk : ApkBean) : String × Option String :=
  match apk.mAction with
  | some mAction => ("implicit", some mAction)
  | none =>
    match apk.cls with
    | some cls => ("explicit", some cls)
    | none => ("explicit", apk.mPackage)

/-- The nineteen columns. -/
def ApkBean.columns (apk : ApkBean) : List (Option String) :=
  [some apk.initActivity.1, apk.initActivity.2, apk.albumId, apk.chnId, apk.cpId, apk.type,
    apk.cpContentId, apk.topicLayout, apk.topicPicBg, apk.chnName, apk.currTypingCode,
    apk.currTypingName, apk.typings, apk.num, apk.tvId, apk.tagId, apk.pageName, apk.screenInfo,
    apk.picUrl]

def ApkBean.toString (apk : ApkBean) : String := appendColumns apk.columns

end GitvTime.Source.Launcher
