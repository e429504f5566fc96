import GitvTime.Source.Launcher.Bolts
import GitvTime.Source.Patterns
import GitvTime.Support.LinkedMap

/-!
# From the query string to the line

`URLDecode_Bolt`, `FieldMapToBean.getLogBean` and the `toLogBean` of the five
beans. Jetty's `UrlEncoded.decodeTo` is a parameter; a decoded map has a first
value for each of its keys.
-/
namespace GitvTime.Source.Launcher
open GitvTime.Support GitvTime.Source.StringHandle GitvTime.Source.Patterns

/-- Jetty's `MultiMap<String>` after decoding, its entries in any order. -/
structure MultiMap where
  map : LinkedMap String (List String)
  filled : ∀ entry ∈ map.entries, entry.2 ≠ []

/-- `getValue(key, 0)`. -/
def MultiMap.getValue (map : MultiMap) (key : String) : Option String :=
  (map.map.get? key).bind List.head?

/-- `setTimestamp`, or `none` when a `substring` throws. -/
def LogBean.setTimestamp (log : LogBean) (timestamp : String) : Option LogBean :=
  let chars := timestamp.toList
  let t := chars.idxOf 'T'
  let plus := chars.idxOf '+'
  if t < chars.length ∧ plus < chars.length ∧ t + 1 ≤ plus then
    let day := chars.take t
    let time := (chars.take plus).drop (t + 1)
    some { log with
      timestamp := some (String.ofList (day ++ ' ' :: time))
      recordDay := some (String.ofList day) }
  else none

/-- The cases that the switches of all beans share. -/
def LogBean.set (log : LogBean) (key : String) (value : Option String) : LogBean :=
  match key with
  | "A" => { log with action := value }
  | "P" => { log with p := value }
  | "MC" => { log with mc := value }
  | "V" => { log with v := value }
  | "UID" => { log with uid := value }
  | "STBID" => { log with stbid := value }
  | "TS" => { log with ts := value }
  | "os" => { log with os := value }
  | "HM" => { log with hm := value }
  | "UG" => { log with ug := value }
  | _ => log

def LogBean0.set (log : LogBean0) (key : String) (value : Option String) : LogBean0 :=
  match key with
  | "LIC" => { log with lic := value }
  | key => { log with toLogBean := log.toLogBean.set key value }

def LogBean1.set (log : LogBean1) (key : String) (value : Option String) : LogBean1 :=
  match key with
  | "OV" => { log with ov := value }
  | key => { log with toLogBean := log.toLogBean.set key value }

def LogBean2.set (log : LogBean2) (key : String) (value : Option String) : LogBean2 :=
  match key with
  | "APK" => { log with apk := value }
  | "SID" => { log with sid := value }
  | "AR" => { log with ar := value }
  | "X" => { log with x := value }
  | "Y" => { log with y := value }
  | "TNUM" => { log with tnum := value }
  | "CTP" => { log with ctp := value }
  | key => { log with toLogBean := log.toLogBean.set key value }

def LogBean3.set (log : LogBean3) (key : String) (value : Option String) : LogBean3 :=
  match key with
  | "APK" => { log with apk := value }
  | "TP" => { log with tp := value }
  | "RE" => { log with re := value }
  | key => { log with toLogBean := log.toLogBean.set key value }

def LogBean4.set (log : LogBean4) (key : String) (value : Option String) : LogBean4 :=
  match key with
  | "TNUM" => { log with tnum := value }
  | "OTN" => { log with otn := value }
  | key => { log with toLogBean := log.toLogBean.set key value }

section
variable (otherC : Char → Bool)

/-- The loop of `toLogBean` over the entries of the map. -/
def setAll {Bean : Type} (set : Bean → String → Option String → Bean)
    (entries : List (String × List String)) (log : Bean) : Bean :=
  entries.foldl
    (fun log item => set log item.1 (getPrintStringAndReplaceAll otherC item.2.head? pt)) log

/-- What `getLogBean` makes. -/
inductive AnyLogBean where
  | logBean0 (log : LogBean0)
  | logBean1 (log : LogBean1)
  | logBean2 (log : LogBean2)
  | logBean3 (log : LogBean3)
  | logBean4 (log : LogBean4)

def AnyLogBean.toString : AnyLogBean → String
  | .logBean0 log => log.toString
  | .logBean1 log => log.toString
  | .logBean2 log => log.toString
  | .logBean3 log => log.toString
  | .logBean4 log => log.toString

/-- Whether the bean's `stringToBeanInit` accepts the content. -/
def AnyLogBean.accepts (content : String) : AnyLogBean → Bool
  | .logBean0 log => (log.stringToBeanInit content).1
  | .logBean1 log => (log.stringToBeanInit content).1
  | .logBean2 log => (log.stringToBeanInit content).1
  | .logBean3 log => (log.stringToBeanInit content).1
  | .logBean4 log => (log.stringToBeanInit content).1

/-- `getLogBean`: `none` where it returns null or throws. -/
def getLogBean (map : MultiMap) (ip timestamp : String) : Option AnyLogBean :=
  let entries := map.map.entries
  (LogBean.setTimestamp { ip := some ip } timestamp).bind fun log =>
    match map.getValue "A" with
    | some "100" => some (.logBean0 (setAll otherC LogBean0.set entries { toLogBean := log }))
    | some "101" => some (.logBean1 (setAll otherC LogBean1.set entries { toLogBean := log }))
    | some "102" => some (.logBean2 (setAll otherC LogBean2.set entries { toLogBean := log }))
    | some "103" => some (.logBean3 (setAll otherC LogBean3.set entries { toLogBean := log }))
    | some "104" => some (.logBean4 (setAll otherC LogBean4.set entries { toLogBean := log }))
    | _ => none

/-- `data.substring(data.indexOf("?") + 1, data.length())`. -/
def urlAnalyze (data : String) : String :=
  String.ofList (if '?' ∈ data.toList then data.toList.drop (data.toList.idxOf '?' + 1)
    else data.toList)

/-- `URLDecode_Bolt.execute`: a null bean and an exception both ack the tuple. -/
def urlDecode (decodeTo : String → Option MultiMap) (ip time data : Option String) :
    Outcome (String × String) :=
  match ip, time, data with
  | some ip, some time, some data =>
    if isLegalField [some ip, some time, some data] then
      match decodeTo (urlAnalyze data) with
      | none => .acked
      | some multiMap =>
        match multiMap.getValue "A" with
        | none => .acked
        | some action =>
          if isBlank (some action) then .acked
          else
            match getLogBean otherC multiMap ip time with
            | some logBean => .emitted (action, logBean.toString)
            | none => .acked
    else .acked
  | _, _, _ => .acked

end

end GitvTime.Source.Launcher
