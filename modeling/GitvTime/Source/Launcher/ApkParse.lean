import GitvTime.Source.Launcher.LogBean
import GitvTime.Support.LinkedMap

/-!
# Parsing the APK column

`apkparse/ApkParseUtils.java`. Jackson's `readValue(json, Map.class)` is a
parameter. A statement of the loop sets a field of the bean or throws; the catch
block keeps what was set before.
-/
namespace GitvTime.Source.Launcher
open GitvTime.Support

/-- A value of the map that Jackson makes. -/
inductive Json where
  | null
  | text (value : String)
  | object (entries : List (String × Json))
  /-- a number, a truth value or an array -/
  | other

namespace Json

/-- `map.get(key)`. -/
def get (entries : List (String × Json)) (key : String) : Json := (entries.lookup key).getD .null

/-- `(String) value`, `none` when it throws. -/
def castString : Json → Option (Option String)
  | .null => some none
  | .text value => some (some value)
  | .object _ | .other => none

end Json

/-- How `readValue` ends: the json `null` gives a null map. -/
inductive Reading where
  | throws
  | null
  | map (maps : LinkedMap String Json)

namespace ApkParseUtils

/-- A statement of the loop, `none` when it throws. -/
abbrev Statement := Option (ApkBean → ApkBean)

def set (setter : ApkBean → Option String → ApkBean) (value : Json) : Statement :=
  value.castString.map fun string apkBean => setter apkBean string

/-- The setters of `mExtras` with the keys of `mMap` that they are given. -/
def extrasSetters : List (String × (ApkBean → Option String → ApkBean)) :=
  [("albumId", fun apkBean value => { apkBean with albumId := value }),
    ("chnId", fun apkBean value => { apkBean with chnId := value }),
    ("cpId", fun apkBean value => { apkBean with cpId := value }),
    ("enumtype", fun apkBean value => { apkBean with type := value }),
    ("cpContentId", fun apkBean value => { apkBean with cpContentId := value }),
    ("topicLayout", fun apkBean value => { apkBean with topicLayout := value }),
    ("topicPicBg", fun apkBean value => { apkBean with topicPicBg := value }),
    ("chnName", fun apkBean value => { apkBean with chnName := value }),
    ("currTypingCode", fun apkBean value => { apkBean with currTypingCode := value }),
    ("currTypingName", fun apkBean value => { apkBean with currTypingName := value }),
    ("typings", fun apkBean value => { apkBean with typings := value }),
    ("num", fun apkBean value => { apkBean with num := value }),
    ("tvId", fun apkBean value => { apkBean with tvId := value }),
    ("tagId", fun apkBean value => { apkBean with tagId := value }),
    ("pageName", fun apkBean value => { apkBean with pageName := value }),
    ("screenInfo", fun apkBean value => { apkBean with screenInfo := value }),
    ("picUrl", fun apkBean value => { apkBean with picUrl := value })]

/-- The branch of `mComponent`. -/
def componentStatements : Json → List Statement
  | .object mcomponent_mp =>
    [set (fun apkBean value => { apkBean with cls := value }) (Json.get mcomponent_mp "mClass"),
      set (fun apkBean value => { apkBean with pkg := value }) (Json.get mcomponent_mp "mPackage")]
  -- no map, or a null one
  | .null | .text _ | .other => [none]

/-- The branch of `mExtras`. -/
def extrasStatements : Json → List Statement
  | .object mextras_map =>
    match Json.get mextras_map "mMap" with
    | .object extras =>
      extrasSetters.map fun setter => set setter.2 (Json.get extras setter.1)
    | .null | .text _ | .other => [none]
  | .null | .text _ | .other => [none]

/-- One round of the loop. -/
def itemStatements (item : String × Json) : List Statement :=
  if item.1 = "mAction" then
    [set (fun apkBean value => { apkBean with mAction := value }) item.2]
  else if item.1 = "mPackage" then
    [set (fun apkBean value => { apkBean with mPackage := value }) item.2]
  else if item.1 = "mComponent" then componentStatements item.2
  else if item.1 = "mExtras" then extrasStatements item.2
  else []

/-- Statements run until one throws. -/
def run : List Statement → ApkBean → ApkBean
  | [], apkBean => apkBean
  | none :: _, apkBean => apkBean
  | some statement :: rest, apkBean => run rest (statement apkBean)

/-- `jsonToBean`; null is `none`. -/
def jsonToBean (readValue : String → Reading) (json : String) : Option ApkBean :=
  match readValue json with
  | .throws => none
  -- the loop over a null map throws
  | .null => some {}
  | .map maps => some (run (maps.entries.flatMap itemStatements) {})

end ApkParseUtils

end GitvTime.Source.Launcher
