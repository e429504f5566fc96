import GitvTime.Source.Launcher.ApkParse
import GitvTime.Source.Launcher.Bolts

/-!
# What a parsed APK keeps of the json

The bean exists before the loop, so a failed conversion leaves a bean that is filled
up to there, and `type` is read under the name `enumtype`. The parser is right
exactly on what Jackson refuses and on what converts as a whole with the same value
under both names.
-/
namespace GitvTime.Guarantees.Launcher.ApkParsing
open GitvTime.Support GitvTime.Source.Launcher
open GitvTime.Source.Launcher.ApkParseUtils

/-! ### What the parser should do -/

/-- The attributes of `mExtras.mMap`, each with its field of the bean. -/
def attributes : List (String × (ApkBean → Option String)) :=
  [("albumId", (·.albumId)), ("chnId", (·.chnId)), ("cpId", (·.cpId)), ("type", (·.type)),
    ("cpContentId", (·.cpContentId)), ("topicLayout", (·.topicLayout)),
    ("topicPicBg", (·.topicPicBg)), ("chnName", (·.chnName)),
    ("currTypingCode", (·.currTypingCode)), ("currTypingName", (·.currTypingName)),
    ("typings", (·.typings)), ("num", (·.num)), ("tvId", (·.tvId)), ("tagId", (·.tagId)),
    ("pageName", (·.pageName)), ("screenInfo", (·.screenInfo)), ("picUrl", (·.picUrl))]

/-- A string or null. -/
def IsText (value : Json) : Prop := value.castString.isSome = true

/-- The string of a value, null for anything else. -/
def textOf (value : Json) : Option String := value.castString.getD none

/-- The value under a key, null for anything but a map. -/
def member : Json → String → Json
  | .object entries, key => Json.get entries key
  | .null, _ | .text _, _ | .other, _ => .null

def ComponentConverts (value : Json) : Prop :=
  ∃ mcomponent, value = .object mcomponent ∧
    IsText (Json.get mcomponent "mClass") ∧ IsText (Json.get mcomponent "mPackage")

/-- There is an `mMap`, and each attribute in it is a string or null, under the name
that the code reads too. -/
def ExtrasConvert (value : Json) : Prop :=
  ∃ mextras extras, value = .object mextras ∧ Json.get mextras "mMap" = .object extras ∧
    (∀ field ∈ attributes, IsText (Json.get extras field.1)) ∧
      IsText (Json.get extras "enumtype")

/-- An entry of the json converts. -/
structure ItemConverts (key : String) (value : Json) : Prop where
  mAction : key = "mAction" → IsText value
  mPackage : key = "mPackage" → IsText value
  mComponent : key = "mComponent" → ComponentConverts value
  mExtras : key = "mExtras" → ExtrasConvert value

def Converts (maps : LinkedMap String Json) : Prop :=
  ∀ item ∈ maps.entries, ItemConverts item.1 item.2

/-- Parsing or a conversion fails. -/
def Fails : Reading → Prop
  | .throws | .null => True
  | .map maps => ¬ Converts maps

/-- The value of a key of the json, null where it is absent. -/
def valueOf (maps : LinkedMap String Json) (key : String) : Json := (maps.get? key).getD .null

/-- The bean carries each value under its own name. -/
structure Carries (maps : LinkedMap String Json) (apkBean : ApkBean) : Prop where
  mAction : apkBean.mAction = textOf (valueOf maps "mAction")
  mPackage : apkBean.mPackage = textOf (valueOf maps "mPackage")
  cls : apkBean.cls = textOf (member (valueOf maps "mComponent") "mClass")
  pkg : apkBean.pkg = textOf (member (valueOf maps "mComponent") "mPackage")
  extras : ∀ field ∈ attributes, field.2 apkBean =
    textOf (member (member (valueOf maps "mExtras") "mMap") field.1)

/-- `APK.replaceAll("'", "\"")`. -/
def quoted (apk : String) : String :=
  String.ofList (apk.toList.map fun c => if c = '\x27' then '\x22' else c)

/-- All or nothing, under the own names; and what `FilterData_Bolt` forwards was
parsed as a whole. -/
structure AllOrNothing (readValue : String → Reading) (json : String) : Prop where
  null_iff : jsonToBean readValue json = none ↔ Fails (readValue json)
  carries : ∀ apkBean maps, jsonToBean readValue json = some apkBean →
    readValue json = .map maps → Carries maps apkBean
  forwarded : ∀ action decoded apk toStringApk values,
    quoted apk = json →
      FilterDataBolt.expand (jsonToBean readValue) action decoded (some apk) toStringApk =
        .emitted values → ¬ Fails (readValue json)

/-! ### A json that converts -/

theorem set_of_isText (setter : ApkBean → Option String → ApkBean) {value : Json}
    (is_text : IsText value) : set setter value = some fun apkBean => setter apkBean (textOf value) := by
  obtain ⟨string, cast⟩ := Option.isSome_iff_exists.mp is_text
  rw [ApkParseUtils.set, textOf, cast]
  rfl

theorem run_map {α : Type} (items : List α) (statement : α → ApkBean → ApkBean)
    (later : List Statement) (apkBean : ApkBean) :
    run (items.map (fun item => some (statement item)) ++ later) apkBean =
      run later (items.foldl (fun apkBean item => statement item apkBean) apkBean) := by
  induction items generalizing apkBean with
  | nil => rfl
  | cons item rest ih => exact ih _

/-- What `mExtras` does to the bean. -/
def fillExtras (extras : Json) (apkBean : ApkBean) : ApkBean :=
  extrasSetters.foldl (fun apkBean setter => setter.2 apkBean (textOf (member extras setter.1)))
    apkBean

/-- What an entry that converts does to the bean. -/
def fillItem (apkBean : ApkBean) (item : String × Json) : ApkBean :=
  if item.1 = "mAction" then { apkBean with mAction := textOf item.2 }
  else if item.1 = "mPackage" then { apkBean with mPackage := textOf item.2 }
  else if item.1 = "mComponent" then
    { apkBean with
      cls := textOf (member item.2 "mClass")
      pkg := textOf (member item.2 "mPackage") }
  else if item.1 = "mExtras" then fillExtras (member item.2 "mMap") apkBean
  else apkBean

/-- The name under which the code reads an attribute. -/
def readName (name : String) : String := if name = "type" then "enumtype" else name

theorem setter_names : extrasSetters.map Prod.fst = attributes.map fun field => readName field.1 := by
  decide

theorem isText_of_setter {extras : List (String × Json)}
    (convert : ∀ field ∈ attributes, IsText (Json.get extras field.1))
    (enumtype : IsText (Json.get extras "enumtype")) :
    ∀ setter ∈ extrasSetters, IsText (Json.get extras setter.1) := by
  intro setter listed
  have named : setter.1 ∈ attributes.map fun field => readName field.1 := by
    rw [← setter_names]
    exact List.mem_map_of_mem listed
  obtain ⟨field, listed, name⟩ := List.mem_map.mp named
  rw [← name, readName]
  split
  · exact enumtype
  · exact convert field listed

theorem run_extras {value : Json} (convert : ExtrasConvert value) (later : List Statement)
    (apkBean : ApkBean) :
    run (extrasStatements value ++ later) apkBean =
      run later (fillExtras (member value "mMap") apkBean) := by
  obtain ⟨mextras, extras, rfl, mMap, texts, enumtype⟩ := convert
  have is_text := isText_of_setter texts enumtype
  have statements : extrasStatements (.object mextras) =
      extrasSetters.map fun setter =>
        some fun apkBean => setter.2 apkBean (textOf (Json.get extras setter.1)) := by
    rw [extrasStatements, mMap]
    exact List.map_congr_left fun setter listed => set_of_isText setter.2 (is_text setter listed)
  rw [statements, run_map, member, mMap]
  rfl

/-- An entry that converts fills its fields, and the loop goes on. -/
theorem run_item {item : String × Json} (convert : ItemConverts item.1 item.2)
    (later : List Statement) (apkBean : ApkBean) :
    run (itemStatements item ++ later) apkBean = run later (fillItem apkBean item) := by
  unfold itemStatements fillItem
  by_cases mAction : item.1 = "mAction"
  · rw [if_pos mAction, if_pos mAction, set_of_isText _ (convert.mAction mAction)]
    rfl
  rw [if_neg mAction, if_neg mAction]
  by_cases mPackage : item.1 = "mPackage"
  · rw [if_pos mPackage, if_pos mPackage, set_of_isText _ (convert.mPackage mPackage)]
    rfl
  rw [if_neg mPackage, if_neg mPackage]
  by_cases mComponent : item.1 = "mComponent"
  · obtain ⟨mcomponent, is_map, mClass, package⟩ := convert.mComponent mComponent
    rw [if_pos mComponent, if_pos mComponent, is_map, componentStatements,
      set_of_isText _ mClass, set_of_isText _ package]
    rfl
  rw [if_neg mComponent, if_neg mComponent]
  by_cases mExtras : item.1 = "mExtras"
  · rw [if_pos mExtras, if_pos mExtras]
    exact run_extras (convert.mExtras mExtras) later apkBean
  · rw [if_neg mExtras, if_neg mExtras]
    rfl

theorem run_items {items : List (String × Json)}
    (convert : ∀ item ∈ items, ItemConverts item.1 item.2) (apkBean : ApkBean) :
    run (items.flatMap itemStatements) apkBean = items.foldl fillItem apkBean := by
  induction items generalizing apkBean with
  | nil => rfl
  | cons item rest ih =>
    obtain ⟨here, later⟩ := List.forall_mem_cons.mp convert
    rw [List.flatMap_cons, run_item here, ih later]
    rfl

/-! ### The fields of the filled bean -/

/-- The attributes of a bean. -/
def extrasOf (apkBean : ApkBean) : List (Option String) :=
  attributes.map fun field => field.2 apkBean

theorem extrasOf_fillItem {item : String × Json} (other : item.1 ≠ "mExtras")
    (apkBean : ApkBean) : extrasOf (fillItem apkBean item) = extrasOf apkBean := by
  unfold fillItem
  rw [if_neg other]
  split
  · rfl
  · split
    · rfl
    · split <;> rfl

theorem mAction_fillItem (apkBean : ApkBean) (item : String × Json) (other : item.1 ≠ "mAction") :
    (fillItem apkBean item).mAction = apkBean.mAction := by
  unfold fillItem
  rw [if_neg other]
  split
  · rfl
  · split
    · rfl
    · split <;> rfl

theorem mPackage_fillItem (apkBean : ApkBean) (item : String × Json)
    (other : item.1 ≠ "mPackage") : (fillItem apkBean item).mPackage = apkBean.mPackage := by
  unfold fillItem
  rw [if_neg other]
  split
  · rfl
  · split
    · rfl
    · split <;> rfl

/-- Both fields of `mComponent`. -/
def componentOf (apkBean : ApkBean) : Option String × Option String := (apkBean.cls, apkBean.pkg)

theorem componentOf_fillItem (apkBean : ApkBean) (item : String × Json)
    (other : item.1 ≠ "mComponent") : componentOf (fillItem apkBean item) = componentOf apkBean := by
  unfold fillItem
  rw [if_neg other]
  split
  · rfl
  · split
    · rfl
    · split <;> rfl

/-- The bean of a json that converts. -/
def filled (maps : LinkedMap String Json) : ApkBean := maps.entries.foldl fillItem {}

theorem jsonToBean_of_converts {readValue : String → Reading} {json : String}
    {maps : LinkedMap String Json} (read : readValue json = .map maps) (converts : Converts maps) :
    jsonToBean readValue json = some (filled maps) := by
  rw [jsonToBean, read]
  exact congrArg some (run_items converts {})

theorem filled_mAction (maps : LinkedMap String Json) :
    (filled maps).mAction = textOf (valueOf maps "mAction") := by
  have set := @LinkedMap.foldl_field String Json _ _ _ maps fillItem ApkBean.mAction "mAction" textOf
    mAction_fillItem (fun _ _ => rfl) {}
  rw [filled, set, valueOf]
  cases maps.get? "mAction" <;> rfl

theorem filled_mPackage (maps : LinkedMap String Json) :
    (filled maps).mPackage = textOf (valueOf maps "mPackage") := by
  have set := @LinkedMap.foldl_field String Json _ _ _ maps fillItem ApkBean.mPackage "mPackage"
    textOf mPackage_fillItem (fun _ _ => rfl) {}
  rw [filled, set, valueOf]
  cases maps.get? "mPackage" <;> rfl

theorem filled_component (maps : LinkedMap String Json) :
    componentOf (filled maps) =
      (textOf (member (valueOf maps "mComponent") "mClass"),
        textOf (member (valueOf maps "mComponent") "mPackage")) := by
  have set := @LinkedMap.foldl_field String Json _ _ _ maps fillItem componentOf "mComponent"
    (fun value => (textOf (member value "mClass"), textOf (member value "mPackage")))
    componentOf_fillItem (fun _ _ => rfl) {}
  rw [filled, set, valueOf]
  cases maps.get? "mComponent" <;> rfl

theorem filled_extras (maps : LinkedMap String Json) :
    extrasOf (filled maps) = attributes.map fun field =>
      textOf (member (member (valueOf maps "mExtras") "mMap") (readName field.1)) := by
  have set := @LinkedMap.foldl_field String Json _ _ _ maps fillItem extrasOf "mExtras"
    (fun value => attributes.map fun field =>
      textOf (member (member value "mMap") (readName field.1)))
    (fun apkBean item other => extrasOf_fillItem other apkBean) (fun _ _ => rfl) {}
  rw [filled, set, valueOf]
  cases maps.get? "mExtras" <;> rfl

/-! ### The parser as a whole -/

/-- `type` and `enumtype` have the same value. -/
def TypeUnderBothNames (maps : LinkedMap String Json) : Prop :=
  textOf (member (member (valueOf maps "mExtras") "mMap") "type") =
    textOf (member (member (valueOf maps "mExtras") "mMap") "enumtype")

theorem filled_type (maps : LinkedMap String Json) :
    (filled maps).type = textOf (member (member (valueOf maps "mExtras") "mMap") "enumtype") :=
  List.map_inj_left.mp (filled_extras maps) ("type", ApkBean.type) (by simp [attributes])

theorem carries_filled_iff (maps : LinkedMap String Json) :
    Carries maps (filled maps) ↔ TypeUnderBothNames maps := by
  have component := filled_component maps
  constructor
  · intro carries
    have own := carries.extras ("type", ApkBean.type) (by simp [attributes])
    exact own.symm.trans (filled_type maps)
  · intro same
    refine ⟨filled_mAction maps, filled_mPackage maps, congrArg Prod.fst component,
      congrArg Prod.snd component, fun field listed => ?_⟩
    rw [List.map_inj_left.mp (filled_extras maps) field listed, readName]
    split
    · rename_i is_type
      rw [is_type]
      exact same.symm
    · rfl

/-- `FilterData_Bolt` forwards nothing without a bean. -/
theorem bean_of_emitted {parse : String → Option ApkBean} {action apk : String}
    {decoded : Bool × LogBean} {toStringApk : String → String} {values : String × String}
    (emitted : FilterDataBolt.expand parse action decoded (some apk) toStringApk =
      .emitted values) : ∃ apkBean, parse (quoted apk) = some apkBean := by
  unfold FilterDataBolt.expand at emitted
  split at emitted
  · split at emitted
    · rename_i some_apk
      cases some_apk
      split at emitted
      · rename_i apkBean parsed
        exact ⟨apkBean, parsed⟩
      · cases emitted
    · cases emitted
    · cases emitted
  · cases emitted

/-- Parsing is all or nothing and keeps the names exactly on the texts that Jackson
refuses and on those that convert with the same value of `type` under both names. -/
theorem all_or_nothing_iff (readValue : String → Reading) (json : String) :
    AllOrNothing readValue json ↔ readValue json = .throws ∨
      ∃ maps, readValue json = .map maps ∧ Converts maps ∧ TypeUnderBothNames maps := by
  constructor
  · rintro ⟨null_iff, carries, _⟩
    cases read : readValue json with
    | throws => exact .inl rfl
    | null =>
      have parsed : jsonToBean readValue json = some {} := by rw [jsonToBean, read]
      rw [parsed, read] at null_iff
      cases null_iff.mpr trivial
    | map maps =>
      have parsed : jsonToBean readValue json ≠ none := by
        rw [jsonToBean, read]
        nofun
      have converts : Converts maps := by
        by_contra fails
        exact parsed (null_iff.mpr (by rw [read]; exact fails))
      refine .inr ⟨maps, rfl, converts, (carries_filled_iff maps).mp ?_⟩
      exact carries _ maps (jsonToBean_of_converts read converts) read
  · rintro (throws | ⟨maps, read, converts, same⟩)
    · have nothing : jsonToBean readValue json = none := by rw [jsonToBean, throws]
      refine ⟨?_, ?_, ?_⟩
      · rw [nothing, throws]
        exact iff_of_true rfl trivial
      · intro apkBean maps parsed
        rw [nothing] at parsed
        cases parsed
      · rintro action decoded apk toStringApk values rfl emitted
        obtain ⟨apkBean, parsed⟩ := bean_of_emitted emitted
        rw [nothing] at parsed
        cases parsed
    · have parsed := jsonToBean_of_converts read converts
      have passes : ¬ Fails (readValue json) := by
        rw [read]
        exact fun fails => fails converts
      refine ⟨?_, ?_, fun _ _ _ _ _ _ _ => passes⟩
      · rw [parsed]
        exact iff_of_false nofun passes
      · intro apkBean maps' is_bean is_read
        cases parsed.symm.trans is_bean
        cases read.symm.trans is_read
        exact (carries_filled_iff maps).mpr same

/-- The APK column of a recorded request, up to the parts that are not read. -/
def jumpActivity : String :=
  "\x7b\"mComponent\":\x7b\"mClass\":\"com.galaxyitv.video.ui.JumpActivity\"," ++
    "\"mPackage\":\"com.galaxyitv.video\"\x7d," ++
    "\"mExtras\":\x7b\"mMap\":\x7b\"type\":\"6\"\x7d\x7d\x7d"

def jumpMaps : LinkedMap String Json where
  entries :=
    [("mComponent", .object [("mClass", .text "com.galaxyitv.video.ui.JumpActivity"),
        ("mPackage", .text "com.galaxyitv.video")]),
      ("mExtras", .object [("mMap", .object [("type", .text "6")])])]
  distinct := by decide

/-- Jackson on this text. -/
def readJump (json : String) : Reading := if json = jumpActivity then .map jumpMaps else .throws

/-- The `type` of the recorded request gets lost. -/
theorem type_lost : ¬ ∀ readValue json, AllOrNothing readValue json := by
  intro right
  have read : readJump jumpActivity = .map jumpMaps := if_pos rfl
  obtain ⟨apkBean, parsed⟩ : ∃ apkBean, jsonToBean readJump jumpActivity = some apkBean := by
    rw [jsonToBean, read]
    exact ⟨_, rfl⟩
  have carries := (right readJump jumpActivity).carries apkBean jumpMaps parsed read
  have own := carries.extras ("type", ApkBean.type) (by simp [attributes])
  rw [jsonToBean, read] at parsed
  cases parsed
  revert own
  decide

end GitvTime.Guarantees.Launcher.ApkParsing
