import GitvTime.Guarantees.Launcher.ApkParsing
import GitvTime.Guarantees.Launcher.Sanitising
import GitvTime.Source.PlainFields

/-!
# Whom the launcher's filter lets through

`FilterData_Bolt` checks the partner and the MAC on a bean that it reads back from
text. A parameter that was absent was printed as `null`, so a missing MAC is refused as
before, while a missing partner comes back as a name.
-/
namespace GitvTime.Guarantees.Launcher.IdentifiedDevices
open GitvTime.Support GitvTime.Source.StringHandle GitvTime.Source.Patterns
open GitvTime.Source.Launcher
open GitvTime.Guarantees.Launcher.ApkParsing (quoted)

section
variable (otherC : Char → Bool) (jsonToBean : String → Option ApkBean)

/-- The cleaned first value of a parameter. -/
def cleaned (map : MultiMap) (key : String) : Option String :=
  getPrintStringAndReplaceAll otherC (map.getValue key) pt

/-- The request carried a partner that is not blank and a MAC, both as cleaned. -/
structure Identified (map : MultiMap) : Prop where
  partner : ∃ p, cleaned otherC map "P" = some p ∧ isBlank (some p) = false
  mac : ∃ mc, cleaned otherC map "MC" = some mc ∧ matchesMac mc.toList 5 = true

/-- `URLDecode_Bolt` emits a line from which `FilterData_Bolt` emits a record. -/
def Passes (decodeTo : String → Option MultiMap) (ip time data : String) : Prop :=
  ∃ action line values,
    urlDecode otherC decodeTo (some ip) (some time) (some data) = .emitted (action, line) ∧
      FilterDataBolt.execute jsonToBean action line = .emitted values

/-- All that the chain asks of a request, the partner apart. -/
structure Acceptable (map : MultiMap) (ip time data action : String) : Prop where
  legal : isLegalField [some ip, some time, some data] = true
  stamped : ∃ log, LogBean.setTimestamp { ip := some ip } time = some log ∧
    ∀ field ∈ log.last, BarFree (print field)
  free : ∀ key ∈ keysOf action, ∀ value, map.getValue key = some value → BarFree value
  mac : ∃ mc, cleaned otherC map "MC" = some mc ∧ matchesMac mc.toList 5 = true
  apk : action = "102" ∨ action = "103" →
    (jsonToBean (quoted (print (cleaned otherC map "APK")))).isSome = true

/-! ### The filter on the pieces of a line -/

theorem forward_emits_iff (action content : String) (decoded : Bool × LogBean) :
    (∃ values, FilterDataBolt.forward action content decoded = .emitted values) ↔
      decoded.1 = true ∧ decoded.2.fieldsFilter = some true := by
  unfold FilterDataBolt.forward
  by_cases read : decoded.1 = true
  · rw [if_pos read]
    cases decoded.2.fieldsFilter with
    | none => simp
    | some passes => cases passes <;> simp [read]
  · simp [read]

theorem expand_emits_iff (action : String) (decoded : Bool × LogBean) (apk : Option String)
    (toStringApk : String → String) :
    (∃ values, FilterDataBolt.expand jsonToBean action decoded apk toStringApk =
        .emitted values) ↔
      decoded.1 = true ∧ decoded.2.fieldsFilter = some true ∧
        ∃ json, apk = some json ∧ (jsonToBean (quoted json)).isSome = true := by
  unfold FilterDataBolt.expand
  by_cases read : decoded.1 = true
  · rw [if_pos read]
    cases decoded.2.fieldsFilter with
    | none => cases apk <;> simp
    | some passes =>
      cases passes with
      | false => cases apk <;> simp
      | true =>
        cases apk with
        | none => simp
        | some json =>
          dsimp only
          cases parsed : jsonToBean (quoted json) with
          | none =>
            rw [quoted] at parsed
            simp [parsed, quoted]
          | some apkBean =>
            rw [quoted] at parsed
            simp [parsed, read, quoted]
  · simp [read]

/-- The filter reads the second and the third piece. -/
def Filtered (pieces : List String) : Prop :=
  LogBean.fieldsFilter { p := pieces[1]?, mc := pieces[2]? } = some true

theorem execute_emits_iff {action : String} (known : action ∈ ["100", "101", "102", "103", "104"])
    (content : String) :
    (∃ values, FilterDataBolt.execute jsonToBean action content = .emitted values) ↔
      (strSplitTrim content).length = (keysOf action).length + 3 ∧
        Filtered (strSplitTrim content) ∧
        (action = "102" ∨ action = "103" → ∃ json, (strSplitTrim content)[9]? = some json ∧
          (jsonToBean (quoted json)).isSome = true) := by
  simp only [List.mem_cons, List.not_mem_nil, or_false] at known
  rcases known with rfl | rfl | rfl | rfl | rfl
  · rw [FilterDataBolt.execute_100, forward_emits_iff]
    unfold LogBean0.stringToBeanInit
    dsimp only
    split <;> simp [keysOf, firstKeys, Filtered, LogBean0.init, LogBean.fieldsFilter, *]
  · rw [FilterDataBolt.execute_101, forward_emits_iff]
    unfold LogBean1.stringToBeanInit
    dsimp only
    split <;> simp [keysOf, firstKeys, Filtered, LogBean1.init, LogBean.fieldsFilter, *]
  · rw [FilterDataBolt.execute_102, expand_emits_iff]
    unfold LogBean2.stringToBeanInit
    dsimp only
    split <;> simp [keysOf, firstKeys, Filtered, LogBean2.init, LogBean.fieldsFilter, *]
  · rw [FilterDataBolt.execute_103, expand_emits_iff]
    unfold LogBean3.stringToBeanInit
    dsimp only
    split <;> simp [keysOf, firstKeys, Filtered, LogBean3.init, LogBean.fieldsFilter, *]
  · rw [FilterDataBolt.execute_104, forward_emits_iff]
    unfold LogBean4.stringToBeanInit
    dsimp only
    split <;> simp [keysOf, firstKeys, Filtered, LogBean4.init, LogBean.fieldsFilter, *]

/-! ### The line of a request -/

theorem toString_columns (bean : AnyLogBean) : bean.toString = appendColumns (columnsOf bean) := by
  cases bean <;> rfl

theorem strSplitTrim_columns {fields : List (Option String)} (nonempty : fields ≠ [])
    (free : ∀ field ∈ fields, BarFree (print field)) :
    strSplitTrim (appendColumns fields) = fields.map fun field => trim (print field) := by
  rw [strSplitTrim, strSplit_appendColumns nonempty]
  clear nonempty
  induction fields with
  | nil => rfl
  | cons field rest ih =>
    obtain ⟨here, later⟩ := List.forall_mem_cons.mp free
    rw [List.map_cons, List.flatMap_cons, strSplit_of_barFree here, List.singleton_append,
      List.map_cons, ih later]
    rfl

/-- A cleaned value reads back as it is, an absent one as `null`. -/
theorem trim_cleaned {map : MultiMap} {key : String}
    (free : ∀ value, map.getValue key = some value → BarFree value) :
    trim (print (cleaned otherC map key)) = print (cleaned otherC map key) := by
  unfold cleaned
  cases carried : map.getValue key with
  | none => exact (by decide : trim "null" = "null")
  | some value => exact (plain_clean otherC (free value carried)).trimmed

/-- The line has the bean's columns exactly when nothing in it has a separator, and
then reads back as the cleaned values. -/
theorem line_pieces {map : MultiMap} {action : String} {log : LogBean} {bean : AnyLogBean}
    (columns : columnsOf bean = (keysOf action).map (cleaned otherC map) ++ log.last) :
    ((strSplitTrim bean.toString).length = (keysOf action).length + 3 ↔
      (∀ key ∈ keysOf action, ∀ value, map.getValue key = some value → BarFree value) ∧
        ∀ field ∈ log.last, BarFree (print field)) ∧
    ((∀ key ∈ keysOf action, ∀ value, map.getValue key = some value → BarFree value) →
      (∀ field ∈ log.last, BarFree (print field)) →
        strSplitTrim bean.toString =
          (keysOf action).map (fun key => print (cleaned otherC map key)) ++
            log.last.map fun field => trim (print field)) := by
  have nonempty : (keysOf action).map (cleaned otherC map) ++ log.last ≠ [] := by
    simp [LogBean.last]
  have total : ((keysOf action).map (cleaned otherC map) ++ log.last).length =
      (keysOf action).length + 3 := by
    rw [List.length_append, List.length_map]
    rfl
  have all_free : (∀ field ∈ (keysOf action).map (cleaned otherC map) ++ log.last,
      BarFree (print field)) ↔
        (∀ key ∈ keysOf action, ∀ value, map.getValue key = some value → BarFree value) ∧
          ∀ field ∈ log.last, BarFree (print field) := by
    rw [List.forall_mem_append, List.forall_mem_map]
    exact and_congr_left' (forall₂_congr fun key _ => barFree_cleaned otherC _)
  rw [toString_columns, columns]
  constructor
  · rw [strSplitTrim, List.length_map, strSplit_appendColumns nonempty, ← total, pieces_eq_iff,
      all_free]
  · intro free last_free
    have read_back : ((keysOf action).map (cleaned otherC map)).map
        (fun field => trim (print field)) =
          (keysOf action).map fun key => print (cleaned otherC map key) := by
      rw [List.map_map]
      apply List.map_congr_left
      intro key reads
      exact trim_cleaned otherC (free key reads)
    rw [strSplitTrim_columns nonempty (all_free.mpr ⟨free, last_free⟩), List.map_append, read_back]

/-- What the filter makes of the cleaned partner and MAC. -/
theorem filtered_iff {map : MultiMap} {first : String} {rest : List String} :
    Filtered (first :: print (cleaned otherC map "P") :: print (cleaned otherC map "MC") :: rest) ↔
      (∃ mc, cleaned otherC map "MC" = some mc ∧ matchesMac mc.toList 5 = true) ∧
        ∀ p, cleaned otherC map "P" = some p → isBlank (some p) = false := by
  have null_mac : matchesMac ['n', 'u', 'l', 'l'] 5 = false := rfl
  have null_partner : isBlank (some "null") = false := by decide
  unfold Filtered LogBean.fieldsFilter
  cases cleaned otherC map "MC" with
  | none => simp [print, null_mac]
  | some mc =>
    cases cleaned otherC map "P" with
    | none => simp [print, null_partner]
    | some p => simp [print]

theorem keysOf_known {action : String} (known : action ∈ ["100", "101", "102", "103", "104"]) :
    (∃ rest, keysOf action = "A" :: "P" :: "MC" :: rest) ∧
      (action = "102" ∨ action = "103" → (keysOf action)[9]? = some "APK") := by
  simp only [List.mem_cons, List.not_mem_nil, or_false] at known
  rcases known with rfl | rfl | rfl | rfl | rfl <;> exact ⟨⟨_, rfl⟩, by decide⟩

/-- The filter emits for the line of a request exactly when the line reads back and
there is a MAC, a partner that is not blank unless it is absent, and an APK that parses. -/
theorem line_emits_iff {map : MultiMap} {action : String} {log : LogBean} {bean : AnyLogBean}
    (known : action ∈ ["100", "101", "102", "103", "104"])
    (columns : columnsOf bean = (keysOf action).map (cleaned otherC map) ++ log.last) :
    (∃ values, FilterDataBolt.execute jsonToBean action bean.toString = .emitted values) ↔
      ((∀ key ∈ keysOf action, ∀ value, map.getValue key = some value → BarFree value) ∧
        ∀ field ∈ log.last, BarFree (print field)) ∧
      ((∃ mc, cleaned otherC map "MC" = some mc ∧ matchesMac mc.toList 5 = true) ∧
        ∀ p, cleaned otherC map "P" = some p → isBlank (some p) = false) ∧
      (action = "102" ∨ action = "103" →
        (jsonToBean (quoted (print (cleaned otherC map "APK")))).isSome = true) := by
  obtain ⟨count, read⟩ := line_pieces otherC columns
  obtain ⟨⟨rest, keys⟩, tenth⟩ := keysOf_known known
  rw [execute_emits_iff jsonToBean known, count]
  apply and_congr_right
  intro free
  have pieces := read free.1 free.2
  apply and_congr
  · rw [pieces, keys]
    exact filtered_iff otherC
  · apply imp_congr_right
    intro expanded
    have apk : (strSplitTrim bean.toString)[9]? = some (print (cleaned otherC map "APK")) := by
      have key := tenth expanded
      obtain ⟨inside, _⟩ := List.getElem?_eq_some_iff.mp key
      rw [pieces, List.getElem?_append_left (by simpa using inside), List.getElem?_map, key]
      rfl
    rw [apk]
    simp

/-- The chain emits for a request exactly when it is acceptable and its partner is not
blank, if it has one. -/
theorem passes_iff {decodeTo : String → Option MultiMap} {map : MultiMap}
    {ip time data action : String} (decoded : decodeTo (urlAnalyze data) = some map)
    (read : map.getValue "A" = some action)
    (known : action ∈ ["100", "101", "102", "103", "104"]) :
    Passes otherC jsonToBean decodeTo ip time data ↔
      Acceptable otherC jsonToBean map ip time data action ∧
        ∀ p, cleaned otherC map "P" = some p → isBlank (some p) = false := by
  have visible : isBlank (some action) = false := by
    simp only [List.mem_cons, List.not_mem_nil, or_false] at known
    rcases known with rfl | rfl | rfl | rfl | rfl <;> decide
  by_cases legal : isLegalField [some ip, some time, some data] = true
  · cases stamped : LogBean.setTimestamp { ip := some ip } time with
    | none =>
      have acked : urlDecode otherC decodeTo (some ip) (some time) (some data) = .acked := by
        simp [urlDecode, legal, decoded, read, visible, getLogBean, stamped]
      constructor
      · intro passes
        obtain ⟨_, _, _, emitted, _⟩ := passes
        rw [acked] at emitted
        cases emitted
      · intro accepted
        obtain ⟨log, made, _⟩ := accepted.1.stamped
        rw [stamped] at made
        cases made
    | some log =>
      obtain ⟨bean, made, columns⟩ := getLogBean_columns otherC map read known stamped
      have emitted : urlDecode otherC decodeTo (some ip) (some time) (some data) =
          .emitted (action, bean.toString) := by
        simp [urlDecode, legal, decoded, read, visible, made]
      have emits := line_emits_iff otherC jsonToBean known columns
      constructor
      · intro passes
        obtain ⟨action', line, values, first, second⟩ := passes
        rw [emitted] at first
        cases first
        obtain ⟨⟨free, last_free⟩, ⟨mac, partner⟩, apk⟩ := emits.mp ⟨values, second⟩
        exact ⟨⟨legal, ⟨log, stamped, last_free⟩, free, mac, apk⟩, partner⟩
      · intro accepted
        obtain ⟨acceptable, partner⟩ := accepted
        obtain ⟨log', made', last_free⟩ := acceptable.stamped
        rw [stamped] at made'
        cases made'
        obtain ⟨values, second⟩ := emits.mpr
          ⟨⟨acceptable.free, last_free⟩, ⟨acceptable.mac, partner⟩, acceptable.apk⟩
        exact ⟨action, bean.toString, values, emitted, second⟩
  · have acked : urlDecode otherC decodeTo (some ip) (some time) (some data) = .acked := by
      simp [urlDecode, legal]
    constructor
    · intro passes
      obtain ⟨_, _, _, emitted, _⟩ := passes
      rw [acked] at emitted
      cases emitted
    · intro accepted
      exact absurd accepted.1.legal legal

/-- The chain lets only identified devices through exactly where a request carries a
partner or falls to another check. -/
theorem only_identified_iff {decodeTo : String → Option MultiMap} {map : MultiMap}
    {ip time data action : String} (decoded : decodeTo (urlAnalyze data) = some map)
    (read : map.getValue "A" = some action)
    (known : action ∈ ["100", "101", "102", "103", "104"]) :
    (Passes otherC jsonToBean decodeTo ip time data → Identified otherC map) ↔
      (map.getValue "P").isSome = true ∨
        ¬ Acceptable otherC jsonToBean map ip time data action := by
  rw [passes_iff otherC jsonToBean decoded read known]
  constructor
  · intro identifies
    by_contra neither
    obtain ⟨absent, acceptable⟩ := not_or.mp neither
    have nothing : cleaned otherC map "P" = none := by
      rw [Bool.not_eq_true, Option.isSome_eq_false_iff, Option.isNone_iff_eq_none] at absent
      rw [cleaned, absent]
      rfl
    have identified := identifies ⟨not_not.mp acceptable, fun p carried => by
      rw [nothing] at carried
      cases carried⟩
    obtain ⟨p, carried, _⟩ := identified.partner
    rw [nothing] at carried
    cases carried
  · intro either accepted
    obtain ⟨acceptable, partner⟩ := accepted
    rcases either with carried | unacceptable
    · obtain ⟨value, carried⟩ := Option.isSome_iff_exists.mp carried
      have present : cleaned otherC map "P" =
          some (pt.removeFrom ((noSeePattern otherC).removeFrom value)) := by
        rw [cleaned, carried]
        rfl
      exact ⟨⟨_, present, partner _ present⟩, acceptable.mac⟩
    · exact absurd acceptable unacceptable

/-! ### A request with and without a partner -/

def sampleTime : String := "2016-11-18T17:51:03+08:00"

/-- `A=100&P=ZJYD&MC=00:24:68:c9:69:17`. -/
def namedMap : MultiMap where
  map := ⟨[("A", ["100"]), ("P", ["ZJYD"]), ("MC", ["00:24:68:c9:69:17"])], by simp⟩
  filled := by simp

/-- `A=100&MC=00:24:68:c9:69:17`. -/
def unnamedMap : MultiMap where
  map := ⟨[("A", ["100"]), ("MC", ["00:24:68:c9:69:17"])], by simp⟩
  filled := by simp

/-- No other character than the usual ones is invisible, and no APK parses. -/
theorem sample_acceptable {map : MultiMap} {data : String}
    (legal : isLegalField [some "10.0.0.1", some sampleTime, some data] = true)
    (free : ∀ key ∈ keysOf "100",
      (map.getValue key).all (fun value => decide (BarFree value)) = true)
    (mac : map.getValue "MC" = some "00:24:68:c9:69:17") :
    Acceptable (fun _ => false) (fun _ => none) map "10.0.0.1" sampleTime data "100" := by
  have kept : cleaned (fun _ => false) map "MC" = some "00:24:68:c9:69:17" := by
    rw [cleaned, mac]
    decide
  constructor
  · exact legal
  · obtain ⟨log, stamped, time, day, last, time_free, day_free⟩ :=
      setTimestamp_wellFormed sample_time { ip := some "10.0.0.1" }
    refine ⟨log, stamped, ?_⟩
    rw [last]
    have ip_free : BarFree "10.0.0.1" := by decide
    simpa [print] using ⟨ip_free, time_free, day_free⟩
  · intro key reads value carried
    simpa [carried] using free key reads
  · exact ⟨_, kept, by decide⟩
  · intro expanded
    rcases expanded with wrong | wrong <;> exact absurd wrong (by decide)

theorem named_device_passes :
    Passes (fun _ => false) (fun _ => none) (fun _ => some namedMap) "10.0.0.1" sampleTime
        "/v?A=100&P=ZJYD&MC=00:24:68:c9:69:17" ∧ Identified (fun _ => false) namedMap := by
  have known : "100" ∈ ["100", "101", "102", "103", "104"] := by decide
  have read : namedMap.getValue "A" = some "100" := by decide
  have partner : cleaned (fun _ => false) namedMap "P" = some "ZJYD" := by decide
  have acceptable := @sample_acceptable namedMap "/v?A=100&P=ZJYD&MC=00:24:68:c9:69:17" (by decide)
    (by decide) (by decide)
  have passes := (@passes_iff (fun _ => false) (fun _ => none) (fun _ => some namedMap) _ _ _ _ _
    rfl read known).mpr ⟨acceptable, fun p carried => by
      rw [partner] at carried
      cases carried
      decide⟩
  refine ⟨passes, ?_⟩
  exact (only_identified_iff (fun _ => false) (fun _ => none) rfl read known).mpr
    (.inl (by decide)) passes

/-- Without a partner the same request passes as well. -/
theorem unnamed_device_passes :
    ¬ ∀ (otherC : Char → Bool) (jsonToBean : String → Option ApkBean)
      (decodeTo : String → Option MultiMap) (map : MultiMap) (ip time data action : String),
      decodeTo (urlAnalyze data) = some map → map.getValue "A" = some action →
        action ∈ ["100", "101", "102", "103", "104"] →
          Passes otherC jsonToBean decodeTo ip time data → Identified otherC map := by
  intro identifies
  have known : "100" ∈ ["100", "101", "102", "103", "104"] := by decide
  have read : unnamedMap.getValue "A" = some "100" := by decide
  have absent : cleaned (fun _ => false) unnamedMap "P" = none := by decide
  have acceptable := @sample_acceptable unnamedMap "/v?A=100&MC=00:24:68:c9:69:17" (by decide)
    (by decide) (by decide)
  have passes := (@passes_iff (fun _ => false) (fun _ => none) (fun _ => some unnamedMap) _ _ _ _ _
    rfl read known).mpr ⟨acceptable, fun p carried => by
      rw [absent] at carried
      cases carried⟩
  have identified := identifies _ _ _ unnamedMap _ _ _ "100" rfl read known passes
  obtain ⟨p, carried, _⟩ := identified.partner
  rw [absent] at carried
  cases carried

end

end GitvTime.Guarantees.Launcher.IdentifiedDevices
