import GitvTime.Guarantees.Launcher.Lines
import GitvTime.Source.Launcher.UrlDecode

/-!
# Separators in the values of the query string

`PT` was compiled without an escape and removes nothing, so a separator in a
value stays in its column and the line has a column too many. The line has the
columns its bean requires exactly when no value that the bean reads contains the
separator.
-/
namespace GitvTime.Guarantees.Launcher
open GitvTime.Support GitvTime.Source.StringHandle GitvTime.Source.Patterns
open GitvTime.Source.Launcher

/-! ### Counting columns -/

theorem pieces_one_iff (s : String) : (strSplit s).length = 1 ↔ BarFree s := by
  constructor
  · intro one
    obtain ⟨piece, pieces⟩ := List.length_eq_one_iff.mp one
    have joined := strJoin_strSplit s
    rw [pieces, show strJoin [piece] = piece by simp [strJoin]] at joined
    have member : piece ∈ strSplit s := by simp [pieces]
    rw [← joined]
    exact barFree_of_mem_strSplit member
  · intro free
    rw [strSplit_of_barFree free]
    rfl

/-- A line has one piece for each column exactly when no column contains the
separator. -/
theorem pieces_eq_iff (fields : List (Option String)) :
    ((fields.map print).flatMap strSplit).length = fields.length ↔
      ∀ field ∈ fields, BarFree (print field) := by
  induction fields with
  | nil => simp
  | cons field rest ih =>
    have one : 0 < (strSplit (print field)).length := List.length_pos_iff.mpr (strSplit_ne_nil _)
    have more := pieces_ge rest
    rw [List.forall_mem_cons, ← ih, ← pieces_one_iff, List.map_cons, List.flatMap_cons,
      List.length_append, List.length_cons]
    omega

/-! ### The switches -/

/-- The keys of the first nine columns. -/
def firstKeys : List String := ["A", "P", "MC", "V", "UID", "STBID", "TS", "os", "HM"]

/-- The keys of the columns before the last three, for each action. -/
def keysOf (action : String) : List String :=
  match action with
  | "100" => firstKeys ++ ["UG", "LIC"]
  | "101" => firstKeys ++ ["OV", "UG"]
  | "102" => firstKeys ++ ["APK", "SID", "AR", "X", "Y", "TNUM", "UG", "CTP"]
  | "103" => firstKeys ++ ["APK", "TP", "RE", "UG"]
  | "104" => firstKeys ++ ["TNUM", "OTN", "UG"]
  | _ => []

/-- The columns before the last three, each with its key. -/
def keyed : AnyLogBean → List (String × Option String)
  | .logBean0 log => (keysOf "100").zip (log.first ++ [log.ug, log.lic])
  | .logBean1 log => (keysOf "101").zip (log.first ++ [log.ov, log.ug])
  | .logBean2 log => (keysOf "102").zip
      (log.first ++ [log.apk, log.sid, log.ar, log.x, log.y, log.tnum, log.ug, log.ctp])
  | .logBean3 log => (keysOf "103").zip (log.first ++ [log.apk, log.tp, log.re, log.ug])
  | .logBean4 log => (keysOf "104").zip (log.first ++ [log.tnum, log.otn, log.ug])

def common : AnyLogBean → LogBean
  | .logBean0 log => log.toLogBean
  | .logBean1 log => log.toLogBean
  | .logBean2 log => log.toLogBean
  | .logBean3 log => log.toLogBean
  | .logBean4 log => log.toLogBean

/-- A step of the switch of the bean. -/
def setAny (key : String) (value : Option String) : AnyLogBean → AnyLogBean
  | .logBean0 log => .logBean0 (log.set key value)
  | .logBean1 log => .logBean1 (log.set key value)
  | .logBean2 log => .logBean2 (log.set key value)
  | .logBean3 log => .logBean3 (log.set key value)
  | .logBean4 log => .logBean4 (log.set key value)

/-- A step writes the column of its key and no other. -/
theorem keyed_set (key : String) (value : Option String) (bean : AnyLogBean) :
    keyed (setAny key value bean) =
      (keyed bean).map fun column => if key = column.1 then (column.1, value) else column := by
  cases bean
  all_goals
    simp only [keyed, setAny, keysOf, firstKeys, LogBean.first, List.cons_append, List.nil_append,
      List.zip_cons_cons, List.zip_nil_left, List.map_cons, List.map_nil, List.cons.injEq,
      LogBean0.set.eq_def, LogBean1.set.eq_def, LogBean2.set.eq_def, LogBean3.set.eq_def,
      LogBean4.set.eq_def, LogBean.set.eq_def]
  -- the bean's own cases, then the shared ones
  all_goals split <;> dsimp only
  all_goals split <;> simp_all

theorem common_set (key : String) (value : Option String) (bean : AnyLogBean) :
    (common (setAny key value bean)).last = (common bean).last := by
  have shared : ∀ log : LogBean, (log.set key value).last = log.last := by
    intro log
    unfold LogBean.set
    split <;> rfl
  cases bean
  all_goals
    simp only [common, setAny, LogBean0.set.eq_def, LogBean1.set.eq_def, LogBean2.set.eq_def,
      LogBean3.set.eq_def, LogBean4.set.eq_def]
    split <;> first | rfl | exact shared _

/-! ### What the loop over the map fills in -/

section
variable (otherC : Char → Bool)

/-- What a key of the map puts into its field. -/
def cleanValue (entries : List (String × List String)) (key : String) : Option String :=
  (entries.find? fun entry => entry.1 = key).bind fun entry =>
    getPrintStringAndReplaceAll otherC entry.2.head? pt

/-- The loop of the bean, whichever it is. -/
theorem setAll_any {Bean : Type} {set : Bean → String → Option String → Bean}
    (any : Bean → AnyLogBean)
    (one_step : ∀ log key value, any (set log key value) = setAny key value (any log))
    (entries : List (String × List String)) (log : Bean) :
    any (setAll otherC set entries log) =
      setAll otherC (fun bean key value => setAny key value bean) entries (any log) := by
  induction entries generalizing log with
  | nil => rfl
  | cons entry rest ih =>
    simp only [setAll, List.foldl_cons] at ih ⊢
    rw [ih, one_step]

/-- The loop fills each column from its key. -/
theorem keyed_setAll (entries : List (String × List String))
    (distinct : (entries.map Prod.fst).Nodup) (bean : AnyLogBean) :
    keyed (setAll otherC (fun bean key value => setAny key value bean) entries bean) =
      (keyed bean).map fun column => if column.1 ∈ entries.map Prod.fst
        then (column.1, cleanValue otherC entries column.1) else column := by
  induction entries generalizing bean with
  | nil => simp [setAll]
  | cons entry rest ih =>
    obtain ⟨fresh, distinct⟩ := List.nodup_cons.mp distinct
    have filled := ih distinct
      (setAny entry.1 (getPrintStringAndReplaceAll otherC entry.2.head? pt) bean)
    rw [setAll, List.foldl_cons]
    rw [keyed_set, List.map_map] at filled
    refine filled.trans (List.map_congr_left fun column _ => ?_)
    obtain ⟨key, field⟩ := column
    by_cases here : entry.1 = key
    · subst here
      simp [fresh, cleanValue]
    · have there : key ∈ (entry :: rest).map Prod.fst ↔ key ∈ rest.map Prod.fst := by
        rw [List.map_cons, List.mem_cons, or_iff_right (Ne.symm here)]
      rw [Function.comp_apply, if_neg here]
      simp only [there, cleanValue, List.find?_cons, here, decide_false]

theorem common_setAll (entries : List (String × List String)) (bean : AnyLogBean) :
    (common (setAll otherC (fun bean key value => setAny key value bean) entries bean)).last =
      (common bean).last := by
  induction entries generalizing bean with
  | nil => rfl
  | cons entry rest ih => exact (ih _).trans (common_set _ _ bean)

end

/-! ### The bean of a map -/

/-- The number of columns that the `stringToBeanInit` of the bean requires. -/
def requiredOf : AnyLogBean → Nat
  | .logBean0 _ | .logBean1 _ => 14
  | .logBean2 _ => 20
  | .logBean3 _ => 16
  | .logBean4 _ => 15

def columnsOf : AnyLogBean → List (Option String)
  | .logBean0 log => log.columns
  | .logBean1 log => log.columns
  | .logBean2 log => log.columnsWith log.apk
  | .logBean3 log => log.columnsWith log.apk
  | .logBean4 log => log.columns

/-- The printed bean has the columns that its decoder requires. -/
def KeepsColumns (bean : AnyLogBean) : Prop :=
  (strSplit bean.toString).length = requiredOf bean

theorem keepsColumns_iff_accepts (bean : AnyLogBean) :
    KeepsColumns bean ↔ bean.accepts bean.toString = true := by
  have trimmed : (strSplit bean.toString).length = (strSplitTrim bean.toString).length := by
    rw [strSplitTrim, List.length_map]
  rw [KeepsColumns, trimmed]
  cases bean with
  | logBean0 log =>
    simp only [AnyLogBean.accepts, LogBean0.stringToBeanInit, requiredOf]
    split <;> simp [*]
  | logBean1 log =>
    simp only [AnyLogBean.accepts, LogBean1.stringToBeanInit, requiredOf]
    split <;> simp [*]
  | logBean2 log =>
    simp only [AnyLogBean.accepts, LogBean2.stringToBeanInit, requiredOf]
    split <;> simp [*]
  | logBean3 log =>
    simp only [AnyLogBean.accepts, LogBean3.stringToBeanInit, requiredOf]
    split <;> simp [*]
  | logBean4 log =>
    simp only [AnyLogBean.accepts, LogBean4.stringToBeanInit, requiredOf]
    split <;> simp [*]

theorem keepsColumns_iff (bean : AnyLogBean) :
    KeepsColumns bean ↔ ∀ field ∈ columnsOf bean, BarFree (print field) := by
  have printed : bean.toString = appendColumns (columnsOf bean) := by cases bean <;> rfl
  have length : (columnsOf bean).length = requiredOf bean := by cases bean <;> rfl
  have nonempty : columnsOf bean ≠ [] := by
    cases bean <;> simp [columnsOf, LogBean0.columns, LogBean1.columns, LogBean2.columnsWith,
      LogBean3.columnsWith, LogBean4.columns]
  rw [KeepsColumns, printed, strSplit_appendColumns nonempty, ← length, pieces_eq_iff]

section
variable (otherC : Char → Bool)

theorem columnsOf_keyed (bean : AnyLogBean) :
    columnsOf bean = (keyed bean).map Prod.snd ++ (common bean).last := by
  cases bean <;> rfl

/-- All columns of a fresh bean after the loop: each holds the cleaned first value of its
key, and the last three are not filled from the map. -/
theorem columnsOf_setAll (map : MultiMap) {fresh : AnyLogBean} {keys : List String}
    (empty : keyed fresh = keys.map fun key => (key, none)) :
    columnsOf (setAll otherC (fun bean key value => setAny key value bean) map.map.entries fresh) =
      keys.map (fun key => getPrintStringAndReplaceAll otherC (map.getValue key) pt) ++
        (common fresh).last := by
  rw [columnsOf_keyed, keyed_setAll otherC _ map.map.distinct, common_setAll, empty, List.map_map,
    List.map_map]
  refine congrArg (· ++ (common fresh).last) (List.map_congr_left fun key _ => ?_)
  have value : cleanValue otherC map.map.entries key =
      getPrintStringAndReplaceAll otherC (map.getValue key) pt := by
    rw [cleanValue, MultiMap.getValue, LinkedMap.get?]
    cases map.map.entries.find? fun entry => entry.1 = key <;> rfl
  dsimp only [Function.comp_apply]
  split
  · exact value
  · rename_i absent
    rw [MultiMap.getValue, LinkedMap.get?_eq_none.mpr absent]
    rfl

/-- The bean of a map with one of the five actions is a fresh one after the loop. -/
theorem getLogBean_setAll (map : MultiMap) {ip timestamp action : String} {log : LogBean}
    (read : map.getValue "A" = some action)
    (known : action ∈ ["100", "101", "102", "103", "104"])
    (stamped : LogBean.setTimestamp { ip := some ip } timestamp = some log) :
    ∃ fresh, getLogBean otherC map ip timestamp = some (setAll otherC
        (fun bean key value => setAny key value bean) map.map.entries fresh) ∧
      keyed fresh = (keysOf action).map (fun key => (key, none)) ∧ common fresh = log := by
  obtain ⟨time, day, null⟩ : ∃ time day,
      log = { ip := some ip, timestamp := time, recordDay := day } := by
    unfold LogBean.setTimestamp at stamped
    dsimp only at stamped
    split at stamped
    · cases stamped
      exact ⟨_, _, rfl⟩
    · cases stamped
  subst null
  simp only [List.mem_cons, List.not_mem_nil, or_false] at known
  rcases known with rfl | rfl | rfl | rfl | rfl
  · refine ⟨.logBean0 { toLogBean := _ }, ?_, rfl, rfl⟩
    rw [← setAll_any otherC .logBean0 fun _ _ _ => rfl]
    simp [getLogBean, stamped, read]
  · refine ⟨.logBean1 { toLogBean := _ }, ?_, rfl, rfl⟩
    rw [← setAll_any otherC .logBean1 fun _ _ _ => rfl]
    simp [getLogBean, stamped, read]
  · refine ⟨.logBean2 { toLogBean := _ }, ?_, rfl, rfl⟩
    rw [← setAll_any otherC .logBean2 fun _ _ _ => rfl]
    simp [getLogBean, stamped, read]
  · refine ⟨.logBean3 { toLogBean := _ }, ?_, rfl, rfl⟩
    rw [← setAll_any otherC .logBean3 fun _ _ _ => rfl]
    simp [getLogBean, stamped, read]
  · refine ⟨.logBean4 { toLogBean := _ }, ?_, rfl, rfl⟩
    rw [← setAll_any otherC .logBean4 fun _ _ _ => rfl]
    simp [getLogBean, stamped, read]

/-- The columns of the bean of a map with one of the five actions. -/
theorem getLogBean_columns (map : MultiMap) {ip timestamp action : String} {log : LogBean}
    (read : map.getValue "A" = some action)
    (known : action ∈ ["100", "101", "102", "103", "104"])
    (stamped : LogBean.setTimestamp { ip := some ip } timestamp = some log) :
    ∃ bean, getLogBean otherC map ip timestamp = some bean ∧
      columnsOf bean = (keysOf action).map (fun key =>
        getPrintStringAndReplaceAll otherC (map.getValue key) pt) ++ log.last := by
  obtain ⟨fresh, made, empty, own⟩ := getLogBean_setAll otherC map read known stamped
  refine ⟨_, made, ?_⟩
  rw [columnsOf_setAll otherC map empty, own]

/-- Day, `T`, time, `+`, zone, with no separator in the day and the time. -/
def WellFormed (timestamp : String) : Prop :=
  ∃ day time zone : List Char, timestamp.toList = day ++ 'T' :: (time ++ '+' :: zone) ∧
    'T' ∉ day ∧ '+' ∉ day ∧ '+' ∉ time ∧ '|' ∉ day ∧ '|' ∉ time

theorem setTimestamp_wellFormed {timestamp : String} (formed : WellFormed timestamp)
    (log : LogBean) : ∃ stamped, log.setTimestamp timestamp = some stamped ∧
      ∃ time day, stamped.last = [log.ip, some time, some day] ∧ BarFree time ∧ BarFree day := by
  obtain ⟨day, time, zone, chars, day_t, day_plus, time_plus, day_free, time_free⟩ := formed
  have t : timestamp.toList.idxOf 'T' = day.length := by
    rw [chars, List.idxOf_append_of_notMem day_t, List.idxOf_cons_self, Nat.add_zero]
  have plus : timestamp.toList.idxOf '+' = day.length + (time.length + 1) := by
    rw [chars, List.idxOf_append_of_notMem day_plus, List.idxOf_cons_ne _ (by decide),
      List.idxOf_append_of_notMem time_plus, List.idxOf_cons_self, Nat.add_zero]
  have taken_day : timestamp.toList.take day.length = day := by rw [chars, List.take_left]
  have taken_time : (timestamp.toList.take (day.length + (time.length + 1))).drop
      (day.length + 1) = time := by
    rw [chars, List.take_length_add_append, List.take_succ_cons, List.take_left, ← List.drop_drop,
      List.drop_left]
    rfl
  have length : timestamp.toList.length = day.length + (time.length + (zone.length + 1) + 1) := by
    rw [chars, List.length_append, List.length_cons, List.length_append, List.length_cons]
  have fits : timestamp.toList.idxOf 'T' < timestamp.toList.length ∧
      timestamp.toList.idxOf '+' < timestamp.toList.length ∧
        timestamp.toList.idxOf 'T' + 1 ≤ timestamp.toList.idxOf '+' := by
    rw [t, plus, length]
    omega
  refine ⟨_, if_pos fits, _, _, rfl, ?_, ?_⟩
  · rw [t, plus, taken_day, taken_time]
    simp [BarFree, day_free, time_free]
  · rw [t, taken_day]
    simpa [BarFree] using day_free

theorem barFree_cleaned (value : Option String) :
    BarFree (print (getPrintStringAndReplaceAll otherC value pt)) ↔
      ∀ text, value = some text → BarFree text := by
  cases value with
  | none => exact iff_of_true (by decide : BarFree "null") nofun
  | some text => simpa [getPrintStringAndReplaceAll, print] using barFree_clean otherC text

/-- The bean of a map with one of the five actions keeps its columns exactly when
no first value of a key that it reads contains the separator. -/
theorem keepsColumns_of_map {map : MultiMap} {ip timestamp action : String}
    (read : map.getValue "A" = some action)
    (known : action ∈ ["100", "101", "102", "103", "104"]) (ip_free : BarFree ip)
    (formed : WellFormed timestamp) :
    ∃ bean, getLogBean otherC map ip timestamp = some bean ∧
      (KeepsColumns bean ↔
        ∀ key ∈ keysOf action, ∀ value, map.getValue key = some value → BarFree value) := by
  obtain ⟨log, stamped, time, day, last, time_free, day_free⟩ :=
    setTimestamp_wellFormed formed { ip := some ip }
  obtain ⟨bean, made, columns⟩ := getLogBean_columns otherC map read known stamped
  refine ⟨bean, made, ?_⟩
  have last_free : ∀ field ∈ log.last, BarFree (print field) := by
    rw [last]
    simpa [print] using ⟨ip_free, time_free, day_free⟩
  rw [keepsColumns_iff, columns, List.forall_mem_append, and_iff_left last_free,
    List.forall_mem_map]
  exact forall₂_congr fun key _ => barFree_cleaned otherC _

/-- The text that `URLDecode_Bolt` emits for one of the five actions has the columns
that its bean requires exactly when no first value of a key that the bean reads
contains the separator. -/
theorem emitted_columns_iff {decodeTo : String → Option MultiMap} {map : MultiMap}
    {ip time data action : String} (legal : isLegalField [some ip, some time, some data] = true)
    (decoded : decodeTo (urlAnalyze data) = some map) (read : map.getValue "A" = some action)
    (known : action ∈ ["100", "101", "102", "103", "104"]) (ip_free : BarFree ip)
    (formed : WellFormed time) :
    ∃ bean, urlDecode otherC decodeTo (some ip) (some time) (some data) =
        .emitted (action, bean.toString) ∧
      getLogBean otherC map ip time = some bean ∧
      (KeepsColumns bean ↔
        ∀ key ∈ keysOf action, ∀ value, map.getValue key = some value → BarFree value) := by
  obtain ⟨bean, made, exact_columns⟩ := keepsColumns_of_map otherC read known ip_free formed
  have visible : isBlank (some action) = false := by
    simp only [List.mem_cons, List.not_mem_nil, or_false] at known
    rcases known with rfl | rfl | rfl | rfl | rfl <;> decide
  refine ⟨bean, ?_, made, exact_columns⟩
  simp [urlDecode, legal, decoded, read, visible, made]

/-- A map of action 100 with this partner. -/
def partnerMap (partner : String) : MultiMap where
  map := ⟨[("A", ["100"]), ("P", [partner])], by simp⟩
  filled := by simp

theorem sample_time : WellFormed "2016-11-18T17:51:03+08:00" :=
  ⟨"2016-11-18".toList, "17:51:03".toList, "08:00".toList, by decide⟩

/-- What the decoder makes of `/v?A=100&P=ZJYD`. -/
def decodePartner (_ : String) : Option MultiMap := some (partnerMap "ZJYD")

theorem plain_partner_keeps_columns :
    ∃ bean, urlDecode (fun _ => false) decodePartner (some "10.0.0.1")
        (some "2016-11-18T17:51:03+08:00") (some "/v?A=100&P=ZJYD") =
        .emitted ("100", bean.toString) ∧ KeepsColumns bean := by
  have legal : isLegalField [some "10.0.0.1", some "2016-11-18T17:51:03+08:00",
    some "/v?A=100&P=ZJYD"] = true := by decide
  have decoded : decodePartner (urlAnalyze "/v?A=100&P=ZJYD") = some (partnerMap "ZJYD") := rfl
  obtain ⟨bean, emitted, _, exact_columns⟩ := emitted_columns_iff (fun _ => false) legal decoded
    (by decide : _ = some "100") (by decide) (by decide) sample_time
  refine ⟨bean, emitted, exact_columns.mpr ?_⟩
  have free : ∀ key ∈ keysOf "100",
      ((partnerMap "ZJYD").getValue key).all (fun value => decide (BarFree value)) = true := by
    decide
  intro key reads value present
  simpa [present] using free key reads

/-- A partner with a separator in it. -/
theorem separator_adds_column :
    ¬ ∀ (otherC : Char → Bool) (map : MultiMap) (ip timestamp action : String) (bean : AnyLogBean),
      map.getValue "A" = some action → action ∈ ["100", "101", "102", "103", "104"] →
        BarFree ip → WellFormed timestamp → getLogBean otherC map ip timestamp = some bean →
          KeepsColumns bean := by
  intro keeps
  have read : (partnerMap "ZJ|YD").getValue "A" = some "100" := by decide
  obtain ⟨bean, made, exact_columns⟩ := keepsColumns_of_map (fun _ => false) read (by decide)
    (by decide : BarFree "10.0.0.1") sample_time
  have kept := keeps _ _ _ _ _ bean read (by decide) (by decide) sample_time made
  have free := exact_columns.mp kept "P" (by decide) "ZJ|YD" (by decide)
  revert free
  decide

end

end GitvTime.Guarantees.Launcher
