import GitvTime.Guarantees.Launcher.ApkParsing
import GitvTime.Guarantees.Launcher.Sanitising
import GitvTime.Source.TextFiles

/-!
# The shape of the expanded lines

The values of the query string are cleaned while the APK is still json. What
`FilterData_Bolt` decodes out of it is printed as it is, so an escaped separator or
line break comes back as a column or a line of its own.
-/
namespace GitvTime.Guarantees.Launcher.ExpandedLines
open GitvTime.Support GitvTime.Source.StringHandle GitvTime.Source.TextFiles
open GitvTime.Source.Launcher GitvTime.Source.Launcher.ApkParseUtils
open GitvTime.Guarantees.Launcher.ApkParsing

/-! ### What the table expects -/

/-- The columns of the table of an action. -/
def width (action : String) : Nat := if action = "102" then 38 else 34

/-- One line, as wide as the table, with the APK from the tenth column on. -/
structure InShape (width : Nat) (apkBean : ApkBean) (newContent : String) : Prop where
  line : BreakFree newContent
  columns : (strSplit newContent).length = width
  apk : ((strSplit newContent).drop 9).take 19 = apkBean.columns.map print

/-- The APK of a record. -/
def apkColumn (content : String) : String := (strSplitTrim content)[9]?.getD ""

/-- The strings out of the json that a bean prints: the activity and the attributes. -/
def decodedTexts (apkBean : ApkBean) : List (Option String) :=
  apkBean.initActivity.2 :: extrasOf apkBean

/-- No separator and no line break. -/
structure OneColumn (text : String) : Prop where
  free : BarFree text
  line : BreakFree text

/-- The activity that a json names: its action, else its class, else its package. -/
def activityOf (maps : LinkedMap String Json) : Option String :=
  match textOf (valueOf maps "mAction") with
  | some mAction => some mAction
  | none =>
    match textOf (member (valueOf maps "mComponent") "mClass") with
    | some cls => some cls
    | none => textOf (valueOf maps "mPackage")

/-- The strings that the table gets from a json which converts. -/
def jsonTexts (maps : LinkedMap String Json) : List (Option String) :=
  activityOf maps :: attributes.map fun field =>
    textOf (member (member (valueOf maps "mExtras") "mMap") (readName field.1))

/-! ### Printed columns -/

theorem appendColumns_print {fields : List (Option String)} (nonempty : fields ≠ []) :
    appendColumns fields = strJoin (fields.map print) := by
  rw [← appendColumns_some (by simpa using nonempty)]
  clear nonempty
  induction fields with
  | nil => rfl
  | cons field rest ih =>
    cases rest with
    | nil => rfl
    | cons next rest => exact congrArg (strJoin₂ (print field)) ih

theorem breakFree_appendColumns {fields : List (Option String)} (nonempty : fields ≠ []) :
    BreakFree (appendColumns fields) ↔ ∀ field ∈ fields, BreakFree (print field) := by
  rw [appendColumns_print nonempty, breakFree_strJoin (by simpa using nonempty), List.forall_mem_map]

theorem pieces_of_barFree {fields : List (Option String)}
    (free : ∀ field ∈ fields, BarFree (print field)) :
    (fields.map print).flatMap strSplit = fields.map print := by
  induction fields with
  | nil => rfl
  | cons field rest ih =>
    obtain ⟨here, later⟩ := List.forall_mem_cons.mp free
    rw [List.map_cons, List.flatMap_cons, strSplit_of_barFree here, ih later]
    rfl

/-- A line in a column splits as if its columns stood there themselves. -/
theorem strSplit_nested (before after : List (Option String)) {fields : List (Option String)}
    (nonempty : fields ≠ []) :
    strSplit (appendColumns (before ++ [some (appendColumns fields)] ++ after)) =
      ((before ++ fields ++ after).map print).flatMap strSplit := by
  have nested : print (some (appendColumns fields)) = appendColumns fields := rfl
  rw [strSplit_appendColumns (by simp)]
  simp only [List.map_append, List.map_cons, List.map_nil, List.flatMap_append, List.flatMap_cons,
    List.flatMap_nil, List.append_nil, nested, strSplit_appendColumns nonempty]

theorem breakFree_nested (before after : List (Option String)) {fields : List (Option String)}
    (nonempty : fields ≠ []) :
    BreakFree (appendColumns (before ++ [some (appendColumns fields)] ++ after)) ↔
      ∀ field ∈ before ++ fields ++ after, BreakFree (print field) := by
  have nested : print (some (appendColumns fields)) = appendColumns fields := rfl
  rw [breakFree_appendColumns (by simp)]
  simp only [List.forall_mem_append, List.forall_mem_singleton, nested,
    breakFree_appendColumns nonempty]

/-! ### The columns of the APK -/

/-- Neither the kind of the activity nor a missing string can break a line. -/
theorem columns_iff {P : String → Prop} (implicit : P "implicit") (explicit : P "explicit")
    (null : P "null") (apkBean : ApkBean) :
    (∀ field ∈ apkBean.columns, P (print field)) ↔
      ∀ text, some text ∈ decodedTexts apkBean → P text := by
  have columns : apkBean.columns = some apkBean.initActivity.1 :: decodedTexts apkBean := rfl
  have kind : P (print (some apkBean.initActivity.1)) := by
    unfold ApkBean.initActivity
    split
    · exact implicit
    · split <;> exact explicit
  rw [columns, List.forall_mem_cons, and_iff_right kind]
  constructor
  · intro all text listed
    exact all (some text) listed
  · intro all field listed
    cases field with
    | none => exact null
    | some text => exact all text listed

theorem decodedTexts_filled (maps : LinkedMap String Json) :
    decodedTexts (filled maps) = jsonTexts maps := by
  have cls : (filled maps).cls = _ := congrArg Prod.fst (filled_component maps)
  have activity : (filled maps).initActivity.2 = activityOf maps := by
    unfold ApkBean.initActivity activityOf
    rw [filled_mAction, cls, filled_mPackage]
    dsimp only
    cases textOf (valueOf maps "mAction") with
    | some mAction => rfl
    | none => cases textOf (member (valueOf maps "mComponent") "mClass") <;> rfl
  rw [decodedTexts, jsonTexts, activity, filled_extras]

/-- A record of separator-free pieces with the tenth one expanded. -/
theorem inShape_iff {pieces : List String} (free : ∀ piece ∈ pieces, BarFree piece)
    (wide : 9 < pieces.length) (apkBean : ApkBean) :
    InShape (pieces.length + 18) apkBean (appendColumns ((pieces.take 9).map some ++
        [some apkBean.toString] ++ (pieces.drop 10).map some)) ↔
      (∀ text, some text ∈ decodedTexts apkBean → OneColumn text) ∧
        ∀ piece ∈ pieces.eraseIdx 9, BreakFree piece := by
  have nonempty : apkBean.columns ≠ [] := by simp [ApkBean.columns]
  have split := strSplit_nested ((pieces.take 9).map some) ((pieces.drop 10).map some) nonempty
  have single := breakFree_nested ((pieces.take 9).map some) ((pieces.drop 10).map some) nonempty
  have total : ((pieces.take 9).map some ++ apkBean.columns ++
      (pieces.drop 10).map some).length = pieces.length + 18 := by
    have nineteen : apkBean.columns.length = 19 := rfl
    simp only [List.length_append, List.length_map, List.length_take, List.length_drop, nineteen]
    omega
  have count := pieces_eq_iff ((pieces.take 9).map some ++ apkBean.columns ++
      (pieces.drop 10).map some)
  have front : ∀ field ∈ (pieces.take 9).map some, BarFree (print field) := by
    intro field listed
    obtain ⟨piece, taken, rfl⟩ := List.mem_map.mp listed
    exact free piece (List.take_subset _ _ taken)
  have back : ∀ field ∈ (pieces.drop 10).map some, BarFree (print field) := by
    intro field listed
    obtain ⟨piece, dropped, rfl⟩ := List.mem_map.mp listed
    exact free piece (List.drop_subset _ _ dropped)
  rw [total, ← split, List.forall_mem_append, List.forall_mem_append, and_iff_right front,
    and_iff_left back, columns_iff (by decide) (by decide) (by decide)] at count
  rw [List.forall_mem_append, List.forall_mem_append,
    columns_iff (by decide) (by decide) (by decide)] at single
  have rest : (∀ piece ∈ pieces.eraseIdx 9, BreakFree piece) ↔
      (∀ field ∈ (pieces.take 9).map some, BreakFree (print field)) ∧
        ∀ field ∈ (pieces.drop 10).map some, BreakFree (print field) := by
    rw [List.eraseIdx_eq_take_drop_succ, List.forall_mem_append, List.forall_mem_map,
      List.forall_mem_map]
    rfl
  rw [rest]
  constructor
  · intro shape
    have bars := count.mp shape.columns
    obtain ⟨⟨before, middle⟩, after⟩ := single.mp shape.line
    exact ⟨fun text listed => ⟨bars text listed, middle text listed⟩, before, after⟩
  · intro fits
    obtain ⟨texts, before, after⟩ := fits
    have bars := fun text listed => (texts text listed).free
    constructor
    · exact single.mpr ⟨⟨before, fun text listed => (texts text listed).line⟩, after⟩
    · exact count.mpr bars
    · have all := (columns_iff (by decide) (by decide) (by decide) apkBean).mpr bars
      have nine : ((pieces.take 9).map some).length = 9 := by
        rw [List.length_map, List.length_take]
        omega
      rw [ApkBean.toString, split, pieces_of_barFree]
      · rw [List.map_append, List.map_append, List.append_assoc,
          List.drop_append_of_le_length (by simp; omega), List.drop_of_length_le (by simp),
          List.nil_append]
        exact List.take_left' rfl
      · intro field listed
        rcases List.mem_append.mp listed with listed | listed
        · rcases List.mem_append.mp listed with listed | listed
          · exact front field listed
          · exact all field listed
        · exact back field listed

/-! ### The records that the bolt expands -/

/-- What was emitted is the line of a bean with an APK that parsed. -/
theorem emitted_line {parse : String → Option ApkBean} {action newContent : String}
    {decoded : Bool × LogBean} {apk : Option String} {toStringApk : String → String}
    (emitted : FilterDataBolt.expand parse action decoded apk toStringApk =
      .emitted (action, newContent)) :
    decoded.1 = true ∧ ∃ apkBean, parse (quoted (apk.getD "")) = some apkBean ∧
      newContent = toStringApk apkBean.toString := by
  unfold FilterDataBolt.expand at emitted
  split at emitted
  · rename_i read
    split at emitted
    · rename_i json _
      split at emitted
      · rename_i apkBean parsed
        cases emitted
        exact ⟨read, apkBean, parsed, rfl⟩
      · cases emitted
    · cases emitted
    · cases emitted
  · cases emitted

theorem take_positions {pieces : List String} {count : Nat} (enough : count ≤ pieces.length) :
    ((List.range count).map fun index => pieces[index]?) = (pieces.take count).map some := by
  have taken := read_positions (pieces.take count)
  rw [List.length_take, Nat.min_eq_left enough] at taken
  rw [← taken]
  apply List.map_congr_left
  intro index listed
  rw [List.getElem?_take, if_pos (List.mem_range.mp listed)]

theorem drop_positions (pieces : List String) (skipped : Nat) :
    ((List.range (pieces.length - skipped)).map fun index => pieces[skipped + index]?) =
      (pieces.drop skipped).map some := by
  have dropped := read_positions (pieces.drop skipped)
  rw [List.length_drop] at dropped
  rw [← dropped]
  apply List.map_congr_left
  intro index _
  rw [List.getElem?_drop]

/-- A bean that was read off a record prints the record's own pieces around the APK. -/
theorem line_of_pieces {pieces : List String} {first after : List (Option String)} {behind : Nat}
    (length : pieces.length = 10 + behind)
    (before : first = (List.range 9).map fun index => pieces[index]?)
    (rest : after = (List.range behind).map fun index => pieces[10 + index]?) (apkTrans : String) :
    appendColumns (first ++ [some apkTrans] ++ after) =
      appendColumns ((pieces.take 9).map some ++ [some apkTrans] ++ (pieces.drop 10).map some) := by
  have count : pieces.length - 10 = behind := by omega
  rw [before, rest, take_positions (by omega), ← count, drop_positions]

/-- Both expanded actions. -/
theorem emitted_pieces {parse : String → Option ApkBean} {action content newContent : String}
    (expanded : action = "102" ∨ action = "103")
    (emitted : FilterDataBolt.execute parse action content = .emitted (action, newContent)) :
    (strSplitTrim content).length + 18 = width action ∧
      ∃ apkBean, parse (quoted (apkColumn content)) = some apkBean ∧
        newContent = appendColumns (((strSplitTrim content).take 9).map some ++
          [some apkBean.toString] ++ ((strSplitTrim content).drop 10).map some) := by
  rcases expanded with rfl | rfl
  · rw [FilterDataBolt.execute_102] at emitted
    obtain ⟨read, apkBean, parsed, line⟩ := emitted_line emitted
    dsimp only at read parsed line
    unfold LogBean2.stringToBeanInit at read parsed line
    dsimp only at read parsed line
    split at read
    · rename_i length
      rw [if_pos length] at parsed line
      refine ⟨by rw [length]; rfl, apkBean, parsed, line.trans ?_⟩
      have twenty : (strSplitTrim content).length = 10 + 10 := length
      exact line_of_pieces twenty rfl rfl apkBean.toString
    · cases read
  · rw [FilterDataBolt.execute_103] at emitted
    obtain ⟨read, apkBean, parsed, line⟩ := emitted_line emitted
    dsimp only at read parsed line
    unfold LogBean3.stringToBeanInit at read parsed line
    dsimp only at read parsed line
    split at read
    · rename_i length
      rw [if_pos length] at parsed line
      refine ⟨by rw [length]; rfl, apkBean, parsed, line.trans ?_⟩
      have sixteen : (strSplitTrim content).length = 10 + 6 := length
      exact line_of_pieces sixteen rfl rfl apkBean.toString
    · cases read

/-- An expanded record has the shape of its table exactly when no string that came out of
the json has a separator or a line break in it, and no other column a line break. -/
theorem expanded_in_shape_iff {readValue : String → Reading} {action content newContent : String}
    (expanded : action = "102" ∨ action = "103")
    (emitted : FilterDataBolt.execute (jsonToBean readValue) action content =
      .emitted (action, newContent)) :
    ∃ apkBean, jsonToBean readValue (quoted (apkColumn content)) = some apkBean ∧
      (InShape (width action) apkBean newContent ↔
        (∀ text, some text ∈ decodedTexts apkBean → OneColumn text) ∧
          ∀ piece ∈ (strSplitTrim content).eraseIdx 9, BreakFree piece) ∧
      ∀ maps, readValue (quoted (apkColumn content)) = .map maps → Converts maps →
        decodedTexts apkBean = jsonTexts maps := by
  obtain ⟨length, apkBean, parsed, line⟩ := emitted_pieces expanded emitted
  have wide : 9 < (strSplitTrim content).length := by
    have least : 34 ≤ width action := by
      unfold width
      split <;> decide
    omega
  refine ⟨apkBean, parsed, ?_, ?_⟩
  · rw [line, ← length]
    exact inShape_iff (fun piece listed => (plain_of_mem_strSplitTrim listed).free) wide apkBean
  · intro maps read converts
    rw [jsonToBean_of_converts read converts] at parsed
    cases parsed
    exact decodedTexts_filled maps

/-! ### A record of action 102 -/

def front : List String :=
  ["102", "ZJYD", "00:24:68:c9:69:17", "0.0.2", "u1", "s1", "20150101080045", "4.4.2", "Q5"]

def back : List String :=
  ["188", "2", "0", "0", "1", "g1", "1", "10.0.0.1", "2015-01-01 08:00:45", "2015-01-01"]

def record (json : String) : String := strJoin (front ++ [json] ++ back)

theorem record_read {json : String} (plain : Plain json) :
    strSplitTrim (record json) = front ++ [json] ++ back := by
  have around : ∀ piece ∈ front ++ back, BarFree piece ∧ trim piece = piece := by decide +kernel
  apply strSplitTrim_strJoin (by simp)
  intro piece listed
  rcases List.mem_append.mp listed with listed | after
  · rcases List.mem_append.mp listed with before | here
    · obtain ⟨free, trimmed⟩ := around piece (List.mem_append_left _ before)
      exact ⟨free, trimmed⟩
    · cases List.mem_singleton.mp here
      exact plain
  · obtain ⟨free, trimmed⟩ := around piece (List.mem_append_right _ after)
    exact ⟨free, trimmed⟩

theorem apkColumn_record {json : String} (plain : Plain json) : apkColumn (record json) = json := by
  rw [apkColumn, record_read plain]
  rfl

theorem record_emitted {parse : String → Option ApkBean} {json : String} {apkBean : ApkBean}
    (plain : Plain json) (parsed : parse (quoted json) = some apkBean) :
    FilterDataBolt.execute parse "102" (record json) = .emitted ("102",
      appendColumns (front.map some ++ [some apkBean.toString] ++ back.map some)) := by
  have accepted : LogBean2.stringToBeanInit {} (record json) =
      (true, LogBean2.init {} (front ++ [json] ++ back)) := by
    simp only [LogBean2.stringToBeanInit, record_read plain]
    rfl
  have passes : (LogBean2.init {} (front ++ [json] ++ back)).fieldsFilter = some true := by
    have filtered : LogBean.fieldsFilter { mc := some "00:24:68:c9:69:17", p := some "ZJYD" } =
        some true := by decide
    exact filtered
  have apk : (LogBean2.init {} (front ++ [json] ++ back)).apk = some json := rfl
  rw [FilterDataBolt.execute_102, accepted]
  unfold FilterDataBolt.expand
  rw [if_pos rfl]
  dsimp only
  rw [passes, apk]
  dsimp only
  rw [quoted] at parsed
  rw [parsed]
  rfl

/-- What Jackson makes of a json with an action. -/
def readAction (mAction : String) (_ : String) : Reading :=
  .map ⟨[("mAction", .text mAction)], by simp⟩

theorem readAction_parsed (mAction json : String) :
    jsonToBean (readAction mAction) json = some { mAction := some mAction } := rfl

def plainJson : String := "\x7b'mAction':'VodActivity'\x7d"

/-- The action is `a|b`, escaped. -/
def escapedJson : String := "\x7b'mAction':'a\\u007cb'\x7d"

theorem plain_action_in_shape :
    ∃ newContent, FilterDataBolt.execute (jsonToBean (readAction "VodActivity")) "102"
        (record plainJson) = .emitted ("102", newContent) ∧
      InShape (width "102") { mAction := some "VodActivity" } newContent := by
  have plain : Plain plainJson := ⟨by decide, by decide⟩
  have emitted := record_emitted plain (readAction_parsed "VodActivity" (quoted plainJson))
  obtain ⟨apkBean, parsed, shape, _⟩ := expanded_in_shape_iff (.inl rfl) emitted
  rw [apkColumn_record plain, readAction_parsed] at parsed
  cases parsed
  refine ⟨_, emitted, ?_⟩
  apply shape.mpr
  constructor
  · have texts : ∀ field ∈ decodedTexts { mAction := some "VodActivity" },
        BarFree (print field) ∧ BreakFree (print field) := by decide
    intro text listed
    obtain ⟨free, line⟩ := texts (some text) listed
    exact ⟨free, line⟩
  · rw [record_read plain]
    have broken : ∀ piece ∈ (front ++ [plainJson] ++ back).eraseIdx 9, BreakFree piece := by decide
    exact broken

/-- An escaped separator adds a column. -/
theorem escaped_separator_adds_column :
    ¬ ∀ (readValue : String → Reading) (action content newContent : String) (apkBean : ApkBean),
      action = "102" ∨ action = "103" →
        FilterDataBolt.execute (jsonToBean readValue) action content =
            .emitted (action, newContent) →
          jsonToBean readValue (quoted (apkColumn content)) = some apkBean →
            InShape (width action) apkBean newContent := by
  intro shapes
  have plain : Plain escapedJson := ⟨by decide, by decide⟩
  have emitted := record_emitted plain (readAction_parsed "a|b" (quoted escapedJson))
  have shape := shapes (readAction "a|b") "102" (record escapedJson) _ { mAction := some "a|b" }
    (.inl rfl) emitted (readAction_parsed "a|b" _)
  have free : ∀ piece ∈ front ++ [escapedJson] ++ back, BarFree piece := by
    rw [← record_read plain]
    exact fun piece listed => (plain_of_mem_strSplitTrim listed).free
  have texts := ((inShape_iff free (by decide) { mAction := some "a|b" }).mp shape).1
  exact absurd (texts "a|b" List.mem_cons_self).free (by decide)

end GitvTime.Guarantees.Launcher.ExpandedLines
