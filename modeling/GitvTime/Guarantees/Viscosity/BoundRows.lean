import GitvTime.Guarantees.Viscosity.WiredTuples

/-!
# The row that is tested is the row that is incremented

Between a line and its row the values change places several times: columns become
fields, fields become arguments, arguments end up behind the `?` of a statement. In all
four pipelines each of them arrives under the key column that it belongs to.
-/
namespace GitvTime.Guarantees.Viscosity.BoundRows
open GitvTime.Source.Numbers GitvTime.Source.StringHandle GitvTime.Source.Viscosity
open GitvTime.Source.Viscosity.Wiring GitvTime.Guarantees.Viscosity.WiredTuples

/-! ### The line's own row -/

/-- The primary keys of the four tables. -/
def primaryKey : String → List String
  | "vod_viscosity_user" => ["partner", "logDate", "mac", "srcName", "chnName", "chnId",
      "albumName", "albumId", "playOrder", "videoId"]
  | "vod_viscosity_program" => ["partner", "logDate", "srcName", "chnName", "chnId", "albumName",
      "albumId", "playOrder", "videoId", "province", "city"]
  | "liv_viscosity_user" => ["partner", "logDate", "mac", "srcName", "chnCode", "albumName",
      "playOrder"]
  | "liv_viscosity_program" => ["partner", "logDate", "srcName", "chnCode", "albumName",
      "playOrder", "province", "city"]
  | _ => []

/-- Where the columns of a line stand. -/
def positions : Kind → List (String × Nat)
  | .vod => [("partner", 3), ("mac", 5), ("albumId", 9), ("albumName", 10), ("videoId", 11),
      ("timeLength", 13), ("chnId", 14), ("chnName", 15), ("srcId", 16), ("playLength", 19),
      ("playOrder", 22), ("logDate", 30), ("city", 33), ("province", 35)]
  | .liv => [("partner", 3), ("mac", 5), ("albumName", 10), ("timeLength", 13), ("srcId", 16),
      ("playLength", 19), ("playOrder", 22), ("chnCode", 28), ("logDate", 33), ("city", 36),
      ("province", 37)]

/-- The line's text for a column. -/
def ownText (kind : Kind) (contents : List String) (column : String) : Option String :=
  ((positions kind).lookup column).bind fun position => contents[position]?

section
variable (digits : CharacterDigit) (srcNames : String → Option String)
  (parseTimestamp : String → Option Int)

/-- The line's value for a column of a key. -/
def ownValue (kind : Kind) (contents : List String) (column : String) : Option Value :=
  if column = "srcName" then ((ownText kind contents "srcId").bind srcNames).map .text
  else if column = "logDate" then
    (ownText kind contents "logDate").map fun logDate => .ofDate (parseTimestamp logDate)
  else (ownText kind contents column).map .text

/-- The line's length under a column. -/
def ownLength (kind : Kind) (contents : List String) (column : String) : Option Long :=
  ((ownText kind contents column).bind (parseLong digits)).map (.ofInt 64)

/-! ### What a statement gets bound -/

/-- The columns of a `where` clause with their values. -/
def whereOf (columns : List String) (values : List Value) : Option (List (String × Value)) :=
  if values.length = columns.length then some (columns.zip values) else none

/-- The increments of an update and the row that it addresses. -/
def boundOf (statement : UpdateStatement) (values : List Value) :
    Option (List (String × Long) × List (String × Value)) :=
  (bindSet statement.set values).bind fun bound =>
    (whereOf statement.whereColumns bound.2).map fun row => (bound.1, row)

/-- A click, the play length and, for a row that was not there, the time length. -/
def increments (backCode : Nat) (playLength timeLength : Long) : List (String × Long) :=
  if backCode = 0 then
    [("click_num", 1), ("playLength", playLength), ("timeLength", timeLength)]
  else [("click_num", 1), ("playLength", playLength)]

/-- One row is read and written, in one table and under its whole primary key. Each
column of it has the line's own value, and the line's own lengths are added. -/
def TestedIsIncremented (wires : Wires) (kind : Kind) (contents : List String)
    (input : Wiring.Tuple) : Prop :=
  ∃ row playLength timeLength,
    (row.map Prod.fst).Perm (primaryKey wires.read.table) ∧
    (∀ entry ∈ row, ownValue srcNames parseTimestamp kind contents entry.1 = some entry.2) ∧
    ownLength digits kind contents "playLength" = some playLength ∧
    ownLength digits kind contents "timeLength" = some timeLength ∧
    (wires.viscosity input).bind (whereOf wires.read.whereColumns) = some row ∧
    ∀ backCode, ∃ statement values, wires.write backCode input = some (statement, values) ∧
      statement.table = wires.read.table ∧
        boundOf statement values = some (increments backCode playLength timeLength, row)

end

/-! ### The line's values under the key columns -/

section
variable {digits : CharacterDigit} {srcNames : String → Option String}
  {parseTimestamp : String → Option Int} {kind : Kind} {contents : List String}

theorem ownText_at {column text : String} {position : Nat}
    (stands : (positions kind).lookup column = some position)
    (found : contents[position]? = some text) : ownText kind contents column = some text := by
  rw [ownText, stands, Option.bind_some, found]

theorem ownValue_text {column text : String}
    (plain : column ∉ ["srcName", "logDate"]) (found : ownText kind contents column = some text) :
    ownValue srcNames parseTimestamp kind contents column = some (.text text) := by
  rw [List.mem_cons, List.mem_singleton, not_or] at plain
  rw [ownValue, if_neg plain.1, if_neg plain.2, found]
  rfl

theorem ownLength_of {column text : String} {length : Int}
    (found : ownText kind contents column = some text) (parsed : parseLong digits text = some length) :
    ownLength digits kind contents column = some (.ofInt 64 length) := by
  rw [ownLength, found, Option.bind_some, parsed]
  rfl

/-- All key columns of the vod tables. -/
def vodRow (parseTimestamp : String → Option Int) (srcName : String) (dis : VodDis) :
    List (String × Value) :=
  [("partner", .text dis.partner), ("mac", .text dis.mac), ("srcName", .text srcName),
    ("chnName", .text dis.chnName), ("chnId", .text dis.chnId), ("albumName", .text dis.albumName),
    ("albumId", .text dis.albumId), ("playOrder", .text dis.playOrder),
    ("videoId", .text dis.videoId), ("province", .text dis.province), ("city", .text dis.city),
    ("logDate", .ofDate (parseTimestamp dis.logDate))]

/-- All key columns of the live tables. -/
def livRow (parseTimestamp : String → Option Int) (srcName : String) (dis : LivDis) :
    List (String × Value) :=
  [("partner", .text dis.partner), ("mac", .text dis.mac), ("srcName", .text srcName),
    ("chnCode", .text dis.chnCode), ("albumName", .text dis.albumName),
    ("playOrder", .text dis.playOrder), ("province", .text dis.province), ("city", .text dis.city),
    ("logDate", .ofDate (parseTimestamp dis.logDate))]

/-- What `TopFilter_Bolt` takes out of a vod line stands in the columns of the line. -/
structure VodOwn (contents : List String) (dis : VodDis) : Prop where
  row : ∀ {srcNames : String → Option String} {parseTimestamp : String → Option Int}
    {srcName : String}, srcNames dis.srcId = some srcName →
      ∀ entry ∈ vodRow parseTimestamp srcName dis,
        ownValue srcNames parseTimestamp .vod contents entry.1 = some entry.2
  playLength : ownText .vod contents "playLength" = some dis.playLength
  timeLength : ownText .vod contents "timeLength" = some dis.timeLength

structure LivOwn (contents : List String) (dis : LivDis) : Prop where
  row : ∀ {srcNames : String → Option String} {parseTimestamp : String → Option Int}
    {srcName : String}, srcNames dis.srcId = some srcName →
      ∀ entry ∈ livRow parseTimestamp srcName dis,
        ownValue srcNames parseTimestamp .liv contents entry.1 = some entry.2
  playLength : ownText .liv contents "playLength" = some dis.playLength
  timeLength : ownText .liv contents "timeLength" = some dis.timeLength

theorem vodOwn_of_vodDis {dis : VodDis} (taken : vodDis contents = some dis) :
    VodOwn contents dis := by
  unfold vodDis at taken
  obtain ⟨partner, at_partner, taken⟩ := Option.bind_eq_some_iff.mp taken
  obtain ⟨mac, at_mac, taken⟩ := Option.bind_eq_some_iff.mp taken
  obtain ⟨srcId, at_srcId, taken⟩ := Option.bind_eq_some_iff.mp taken
  obtain ⟨chnName, at_chnName, taken⟩ := Option.bind_eq_some_iff.mp taken
  obtain ⟨chnId, at_chnId, taken⟩ := Option.bind_eq_some_iff.mp taken
  obtain ⟨albumName, at_albumName, taken⟩ := Option.bind_eq_some_iff.mp taken
  obtain ⟨albumId, at_albumId, taken⟩ := Option.bind_eq_some_iff.mp taken
  obtain ⟨playOrder, at_playOrder, taken⟩ := Option.bind_eq_some_iff.mp taken
  obtain ⟨videoId, at_videoId, taken⟩ := Option.bind_eq_some_iff.mp taken
  obtain ⟨timeLength, at_timeLength, taken⟩ := Option.bind_eq_some_iff.mp taken
  obtain ⟨playLength, at_playLength, taken⟩ := Option.bind_eq_some_iff.mp taken
  obtain ⟨logDate, at_logDate, taken⟩ := Option.bind_eq_some_iff.mp taken
  obtain ⟨city, at_city, taken⟩ := Option.bind_eq_some_iff.mp taken
  obtain ⟨province, at_province, taken⟩ := Option.bind_eq_some_iff.mp taken
  cases taken
  constructor
  · intro srcNames parseTimestamp srcName named
    have own_srcName : ownValue srcNames parseTimestamp .vod contents "srcName" =
        some (.text srcName) := by
      rw [ownValue, if_pos rfl, ownText_at rfl at_srcId, Option.bind_some, named]
      rfl
    have own_logDate : ownValue srcNames parseTimestamp .vod contents "logDate" =
        some (.ofDate (parseTimestamp logDate)) := by
      rw [ownValue, if_neg (by decide), if_pos rfl, ownText_at rfl at_logDate]
      rfl
    simp only [vodRow, List.forall_mem_cons]
    refine ⟨ownValue_text (by decide) (ownText_at rfl at_partner),
      ownValue_text (by decide) (ownText_at rfl at_mac), own_srcName,
      ownValue_text (by decide) (ownText_at rfl at_chnName),
      ownValue_text (by decide) (ownText_at rfl at_chnId),
      ownValue_text (by decide) (ownText_at rfl at_albumName),
      ownValue_text (by decide) (ownText_at rfl at_albumId),
      ownValue_text (by decide) (ownText_at rfl at_playOrder),
      ownValue_text (by decide) (ownText_at rfl at_videoId),
      ownValue_text (by decide) (ownText_at rfl at_province),
      ownValue_text (by decide) (ownText_at rfl at_city), own_logDate,
      fun _ listed => absurd listed List.not_mem_nil⟩
  · exact ownText_at rfl at_playLength
  · exact ownText_at rfl at_timeLength

theorem livOwn_of_livDis {dis : LivDis} (taken : livDis contents = some dis) :
    LivOwn contents dis := by
  unfold livDis at taken
  obtain ⟨partner, at_partner, taken⟩ := Option.bind_eq_some_iff.mp taken
  obtain ⟨mac, at_mac, taken⟩ := Option.bind_eq_some_iff.mp taken
  obtain ⟨srcId, at_srcId, taken⟩ := Option.bind_eq_some_iff.mp taken
  obtain ⟨chnCode, at_chnCode, taken⟩ := Option.bind_eq_some_iff.mp taken
  obtain ⟨albumName, at_albumName, taken⟩ := Option.bind_eq_some_iff.mp taken
  obtain ⟨playOrder, at_playOrder, taken⟩ := Option.bind_eq_some_iff.mp taken
  obtain ⟨timeLength, at_timeLength, taken⟩ := Option.bind_eq_some_iff.mp taken
  obtain ⟨playLength, at_playLength, taken⟩ := Option.bind_eq_some_iff.mp taken
  obtain ⟨logDate, at_logDate, taken⟩ := Option.bind_eq_some_iff.mp taken
  obtain ⟨city, at_city, taken⟩ := Option.bind_eq_some_iff.mp taken
  obtain ⟨province, at_province, taken⟩ := Option.bind_eq_some_iff.mp taken
  cases taken
  constructor
  · intro srcNames parseTimestamp srcName named
    have own_srcName : ownValue srcNames parseTimestamp .liv contents "srcName" =
        some (.text srcName) := by
      rw [ownValue, if_pos rfl, ownText_at rfl at_srcId, Option.bind_some, named]
      rfl
    have own_logDate : ownValue srcNames parseTimestamp .liv contents "logDate" =
        some (.ofDate (parseTimestamp logDate)) := by
      rw [ownValue, if_neg (by decide), if_pos rfl, ownText_at rfl at_logDate]
      rfl
    simp only [livRow, List.forall_mem_cons]
    refine ⟨ownValue_text (by decide) (ownText_at rfl at_partner),
      ownValue_text (by decide) (ownText_at rfl at_mac), own_srcName,
      ownValue_text (by decide) (ownText_at rfl at_chnCode),
      ownValue_text (by decide) (ownText_at rfl at_albumName),
      ownValue_text (by decide) (ownText_at rfl at_playOrder),
      ownValue_text (by decide) (ownText_at rfl at_province),
      ownValue_text (by decide) (ownText_at rfl at_city), own_logDate,
      fun _ listed => absurd listed List.not_mem_nil⟩
  · exact ownText_at rfl at_playLength
  · exact ownText_at rfl at_timeLength

/-! ### Each of the four pipelines -/

/-- The columns of a key out of a row with more columns. -/
def keyed (columns : List String) (row : List (String × Value)) : List (String × Value) :=
  row.filter fun entry => entry.1 ∈ columns

/-- Wires that implement a pipeline test the row that they increment, when the pipeline
does on the record. -/
theorem tested_of_implements {τ : Type} {wires : Wires} {pipeline : Pipeline τ}
    {input : Wiring.Tuple} {record : τ} {row : List (String × Value)} {playLength timeLength : Long}
    (implements : Implements wires pipeline input record)
    (own : ∀ entry ∈ row, ownValue srcNames parseTimestamp kind contents entry.1 = some entry.2)
    (own_playLength : ownLength digits kind contents "playLength" = some playLength)
    (own_timeLength : ownLength digits kind contents "timeLength" = some timeLength)
    (key : (row.map Prod.fst).Perm (primaryKey pipeline.read.table))
    (read : whereOf pipeline.read.whereColumns (pipeline.bindRead record) = some row)
    (insert_table : pipeline.insertNew.table = pipeline.read.table)
    (update_table : pipeline.updateNew.table = pipeline.read.table)
    (inserted : boundOf pipeline.insertNew (pipeline.bindInsert record) =
      some ([("click_num", 1), ("playLength", playLength), ("timeLength", timeLength)], row))
    (updated : boundOf pipeline.updateNew (pipeline.bindUpdate record) =
      some ([("click_num", 1), ("playLength", playLength)], row)) :
    TestedIsIncremented digits srcNames parseTimestamp wires kind contents input := by
  refine ⟨row, playLength, timeLength, ?_, own, own_playLength, own_timeLength, ?_, ?_⟩
  · rw [implements.read]
    exact key
  · rw [implements.viscosity, implements.read]
    exact read
  · intro backCode
    rw [implements.write, implements.read]
    by_cases absent : backCode = 0
    · rw [if_pos absent, increments, if_pos absent]
      exact ⟨_, _, rfl, insert_table, inserted⟩
    · rw [if_neg absent, increments, if_neg absent]
      exact ⟨_, _, rfl, update_table, updated⟩

variable {srcName : String} {playLength timeLength : Int}

section
variable {dis : VodDis} (own : VodOwn contents dis) (named : srcNames dis.srcId = some srcName)
  (plays : parseLong digits dis.playLength = some playLength)
  (lasts : parseLong digits dis.timeLength = some timeLength)
include own named plays lasts

theorem vodUser_tested :
    TestedIsIncremented digits srcNames parseTimestamp (vodUserWires parseTimestamp) .vod contents
      (vodUserTuple srcName (.ofInt 64 playLength) (.ofInt 64 timeLength) dis) := by
  have implements := vodUser_implements parseTimestamp srcName (.ofInt 64 playLength)
    (.ofInt 64 timeLength) dis
  apply @tested_of_implements _ _ _ _ _ _ _ _ _ _
    (keyed userColumns (vodRow parseTimestamp srcName dis)) _ _ implements
  · intro entry listed
    exact own.row named entry (List.mem_filter.mp listed).1
  · exact ownLength_of own.playLength plays
  · exact ownLength_of own.timeLength lasts
  · have columns : userColumns.Perm (primaryKey "vod_viscosity_user") := by decide
    exact columns
  all_goals rfl

theorem vodProgram_tested :
    TestedIsIncremented digits srcNames parseTimestamp (vodProgramWires parseTimestamp) .vod
      contents (vodProgramTuple srcName (.ofInt 64 playLength) (.ofInt 64 timeLength) dis) := by
  have implements := vodProgram_implements parseTimestamp srcName (.ofInt 64 playLength)
    (.ofInt 64 timeLength) dis
  apply @tested_of_implements _ _ _ _ _ _ _ _ _ _
    (keyed programColumns (vodRow parseTimestamp srcName dis)) _ _ implements
  · intro entry listed
    exact own.row named entry (List.mem_filter.mp listed).1
  · exact ownLength_of own.playLength plays
  · exact ownLength_of own.timeLength lasts
  · have columns : programColumns.Perm (primaryKey "vod_viscosity_program") := by decide
    exact columns
  all_goals rfl

end

section
variable {dis : LivDis} (own : LivOwn contents dis) (named : srcNames dis.srcId = some srcName)
  (plays : parseLong digits dis.playLength = some playLength)
  (lasts : parseLong digits dis.timeLength = some timeLength)
include own named plays lasts

theorem livUser_tested :
    TestedIsIncremented digits srcNames parseTimestamp (livUserWires parseTimestamp) .liv contents
      (livUserTuple srcName (.ofInt 64 playLength) (.ofInt 64 timeLength) dis) := by
  have implements := livUser_implements parseTimestamp srcName (.ofInt 64 playLength)
    (.ofInt 64 timeLength) dis
  apply @tested_of_implements _ _ _ _ _ _ _ _ _ _
    (keyed livUserColumns (livRow parseTimestamp srcName dis)) _ _ implements
  · intro entry listed
    exact own.row named entry (List.mem_filter.mp listed).1
  · exact ownLength_of own.playLength plays
  · exact ownLength_of own.timeLength lasts
  · have columns : livUserColumns.Perm (primaryKey "liv_viscosity_user") := by decide
    exact columns
  all_goals rfl

theorem livProgram_tested :
    TestedIsIncremented digits srcNames parseTimestamp (livProgramWires parseTimestamp) .liv
      contents (livProgramTuple srcName (.ofInt 64 playLength) (.ofInt 64 timeLength) dis) := by
  have implements := livProgram_implements parseTimestamp srcName (.ofInt 64 playLength)
    (.ofInt 64 timeLength) dis
  apply @tested_of_implements _ _ _ _ _ _ _ _ _ _
    (keyed livProgramColumns (livRow parseTimestamp srcName dis)) _ _ implements
  · intro entry listed
    exact own.row named entry (List.mem_filter.mp listed).1
  · exact ownLength_of own.playLength plays
  · exact ownLength_of own.timeLength lasts
  · have columns : livProgramColumns.Perm (primaryKey "liv_viscosity_program") := by decide
    exact columns
  all_goals rfl

end

end

/-! ### Every line that is let through -/

section
variable (digits : CharacterDigit) (srcNames : String → Option String)
  (parseTimestamp : String → Option Int)

/-- For every line that the filter and its distribute bolt let through, both tables and
either answer of the read: the row tested is the row incremented, it is the line's own,
and so are the lengths added. -/
theorem tested_row_is_incremented {info : String} {kind : Kind}
    {dis toUser toProgram : Wiring.Tuple} (filtered : Wiring.topFilter info = some (kind, dis))
    (distributed : distribute digits srcNames kind dis = some (toUser, toProgram)) :
    TestedIsIncremented digits srcNames parseTimestamp (userWires parseTimestamp kind) kind
        (strSplitTrim info) toUser ∧
      TestedIsIncremented digits srcNames parseTimestamp (programWires parseTimestamp kind) kind
        (strSplitTrim info) toProgram := by
  cases kind with
  | vod =>
    obtain ⟨dis, taken, rfl, _⟩ := topFilter_vod filtered
    obtain ⟨srcName, playLength, timeLength, _, named, plays, lasts, rfl, rfl⟩ :=
      vodDistribute_emits digits srcNames distributed
    have own := vodOwn_of_vodDis taken
    exact ⟨vodUser_tested own named plays lasts, vodProgram_tested own named plays lasts⟩
  | liv =>
    obtain ⟨dis, taken, rfl, _⟩ := topFilter_liv filtered
    obtain ⟨srcName, playLength, timeLength, _, named, plays, lasts, rfl, rfl⟩ :=
      livDistribute_emits digits srcNames distributed
    have own := livOwn_of_livDis taken
    exact ⟨livUser_tested own named plays lasts, livProgram_tested own named plays lasts⟩

/-- A vod line with another text in each column that is read. -/
def vodLine : String :=
  "vod|1|1|p|1|m|1|1|1|i|n|v|1|90|c|d|s|1|1|60|1|1|0|1|1|1|1|1|1|1|2016-11-18|1|1|t|1|r"

def vodLineDis : VodDis :=
  ⟨"p", "m", "s", "d", "c", "n", "i", "0", "v", "90", "60", "2016-11-18", "t", "r"⟩

/-- A livod line likewise. -/
def livLine : String :=
  "livod|1|1|p|1|m|1|1|1|1|n|1|1|90|1|1|s|1|1|60|1|1|0|1|1|1|1|1|h|1|1|1|1|2016-11-18|1|1|t|r"

def livLineDis : LivDis := ⟨"p", "m", "s", "h", "n", "0", "90", "60", "2016-11-18", "t", "r"⟩

theorem vodLine_filtered : Wiring.topFilter vodLine = some (.vod, vodDisTuple vodLineDis) := by
  rfl

theorem livLine_filtered : Wiring.topFilter livLine = some (.liv, livDisTuple livLineDis) := by
  rfl

/-- What the distribute bolt makes of the line goes into both tables as it should. -/
def GoesIntoTables (kind : Kind) (line : String) (dis : Wiring.Tuple) : Prop :=
  ∃ toUser toProgram,
    distribute asciiDigit (fun _ => some "首页") kind dis = some (toUser, toProgram) ∧
    TestedIsIncremented asciiDigit (fun _ => some "首页") (fun _ => some 0)
      (userWires (fun _ => some 0) kind) kind (strSplitTrim line) toUser ∧
    TestedIsIncremented asciiDigit (fun _ => some "首页") (fun _ => some 0)
      (programWires (fun _ => some 0) kind) kind (strSplitTrim line) toProgram

theorem both_lines_tested : GoesIntoTables .vod vodLine (vodDisTuple vodLineDis) ∧
    GoesIntoTables .liv livLine (livDisTuple livLineDis) := by
  have plays : parseLong asciiDigit "60" = some 60 := by decide
  have lasts : parseLong asciiDigit "90" = some 90 := by decide
  have vod : distribute asciiDigit (fun _ => some "首页") .vod (vodDisTuple vodLineDis) =
      some (vodUserTuple "首页" (.ofInt 64 60) (.ofInt 64 90) vodLineDis,
        vodProgramTuple "首页" (.ofInt 64 60) (.ofInt 64 90) vodLineDis) := by
    have legal : vodLineDis.isLegal = true := by decide
    rw [distribute, vodDistribute_eq, if_pos legal, vodLineDis, plays, lasts]
    rfl
  have liv : distribute asciiDigit (fun _ => some "首页") .liv (livDisTuple livLineDis) =
      some (livUserTuple "首页" (.ofInt 64 60) (.ofInt 64 90) livLineDis,
        livProgramTuple "首页" (.ofInt 64 60) (.ofInt 64 90) livLineDis) := by
    have legal : livLineDis.isLegal = true := by decide
    rw [distribute, livDistribute_eq, if_pos legal, livLineDis, plays, lasts]
    rfl
  exact ⟨⟨_, _, vod, tested_row_is_incremented asciiDigit (fun _ => some "首页")
      (fun _ => some 0) vodLine_filtered vod⟩,
    ⟨_, _, liv, tested_row_is_incremented asciiDigit (fun _ => some "首页")
      (fun _ => some 0) livLine_filtered liv⟩⟩

end

end GitvTime.Guarantees.Viscosity.BoundRows
