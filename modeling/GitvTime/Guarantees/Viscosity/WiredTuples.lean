import GitvTime.Source.Viscosity.Wiring

/-!
# Tuples on the wires

The tuples that the bolts of the play topology pass on by position carry the records of
the topology: the filter and the distribute bolts emit the same ones, and behind them
the same statements get the same values.
-/
namespace GitvTime.Guarantees.Viscosity.WiredTuples
open GitvTime.Source.Numbers GitvTime.Source.StringHandle GitvTime.Source.Viscosity
open GitvTime.Source.Viscosity.Wiring

/-! ### The tuples that the bolts pass on -/

/-- The tuple on `VOD_DIS`. -/
def vodDisTuple (dis : VodDis) : Wiring.Tuple where
  fields := vodDisFields
  values := [.string "vod", .string dis.partner, .string dis.mac, .string dis.srcId,
    .string dis.chnName, .string dis.chnId, .string dis.albumName, .string dis.albumId,
    .string dis.playOrder, .string dis.videoId, .string dis.timeLength, .string dis.playLength,
    .string dis.logDate, .string dis.city, .string dis.province]
  fits := rfl

/-- The tuple on `LIV_DIS`. -/
def livDisTuple (dis : LivDis) : Wiring.Tuple where
  fields := livDisFields
  values := [.string "livod", .string dis.partner, .string dis.mac, .string dis.srcId,
    .string dis.chnCode, .string dis.albumName, .string dis.playOrder, .string dis.timeLength,
    .string dis.playLength, .string dis.logDate, .string dis.city, .string dis.province]
  fits := rfl

/-- A `get` beyond the end throws on both sides. -/
theorem get_then {α β : Type} {got : Option String} {first : String → Option α}
    {second : String → Option β} {make : α → β}
    (rest : ∀ text, second text = (first text).map make) :
    got >>= second = (got >>= first).map make := by
  cases got with
  | none => rfl
  | some text => exact rest text

theorem topFilterVod_eq (contents : List String) :
    topFilterVod "vod" contents = (vodDis contents).map vodDisTuple := by
  unfold topFilterVod vodDis
  iterate 13
    apply get_then
    intro _
  cases contents[35]? <;> rfl

theorem topFilterLiv_eq (contents : List String) :
    topFilterLiv "livod" contents = (livDis contents).map livDisTuple := by
  unfold topFilterLiv livDis
  iterate 10
    apply get_then
    intro _
  cases contents[37]? <;> rfl

section
variable (srcName : String) (playLength timeLength : Long)

/-- The record that goes to a user row, and its tuple. -/
def vodUserOf (dis : VodDis) : VodToUser :=
  ⟨dis.partner, dis.mac, srcName, dis.chnName, dis.chnId, dis.albumName, dis.albumId,
    some dis.playOrder, some dis.videoId, playLength, timeLength, dis.logDate⟩

def vodUserTuple (dis : VodDis) : Wiring.Tuple where
  fields := vodToUserFields
  values := [.string dis.partner, .string dis.mac, .string srcName, .string dis.chnName,
    .string dis.chnId, .string dis.albumName, .string dis.albumId, .string dis.playOrder,
    .string dis.videoId, .long playLength, .long timeLength, .string dis.logDate]
  fits := rfl

def vodProgramOf (dis : VodDis) : VodToProgram :=
  ⟨dis.partner, srcName, dis.chnName, dis.chnId, dis.albumName, dis.albumId, some dis.playOrder,
    some dis.videoId, some dis.province, some dis.city, playLength, timeLength, dis.logDate⟩

def vodProgramTuple (dis : VodDis) : Wiring.Tuple where
  fields := vodToProgramFields
  values := [.string dis.partner, .string srcName, .string dis.chnName, .string dis.chnId,
    .string dis.albumName, .string dis.albumId, .string dis.playOrder, .string dis.videoId,
    .string dis.province, .string dis.city, .long playLength, .long timeLength,
    .string dis.logDate]
  fits := rfl

def livUserOf (dis : LivDis) : LivToUser :=
  ⟨dis.partner, dis.mac, srcName, dis.chnCode, dis.albumName, dis.playOrder, playLength, timeLength,
    dis.logDate⟩

def livUserTuple (dis : LivDis) : Wiring.Tuple where
  fields := livToUserFields
  values := [.string dis.partner, .string dis.mac, .string srcName, .string dis.chnCode,
    .string dis.albumName, .string dis.playOrder, .long playLength, .long timeLength,
    .string dis.logDate]
  fits := rfl

def livProgramOf (dis : LivDis) : LivToProgram :=
  ⟨dis.partner, srcName, dis.chnCode, dis.albumName, dis.playOrder, dis.province, dis.city,
    playLength, timeLength, dis.logDate⟩

def livProgramTuple (dis : LivDis) : Wiring.Tuple where
  fields := livToProgramFields
  values := [.string dis.partner, .string srcName, .string dis.chnCode, .string dis.albumName,
    .string dis.playOrder, .string dis.province, .string dis.city, .long playLength,
    .long timeLength, .string dis.logDate]
  fits := rfl

end

section
variable (digits : CharacterDigit) (srcNames : String → Option String)

theorem vodDistribute_eq (dis : VodDis) :
    Wiring.vodDistribute digits srcNames (vodDisTuple dis) =
      if dis.isLegal = true then do
        let timeLength ← parseLong digits dis.timeLength
        let playLength ← parseLong digits dis.playLength
        let srcName ← srcNames dis.srcId
        pure (vodUserTuple srcName (.ofInt 64 playLength) (.ofInt 64 timeLength) dis,
          vodProgramTuple srcName (.ofInt 64 playLength) (.ofInt 64 timeLength) dis)
      else none := (rfl)

theorem livDistribute_eq (dis : LivDis) :
    Wiring.livDistribute digits srcNames (livDisTuple dis) =
      if dis.isLegal = true then do
        let timeLength ← parseLong digits dis.timeLength
        let playLength ← parseLong digits dis.playLength
        let srcName ← srcNames dis.srcId
        pure (livUserTuple srcName (.ofInt 64 playLength) (.ofInt 64 timeLength) dis,
          livProgramTuple srcName (.ofInt 64 playLength) (.ofInt 64 timeLength) dis)
      else none := (rfl)

end

/-! ### The pipelines -/

/-- The wires of a tuple bind what the pipeline of its record binds. -/
structure Implements {τ : Type} (wires : Wires) (pipeline : Pipeline τ) (input : Wiring.Tuple)
    (record : τ) : Prop where
  read : wires.read = pipeline.read
  viscosity : wires.viscosity input = some (pipeline.bindRead record)
  write : ∀ backCode, wires.write backCode input = some (if backCode = 0 then
    (pipeline.insertNew, pipeline.bindInsert record)
      else (pipeline.updateNew, pipeline.bindUpdate record))

section
variable (parseTimestamp : String → Option Int) (srcName : String) (playLength timeLength : Long)

theorem vodUser_implements (dis : VodDis) :
    Implements (vodUserWires parseTimestamp) (vodUser parseTimestamp)
      (vodUserTuple srcName playLength timeLength dis)
      (vodUserOf srcName playLength timeLength dis) := by
  constructor
  · rfl
  · rfl
  · intro backCode
    cases backCode <;> rfl

theorem vodProgram_implements (dis : VodDis) :
    Implements (vodProgramWires parseTimestamp) (vodProgram parseTimestamp)
      (vodProgramTuple srcName playLength timeLength dis)
      (vodProgramOf srcName playLength timeLength dis) := by
  constructor
  · rfl
  · rfl
  · intro backCode
    cases backCode <;> rfl

theorem livUser_implements (dis : LivDis) :
    Implements (livUserWires parseTimestamp) (livUser parseTimestamp)
      (livUserTuple srcName playLength timeLength dis)
      (livUserOf srcName playLength timeLength dis) := by
  constructor
  · rfl
  · rfl
  · intro backCode
    cases backCode <;> rfl

theorem livProgram_implements (dis : LivDis) :
    Implements (livProgramWires parseTimestamp) (livProgram parseTimestamp)
      (livProgramTuple srcName playLength timeLength dis)
      (livProgramOf srcName playLength timeLength dis) := by
  constructor
  · rfl
  · rfl
  · intro backCode
    cases backCode <;> rfl

end

/-! ### The lines that are let through -/

section
variable (digits : CharacterDigit) (srcNames : String → Option String)
  (parseTimestamp : String → Option Int)

/-- The distribute bolt of a kind. -/
def distribute : Kind → Wiring.Tuple → Option (Wiring.Tuple × Wiring.Tuple)
  | .vod => Wiring.vodDistribute digits srcNames
  | .liv => Wiring.livDistribute digits srcNames

def userWires : Kind → Wires
  | .vod => vodUserWires parseTimestamp
  | .liv => livUserWires parseTimestamp

def programWires : Kind → Wires
  | .vod => vodProgramWires parseTimestamp
  | .liv => livProgramWires parseTimestamp

theorem topFilter_vod {info : String} {tuple : Wiring.Tuple}
    (filtered : Wiring.topFilter info = some (.vod, tuple)) :
    ∃ dis, vodDis (strSplitTrim info) = some dis ∧ tuple = vodDisTuple dis ∧
      Source.Viscosity.topFilter info = some (.vodDistribute dis) := by
  unfold Wiring.topFilter at filtered
  split at filtered
  · cases filtered
  rename_i visible
  dsimp only at filtered
  split at filtered
  · rename_i kind
    rw [topFilterVod_eq, Option.map_map] at filtered
    obtain ⟨dis, taken, same⟩ := Option.map_eq_some_iff.mp filtered
    cases same
    refine ⟨dis, taken, rfl, ?_⟩
    simp [Source.Viscosity.topFilter, visible, kind, taken]
  · obtain ⟨_, _, same⟩ := Option.map_eq_some_iff.mp filtered
    cases same
  · cases filtered

theorem topFilter_liv {info : String} {tuple : Wiring.Tuple}
    (filtered : Wiring.topFilter info = some (.liv, tuple)) :
    ∃ dis, livDis (strSplitTrim info) = some dis ∧ tuple = livDisTuple dis ∧
      Source.Viscosity.topFilter info = some (.livDistribute dis) := by
  unfold Wiring.topFilter at filtered
  split at filtered
  · cases filtered
  rename_i visible
  dsimp only at filtered
  split at filtered
  · obtain ⟨_, _, same⟩ := Option.map_eq_some_iff.mp filtered
    cases same
  · rename_i kind
    rw [topFilterLiv_eq, Option.map_map] at filtered
    obtain ⟨dis, taken, same⟩ := Option.map_eq_some_iff.mp filtered
    cases same
    refine ⟨dis, taken, rfl, ?_⟩
    simp [Source.Viscosity.topFilter, visible, kind, taken]
  · cases filtered

/-- What a distribute bolt that emits has found. -/
theorem vodDistribute_emits {dis : VodDis} {toUser toProgram : Wiring.Tuple}
    (distributed : Wiring.vodDistribute digits srcNames (vodDisTuple dis) =
      some (toUser, toProgram)) :
    ∃ srcName playLength timeLength, dis.isLegal = true ∧ srcNames dis.srcId = some srcName ∧
      parseLong digits dis.playLength = some playLength ∧
      parseLong digits dis.timeLength = some timeLength ∧
      toUser = vodUserTuple srcName (.ofInt 64 playLength) (.ofInt 64 timeLength) dis ∧
      toProgram = vodProgramTuple srcName (.ofInt 64 playLength) (.ofInt 64 timeLength) dis := by
  rw [vodDistribute_eq] at distributed
  split at distributed
  · rename_i legal
    obtain ⟨timeLength, lasts, distributed⟩ := Option.bind_eq_some_iff.mp distributed
    obtain ⟨playLength, plays, distributed⟩ := Option.bind_eq_some_iff.mp distributed
    obtain ⟨srcName, named, distributed⟩ := Option.bind_eq_some_iff.mp distributed
    cases distributed
    exact ⟨srcName, playLength, timeLength, legal, named, plays, lasts, rfl, rfl⟩
  · cases distributed

theorem livDistribute_emits {dis : LivDis} {toUser toProgram : Wiring.Tuple}
    (distributed : Wiring.livDistribute digits srcNames (livDisTuple dis) =
      some (toUser, toProgram)) :
    ∃ srcName playLength timeLength, dis.isLegal = true ∧ srcNames dis.srcId = some srcName ∧
      parseLong digits dis.playLength = some playLength ∧
      parseLong digits dis.timeLength = some timeLength ∧
      toUser = livUserTuple srcName (.ofInt 64 playLength) (.ofInt 64 timeLength) dis ∧
      toProgram = livProgramTuple srcName (.ofInt 64 playLength) (.ofInt 64 timeLength) dis := by
  rw [livDistribute_eq] at distributed
  split at distributed
  · rename_i legal
    obtain ⟨timeLength, lasts, distributed⟩ := Option.bind_eq_some_iff.mp distributed
    obtain ⟨playLength, plays, distributed⟩ := Option.bind_eq_some_iff.mp distributed
    obtain ⟨srcName, named, distributed⟩ := Option.bind_eq_some_iff.mp distributed
    cases distributed
    exact ⟨srcName, playLength, timeLength, legal, named, plays, lasts, rfl, rfl⟩
  · cases distributed

/-- A tuple on the wires asks and increments as its record does in the topology. -/
def Carries (wires : Wires) (input : Wiring.Tuple) (record : RowTuple) : Prop :=
  ∀ rows, (wires.viscosity input).bind (wires.read.execute rows) =
      readRow parseTimestamp rows record ∧
    ∀ backCode, (wires.write backCode input).bind
        (fun bound : UpdateStatement × List Value => bound.1.execute rows bound.2) =
      writeRow parseTimestamp rows (if backCode = 0 then .insert else .update) record

theorem carries_of_implements {τ : Type} {wires : Wires} {pipeline : Pipeline τ}
    {input : Wiring.Tuple} {record : τ} {row : RowTuple}
    (implements : Implements wires pipeline input record)
    (asks : ∀ rows, pipeline.ask rows record = readRow parseTimestamp rows row)
    (writes : ∀ rows stream, pipeline.write rows record stream =
      writeRow parseTimestamp rows stream row) : Carries parseTimestamp wires input row := by
  intro rows
  constructor
  · rw [implements.viscosity, implements.read, ← asks]
    rfl
  · intro backCode
    rw [implements.write, ← writes]
    by_cases absent : backCode = 0
    · rw [if_pos absent, if_pos absent]
      rfl
    · rw [if_neg absent, if_neg absent]
      rfl

/-- The wires refine the topology: what it emits for a line are the records that the
tuples on the wires carry. -/
theorem wires_refine_topology {info : String} {kind : Kind} {dis toUser toProgram : Wiring.Tuple}
    (filtered : Wiring.topFilter info = some (kind, dis))
    (distributed : distribute digits srcNames kind dis = some (toUser, toProgram)) :
    ∃ task user program, Source.Viscosity.topFilter info = some task ∧
      (∀ rows answer, (execute digits parseTimestamp srcNames rows answer task).emissions =
        [unanchored (.viscosity user), unanchored (.viscosity program)]) ∧
      Carries parseTimestamp (userWires parseTimestamp kind) toUser user ∧
      Carries parseTimestamp (programWires parseTimestamp kind) toProgram program := by
  cases kind with
  | vod =>
    obtain ⟨dis, _, rfl, passed⟩ := topFilter_vod filtered
    obtain ⟨srcName, playLength, timeLength, legal, named, plays, lasts, rfl, rfl⟩ :=
      vodDistribute_emits digits srcNames distributed
    refine ⟨_, _, _, passed, ?_,
      carries_of_implements parseTimestamp (vodUser_implements parseTimestamp srcName _ _ dis)
        (fun _ => rfl) (fun _ _ => rfl : ∀ rows stream, _ = writeRow _ rows stream (.vodUser _)),
      carries_of_implements parseTimestamp (vodProgram_implements parseTimestamp srcName _ _ dis)
        (fun _ => rfl) (fun _ _ => rfl : ∀ rows stream, _ = writeRow _ rows stream (.vodProgram _))⟩
    intro rows answer
    simp [execute, Source.Viscosity.vodDistribute, legal, plays, lasts, named, vodUserOf,
      vodProgramOf]
  | liv =>
    obtain ⟨dis, _, rfl, passed⟩ := topFilter_liv filtered
    obtain ⟨srcName, playLength, timeLength, legal, named, plays, lasts, rfl, rfl⟩ :=
      livDistribute_emits digits srcNames distributed
    refine ⟨_, _, _, passed, ?_,
      carries_of_implements parseTimestamp (livUser_implements parseTimestamp srcName _ _ dis)
        (fun _ => rfl) (fun _ _ => rfl : ∀ rows stream, _ = writeRow _ rows stream (.livUser _)),
      carries_of_implements parseTimestamp (livProgram_implements parseTimestamp srcName _ _ dis)
        (fun _ => rfl) (fun _ _ => rfl : ∀ rows stream, _ = writeRow _ rows stream (.livProgram _))⟩
    intro rows answer
    simp [execute, Source.Viscosity.livDistribute, legal, plays, lasts, named, livUserOf,
      livProgramOf]

end

end GitvTime.Guarantees.Viscosity.WiredTuples
