import GitvTime.Guarantees.Viscosity.RowBooking

/-!
# The counters of a viscosity row

The clicks and play lengths are right in every interleaving. The time length is
counted once for every record that was read before the row existed, so it is
counted exactly once only when the first record to be read is written before any
other record is read.
-/
namespace GitvTime.Guarantees.Viscosity
open GitvTime.Support GitvTime.Source.Viscosity

variable {τ : Type} {pipeline : Pipeline τ} {key : Key}

/-! ### The records that are read before the row exists -/

def EarlyAt (s : Pipeline.State τ) (index : Nat) : Prop :=
  ∃ tuple stage, s.tuples[index]? = some (tuple, stage) ∧ early stage = true

theorem early_kept {rows rows' : Rows} {tuple : τ} {stage stage' : Stage}
    (moves : Moves pipeline key tuple rows stage rows' stage') (was : early stage = true) :
    early stage' = true := by
  cases moves with
  | read => cases was
  | route backCode =>
    cases backCode with
    | zero => rfl
    | succ n => cases was
  | write stream =>
    cases stream with
    | insert => rfl
    | update => cases was

theorem early_new {rows rows' : Rows} {tuple : τ} {stage stage' : Stage}
    (moves : Moves pipeline key tuple rows stage rows' stage') (now : early stage' = true) :
    early stage = true ∨ rows key = none := by
  cases moves with
  | read =>
    by_cases there : (rows key).isSome = true
    · simp [present, there, early] at now
    · exact .inr (by simpa using there)
  | route backCode =>
    cases backCode with
    | zero => exact .inl rfl
    | succ n => cases now
  | write stream =>
    cases stream with
    | insert => exact .inl rfl
    | update => cases now

theorem row_kept {rows rows' : Rows} {tuple : τ} {stage stage' : Stage}
    (moves : Moves pipeline key tuple rows stage rows' stage') (there : rows key ≠ none) :
    rows' key ≠ none := by
  cases moves with
  | write stream => simp
  | _ => exact there

/-- A step keeps early records early and makes another one early only while the
row does not exist. -/
theorem earlyAt_step (books : Books pipeline) {s s' : Pipeline.State τ} {index : Nat}
    (inv : RowInv pipeline key s) (taken : pipeline.step s index = some s') :
    (∀ other, EarlyAt s other → EarlyAt s' other) ∧
      (∀ other, EarlyAt s' other → EarlyAt s other ∨ (other = index ∧ s.rows key = none)) ∧
        (s.rows key ≠ none → s'.rows key ≠ none) := by
  obtain ⟨tuple, stage, stage', found, tuples_eq, moves⟩ := step_moves books inv.same_row taken
  have bound : index < s.tuples.length := (List.getElem?_eq_some_iff.mp found).1
  refine ⟨fun other was => ?_, fun other now => ?_, row_kept moves⟩
  · obtain ⟨t, st, at_other, is_early⟩ := was
    rw [EarlyAt, tuples_eq]
    by_cases same : other = index
    · subst same
      cases found.symm.trans at_other
      exact ⟨tuple, stage', by simp [bound], early_kept moves is_early⟩
    · exact ⟨t, st, by rw [List.getElem?_set_ne fun h => same h.symm, at_other], is_early⟩
  · obtain ⟨t, st, at_other, is_early⟩ := now
    rw [tuples_eq] at at_other
    by_cases same : other = index
    · subst same
      rw [List.getElem?_set_self bound] at at_other
      cases at_other
      rcases early_new moves is_early with was | none_yet
      · exact .inl ⟨tuple, stage, found, was⟩
      · exact .inr ⟨rfl, none_yet⟩
    · rw [List.getElem?_set_ne fun h => same h.symm] at at_other
      exact .inl ⟨t, st, at_other, is_early⟩

/-- Over a run from a state with the row, the same records are early. -/
theorem earlyAt_run (books : Books pipeline) {schedule : List Nat} {s last : Pipeline.State τ}
    (inv : RowInv pipeline key s) (ran : runSteps pipeline.step s schedule = some last) :
    RowInv pipeline key last ∧ (∀ index, EarlyAt s index → EarlyAt last index) ∧
      (s.rows key ≠ none → last.rows key ≠ none ∧ ∀ index, EarlyAt last index → EarlyAt s index) := by
  induction schedule generalizing s with
  | nil =>
    cases Option.some.inj ran
    exact ⟨inv, fun _ h => h, fun there => ⟨there, fun _ h => h⟩⟩
  | cons first rest ih =>
    obtain ⟨next, taken, ran⟩ := Option.bind_eq_some_iff.mp ran
    obtain ⟨kept, new, stays⟩ := earlyAt_step books inv taken
    obtain ⟨inv', later_kept, later⟩ := ih (inv.step books taken) ran
    refine ⟨inv', fun index was => later_kept index (kept index was), fun there => ?_⟩
    obtain ⟨there', old⟩ := later (stays there)
    refine ⟨there', fun index now => ?_⟩
    rcases new index (old index now) with was | ⟨_, none_yet⟩
    · exact was
    · exact absurd none_yet there

/-! ### The first record to be read -/

/-- The row does not exist and only the record at `index` has been read. -/
structure Alone (key : Key) (index : Nat) (stage : Stage) (s : Pipeline.State τ) : Prop where
  absent : s.rows key = none
  at_index : ∃ tuple, s.tuples[index]? = some (tuple, stage)
  others : ∀ other tuple stage', other ≠ index → s.tuples[other]? = some (tuple, stage') →
    stage' = .toRead

theorem init_toRead {rows : Rows} {records : List τ} {index : Nat} {tuple : τ} {stage : Stage}
    (found : (Pipeline.State.init rows records).tuples[index]? = some (tuple, stage)) :
    stage = .toRead := by
  obtain ⟨record, _, same⟩ := List.mem_map.mp (List.mem_of_getElem? found)
  cases same
  rfl

/-- A step of a record when all others are unread. -/
theorem step_alone (books : Books pipeline) {s s' : Pipeline.State τ} {index : Nat} {stage : Stage}
    {tuple : τ} (inv : RowInv pipeline key s) (taken : pipeline.step s index = some s')
    (found : s.tuples[index]? = some (tuple, stage))
    (others : ∀ other tuple stage', other ≠ index → s.tuples[other]? = some (tuple, stage') →
      stage' = .toRead) :
    ∃ stage', s'.tuples[index]? = some (tuple, stage') ∧
      Moves pipeline key tuple s.rows stage s'.rows stage' ∧
        ∀ other tuple stage', other ≠ index → s'.tuples[other]? = some (tuple, stage') →
          stage' = .toRead := by
  obtain ⟨tuple', old, stage', found', tuples_eq, moves⟩ := step_moves books inv.same_row taken
  cases found.symm.trans found'
  have bound : index < s.tuples.length := (List.getElem?_eq_some_iff.mp found).1
  refine ⟨stage', ?_, moves, fun other t st different at_other => ?_⟩
  · rw [tuples_eq, List.getElem?_set_self bound]
  · rw [tuples_eq, List.getElem?_set_ne fun h => different h.symm] at at_other
    exact others other t st different at_other

theorem alone_read (books : Books pipeline) {rows : Rows} {records : List τ} {index : Nat}
    {s : Pipeline.State τ} (fresh : rows key = none)
    (inv : RowInv pipeline key (.init rows records))
    (taken : pipeline.step (.init rows records) index = some s) :
    Alone key index (.answered 0) s := by
  obtain ⟨tuple, stage, _, found, _⟩ := step_moves books inv.same_row taken
  cases init_toRead found
  obtain ⟨stage', found', moves, others⟩ := step_alone books inv taken found
    fun other t st _ at_other => init_toRead at_other
  obtain ⟨rows', tuples'⟩ := s
  cases moves with
  | read =>
    have none_yet : present rows key = 0 := by simp [present, fresh]
    refine ⟨fresh, ⟨tuple, ?_⟩, others⟩
    rw [← none_yet]
    exact found'

theorem alone_routed (books : Books pipeline) {s s' : Pipeline.State τ} {index : Nat}
    (inv : RowInv pipeline key s) (alone : Alone key index (.answered 0) s)
    (taken : pipeline.step s index = some s') : Alone key index (.queued .insert) s' := by
  obtain ⟨tuple, found⟩ := alone.at_index
  obtain ⟨stage', found', moves, others⟩ := step_alone books inv taken found alone.others
  obtain ⟨rows', tuples'⟩ := s'
  cases moves with
  | route => exact ⟨alone.absent, ⟨tuple, found'⟩, others⟩

/-- When it is written alone, it is the only one that was read before the row existed. -/
theorem alone_written (books : Books pipeline) {s s' : Pipeline.State τ} {index : Nat}
    (inv : RowInv pipeline key s) (alone : Alone key index (.queued .insert) s)
    (taken : pipeline.step s index = some s') :
    s'.rows key ≠ none ∧ ∀ other, EarlyAt s' other ↔ other = index := by
  obtain ⟨tuple, found⟩ := alone.at_index
  obtain ⟨stage', found', moves, others⟩ := step_alone books inv taken found alone.others
  obtain ⟨rows', tuples'⟩ := s'
  cases moves with
  | write =>
    refine ⟨by simp, fun other => ⟨?_, ?_⟩⟩
    · rintro ⟨t, st, at_other, is_early⟩
      by_contra different
      cases others other t st different at_other
      cases is_early
    · rintro rfl
      exact ⟨tuple, _, found', rfl⟩

/-- A processed record has been written. -/
theorem written_of_ended (books : Books pipeline) {rows : Rows} {tuple : τ} {stage : Stage}
    (row : pipeline.rowOf tuple = some key) (unfailed : stage ≠ .failed)
    (ended : pipeline.advance rows tuple stage = none) : ∃ stream, stage = .acked stream := by
  cases stage with
  | toRead => simp [Pipeline.advance, read_eq rows row] at ended
  | answered backCode => simp [Pipeline.advance] at ended
  | queued stream => simp [Pipeline.advance, write_eq books rows row] at ended
  | acked stream => exact ⟨stream, rfl⟩
  | failed => exact absurd rfl unfailed

theorem unread_is_early {rows rows' : Rows} {tuple : τ} {stage' : Stage} (absent : rows key = none)
    (moves : Moves pipeline key tuple rows .toRead rows' stage') : early stage' = true := by
  cases moves with
  | read => simp [present, absent, early]

/-- If only one record is early in the end, the record that is alone goes on. -/
theorem alone_goes_on (books : Books pipeline) {s last : Pipeline.State τ} {index winner : Nat}
    {stage : Stage} {schedule : List Nat} (inv : RowInv pipeline key s)
    (alone : Alone key index stage s) (is_early : early stage = true)
    (unfinished : written stage = false) (ran : runSteps pipeline.step s schedule = some last)
    (finished : last.Finished pipeline) (unique : ∀ other, EarlyAt last other → other = winner) :
    ∃ rest next, schedule = index :: rest ∧ pipeline.step s index = some next ∧
      runSteps pipeline.step next rest = some last := by
  obtain ⟨tuple, found⟩ := alone.at_index
  have was_early : EarlyAt s index := ⟨tuple, stage, found, is_early⟩
  cases schedule with
  | nil =>
    cases Option.some.inj ran
    have member := List.mem_of_getElem? found
    obtain ⟨stream, rfl⟩ := written_of_ended books (inv.same_row tuple stage member)
      (inv.unfailed tuple stage member) (finished tuple stage member)
    cases unfinished
  | cons first rest =>
    obtain ⟨next, taken, ran⟩ := Option.bind_eq_some_iff.mp ran
    obtain ⟨_, kept, _⟩ := earlyAt_run books (inv.step books taken) ran
    by_cases same : first = index
    · subst same
      exact ⟨rest, next, rfl, taken, ran⟩
    · obtain ⟨tuple', stage', _, found', tuples_eq, moves⟩ := step_moves books inv.same_row taken
      cases alone.others first tuple' stage' same found'
      have bound : first < s.tuples.length := (List.getElem?_eq_some_iff.mp found').1
      have first_early : EarlyAt next first :=
        ⟨tuple', _, by rw [tuples_eq, List.getElem?_set_self bound],
          unread_is_early alone.absent moves⟩
      have still := (earlyAt_step books inv taken).1 index was_early
      exact absurd ((unique first (kept first first_early)).trans
        (unique index (kept index still)).symm) same

/-- Exactly one record is read before the row exists if and only if the first
record to be read is routed and written before any other record is read. -/
theorem early_unique_iff (books : Books pipeline) {rows : Rows} {records : List τ}
    {schedule : List Nat} {last : Pipeline.State τ} (fresh : rows key = none)
    (same_row : ∀ record ∈ records, pipeline.rowOf record = some key)
    (ran : runSteps pipeline.step (.init rows records) schedule = some last)
    (finished : last.Finished pipeline) :
    (∃ index, ∀ other, EarlyAt last other ↔ other = index) ↔
      ∃ index rest, schedule = index :: index :: index :: rest := by
  have inv : RowInv pipeline key (.init rows records) := .init fresh same_row
  constructor
  · rintro ⟨winner, unique⟩
    have only := fun other => (unique other).mp
    cases schedule with
    | nil =>
      cases Option.some.inj ran
      obtain ⟨tuple, stage, found, is_early⟩ := (unique winner).mpr rfl
      cases init_toRead found
      cases is_early
    | cons index rest =>
      obtain ⟨s₁, read, ran⟩ := Option.bind_eq_some_iff.mp ran
      have inv₁ := inv.step books read
      have alone₁ := alone_read books fresh inv read
      obtain ⟨rest, s₂, rfl, routed, ran⟩ :=
        alone_goes_on books inv₁ alone₁ rfl rfl ran finished only
      have inv₂ := inv₁.step books routed
      have alone₂ := alone_routed books inv₁ alone₁ routed
      obtain ⟨rest, _, rfl, _⟩ := alone_goes_on books inv₂ alone₂ rfl rfl ran finished only
      exact ⟨index, rest, rfl⟩
  · rintro ⟨index, rest, rfl⟩
    obtain ⟨s₁, read, ran⟩ := Option.bind_eq_some_iff.mp ran
    obtain ⟨s₂, routed, ran⟩ := Option.bind_eq_some_iff.mp ran
    obtain ⟨s₃, wrote, ran⟩ := Option.bind_eq_some_iff.mp ran
    have inv₁ := inv.step books read
    have inv₂ := inv₁.step books routed
    have alone₂ := alone_routed books inv₁ (alone_read books fresh inv read) routed
    obtain ⟨there, only⟩ := alone_written books inv₂ alone₂ wrote
    obtain ⟨_, kept, later⟩ := earlyAt_run books (inv₂.step books wrote) ran
    refine ⟨index, fun other => ⟨fun now => (only other).mp ((later there).2 other now), ?_⟩⟩
    rintro rfl
    exact kept other ((only other).mpr rfl)

/-! ### The row after all records -/

/-- A record whose update went through the insert stream. -/
def InsertedAt (s : Pipeline.State τ) (index : Nat) : Prop :=
  ∃ tuple, s.tuples[index]? = some (tuple, .acked .insert)

/-- The row counts every record once: its click, its play length, and the time
length of exactly one of them. -/
def RowCounts (pipeline : Pipeline τ) (records : List τ) (key : Key) (s : Pipeline.State τ) :
    Prop :=
  ∃ row, s.rows key = some row ∧
    row "click_num" = some (BitVec.ofNat 64 records.length) ∧
      row "playLength" = some (records.map pipeline.playLength).sum ∧
        ∃ index record, records[index]? = some record ∧
          row "timeLength" = some (pipeline.timeLength record) ∧
            ∀ other, InsertedAt s other ↔ other = index

theorem records_kept {schedule : List Nat} {s last : Pipeline.State τ}
    (ran : runSteps pipeline.step s schedule = some last) :
    last.tuples.map Prod.fst = s.tuples.map Prod.fst := by
  induction schedule generalizing s with
  | nil =>
    cases Option.some.inj ran
    rfl
  | cons index rest ih =>
    obtain ⟨next, taken, ran⟩ := Option.bind_eq_some_iff.mp ran
    rw [ih ran]
    unfold Pipeline.step at taken
    split at taken
    · rename_i tuple stage found
      obtain ⟨after, _, rfl⟩ := Option.map_eq_some_iff.mp taken
      obtain ⟨front, back, before, _, set_eq⟩ := split_at_index found
      rw [set_eq, before]
      simp
    · cases taken

theorem total_all (weight : τ → Long) {counted : Stage → Bool} {tuples : List (τ × Stage)}
    (all : ∀ tuple stage, (tuple, stage) ∈ tuples → counted stage = true) :
    total weight counted tuples = ((tuples.map Prod.fst).map weight).sum := by
  rw [total, List.map_map]
  refine congrArg List.sum (List.map_congr_left fun entry member => ?_)
  rw [if_pos (all entry.1 entry.2 member)]
  rfl

/-- The sum over the one entry that is counted. -/
theorem total_single (weight : τ → Long) {counted : Stage → Bool} {tuples : List (τ × Stage)}
    {index : Nat} {tuple : τ} {stage : Stage} (found : tuples[index]? = some (tuple, stage))
    (is_counted : counted stage = true)
    (only : ∀ other t st, tuples[other]? = some (t, st) → counted st = true → other = index) :
    total weight counted tuples = weight tuple := by
  induction tuples generalizing index with
  | nil => cases found
  | cons entry rest ih =>
    have split_head : total weight counted (entry :: rest) =
        (if counted entry.2 = true then weight entry.1 else 0) + total weight counted rest := by
      simp only [total, List.map_cons, List.sum_cons]
    rw [split_head]
    cases index with
    | zero =>
      cases Option.some.inj found
      have rest_zero : total weight counted rest = 0 := by
        refine total_eq_zero weight fun t st member => ?_
        obtain ⟨place, at_place⟩ := List.mem_iff_getElem?.mp member
        by_contra counted_too
        have := only (place + 1) t st at_place (by simpa using counted_too)
        omega
      rw [if_pos is_counted, rest_zero, add_zero]
    | succ place =>
      have head_off : ¬ counted entry.2 = true := fun counted_too => by
        have := only 0 entry.1 entry.2 rfl counted_too
        omega
      rw [if_neg head_off, zero_add]
      refine ih found fun other t st at_other counted_too => ?_
      have := only (other + 1) t st at_other counted_too
      omega

theorem ones_sum (records : List τ) :
    (records.map fun _ => (1 : Long)).sum = BitVec.ofNat 64 records.length := by
  induction records with
  | nil => rfl
  | cons record rest ih =>
    rw [List.map_cons, List.sum_cons, ih, List.length_cons, BitVec.ofNat_add, BitVec.add_comm]
    rfl

/-- In the end the records on the insert stream are those read before the row existed. -/
theorem insertedAt_iff {s : Pipeline.State τ}
    (all_written : ∀ tuple stage, (tuple, stage) ∈ s.tuples → ∃ stream, stage = .acked stream)
    (index : Nat) : InsertedAt s index ↔ EarlyAt s index := by
  constructor
  · rintro ⟨tuple, found⟩
    exact ⟨tuple, _, found, rfl⟩
  · rintro ⟨tuple, stage, found, is_early⟩
    obtain ⟨stream, rfl⟩ := all_written tuple stage (List.mem_of_getElem? found)
    cases stream with
    | insert => exact ⟨tuple, found⟩
    | update => cases is_early

/-- The clicks and the play lengths are right in any case. -/
theorem rowCounts_iff (books : Books pipeline) {rows : Rows} {records : List τ}
    {schedule : List Nat} {last : Pipeline.State τ} (fresh : rows key = none)
    (same_row : ∀ record ∈ records, pipeline.rowOf record = some key)
    (ran : runSteps pipeline.step (.init rows records) schedule = some last)
    (finished : last.Finished pipeline) :
    RowCounts pipeline records key last ↔ ∃ index, ∀ other, EarlyAt last other ↔ other = index := by
  have inv := (earlyAt_run books (.init fresh same_row) ran).1
  have all_written : ∀ tuple stage, (tuple, stage) ∈ last.tuples → ∃ stream, stage = .acked stream :=
    fun tuple stage member => written_of_ended books (inv.same_row tuple stage member)
      (inv.unfailed tuple stage member) (finished tuple stage member)
  have kept : last.tuples.map Prod.fst = records := by
    rw [records_kept ran, Pipeline.State.init, List.map_map]
    exact List.map_id records
  have at_record : ∀ {index : Nat} {tuple stage}, last.tuples[index]? = some (tuple, stage) →
      records[index]? = some tuple := by
    intro index tuple stage found
    rw [← kept, List.getElem?_map, found]
    rfl
  constructor
  · rintro ⟨row, _, _, _, index, _, _, _, unique⟩
    exact ⟨index, fun other => (insertedAt_iff all_written other).symm.trans (unique other)⟩
  · rintro ⟨index, unique⟩
    have inserted_only := fun other => (insertedAt_iff all_written other).trans (unique other)
    obtain ⟨tuple, found⟩ := (inserted_only index).mpr rfl
    have there : last.rows key ≠ none := fun absent => by
      cases inv.absent absent tuple _ (List.mem_of_getElem? found)
    obtain ⟨row, stored⟩ := Option.ne_none_iff_exists'.mp there
    obtain ⟨clicks, played, timed⟩ := inv.booked row stored
    have every : ∀ tuple stage, (tuple, stage) ∈ last.tuples → written stage = true := by
      intro t st member
      obtain ⟨stream, rfl⟩ := all_written t st member
      rfl
    refine ⟨row, stored, ?_, ?_, index, tuple, at_record found, ?_, inserted_only⟩
    · rw [clicks, total_all _ every, kept, ones_sum]
    · rw [played, total_all _ every, kept]
    · rw [timed, total_single _ found rfl]
      intro other t st at_other counted
      refine (inserted_only other).mp ⟨t, ?_⟩
      obtain ⟨stream, rfl⟩ := all_written t st (List.mem_of_getElem? at_other)
      cases stream with
      | insert => exact at_other
      | update => cases counted

/-! ### The two pipelines -/

theorem vodUser_books (parseTimestamp : String → Option Int) : Books (vodUser parseTimestamp) := by
  constructor <;>
  · intro tuple key row
    change bindKey _ userColumns (Mapper.readUser parseTimestamp tuple) = some key at row
    exact congrArg (Option.map fun key => (key, _)) row

theorem vodProgram_books (parseTimestamp : String → Option Int) :
    Books (vodProgram parseTimestamp) := by
  constructor <;>
  · intro tuple key row
    change bindKey _ programColumns (Mapper.readProgram parseTimestamp tuple) = some key at row
    exact congrArg (Option.map fun key => (key, _)) row

theorem vodRows_books (parseTimestamp : String → Option Int) (table : VodRows) :
    Books (table.pipeline parseTimestamp) := by
  cases table with
  | user => exact vodUser_books parseTimestamp
  | program => exact vodProgram_books parseTimestamp

/-- In either table, after every record of a new row has been processed, the row
counts each of them once exactly when the first record to be read is routed and
written before another one is read. -/
theorem viscosity_row_counts_iff (parseTimestamp : String → Option Int) (table : VodRows)
    (records : List table.Tuple) (key : Key) (rows : Rows) (fresh : rows key = none)
    (same_row : ∀ record ∈ records, (table.pipeline parseTimestamp).rowOf record = some key)
    (schedule : List Nat) (last : Pipeline.State table.Tuple)
    (ran : runSteps (table.pipeline parseTimestamp).step (.init rows records) schedule = some last)
    (finished : last.Finished (table.pipeline parseTimestamp)) :
    RowCounts (table.pipeline parseTimestamp) records key last ↔
      ∃ index rest, schedule = index :: index :: index :: rest := by
  have books := vodRows_books parseTimestamp table
  exact (rowCounts_iff books fresh same_row ran finished).trans
    (early_unique_iff books fresh same_row ran finished)

/-- A day as the read, insert and update bolts parse it. -/
def sampleDay (logDate : String) : Option Int :=
  if logDate = "2016-05-01" then some 1462060800000 else none

/-- Two plays of one episode by one device on one day. -/
def twoPlays : List VodToUser :=
  [⟨"p1", "AABB", "src", "chn", "1", "album", "7", some "1", some "v1", 30, 100, "2016-05-01"⟩,
    ⟨"p1", "AABB", "src", "chn", "1", "album", "7", some "1", some "v1", 40, 100, "2016-05-01"⟩]

def twoPlaysKey : Key :=
  ⟨"vod_viscosity_user", userColumns.zip [.text "p1", .text "AABB", .text "src", .text "chn",
    .text "1", .text "album", .text "7", .text "1", .text "v1", .timestamp 1462060800000]⟩

theorem twoPlays_row : ∀ record ∈ twoPlays,
    (vodUser sampleDay).rowOf record = some twoPlaysKey := by
  decide

theorem finished_of_stages {pipeline : Pipeline τ} {s : Pipeline.State τ}
    (stages : s.tuples.map Prod.snd = [.acked .insert, .acked .update] ∨
      s.tuples.map Prod.snd = [.acked .insert, .acked .insert]) : s.Finished pipeline := by
  intro tuple stage member
  have here := List.mem_map_of_mem (f := Prod.snd) member
  rcases stages with same | same <;>
  · rw [same] at here
    simp only [List.mem_cons, List.not_mem_nil, or_false] at here
    rcases here with rfl | rfl <;> rfl

theorem two_plays_counted : ∃ last,
    runSteps (vodUser sampleDay).step (.init (fun _ => none) twoPlays) [0, 0, 0, 1, 1, 1] =
        some last ∧
      RowCounts (vodUser sampleDay) twoPlays twoPlaysKey last := by
  obtain ⟨last, ran, stages⟩ : ∃ last,
      runSteps (vodUser sampleDay).step (.init (fun _ => none) twoPlays) [0, 0, 0, 1, 1, 1] =
          some last ∧
        last.tuples.map Prod.snd = [.acked .insert, .acked .update] := ⟨_, rfl, rfl⟩
  exact ⟨last, ran, (viscosity_row_counts_iff sampleDay .user twoPlays twoPlaysKey (fun _ => none)
    rfl twoPlays_row [0, 0, 0, 1, 1, 1] last ran (finished_of_stages (.inl stages))).mpr ⟨0, _, rfl⟩⟩

/-- Both plays are read before either is written, so the episode counts twice. -/
theorem two_plays_miscounted :
    ¬ ∀ (parseTimestamp : String → Option Int) (table : VodRows) (records : List table.Tuple)
      (key : Key) (rows : Rows) (schedule : List Nat) (last : Pipeline.State table.Tuple),
      rows key = none →
        (∀ record ∈ records, (table.pipeline parseTimestamp).rowOf record = some key) →
          runSteps (table.pipeline parseTimestamp).step (.init rows records) schedule = some last →
            last.Finished (table.pipeline parseTimestamp) →
              RowCounts (table.pipeline parseTimestamp) records key last := by
  intro counts
  obtain ⟨last, ran, stages, twice⟩ : ∃ last,
      runSteps (vodUser sampleDay).step (.init (fun _ => none) twoPlays) [0, 1, 0, 0, 1, 1] =
          some last ∧
        last.tuples.map Prod.snd = [.acked .insert, .acked .insert] ∧
          ((last.rows twoPlaysKey).bind fun row => row "timeLength") = some 200 := ⟨_, rfl, rfl, rfl⟩
  obtain ⟨row, stored, _, _, index, record, found, once, _⟩ :=
    counts sampleDay .user twoPlays twoPlaysKey (fun _ => none) [0, 1, 0, 0, 1, 1] last rfl
      twoPlays_row ran (finished_of_stages (.inr stages))
  rw [stored, Option.bind_some, once] at twice
  have each : ∀ play ∈ twoPlays, play.timeLength = 100 := by decide
  have length : record.timeLength = 100 := each record (List.mem_of_getElem? found)
  have same : record.timeLength = 200 := Option.some.inj twice
  exact absurd (length.symm.trans same) (by decide)

end GitvTime.Guarantees.Viscosity
