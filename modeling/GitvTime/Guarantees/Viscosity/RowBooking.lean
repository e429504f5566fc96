import GitvTime.Source.Viscosity.Play
import GitvTime.Support.Runs
import Mathlib.Algebra.BigOperators.Group.List.Basic
import Mathlib.Tactic.Abel

/-!
# What is written to a viscosity row

In every interleaving the counters of a row are the sums over the records that
have been written, the time length over those written by the insert bolt.
-/
namespace GitvTime.Guarantees.Viscosity
open GitvTime.Support GitvTime.Source.Viscosity

/-! ### What the bolts bind -/

/-- The statements of a pipeline address one row and book one click, the play
length and, on the insert stream, the time length. -/
structure Books {τ : Type} (pipeline : Pipeline τ) : Prop where
  insert_bound : ∀ tuple key, pipeline.rowOf tuple = some key →
    pipeline.insertNew.bind (pipeline.bindInsert tuple) =
      some (key, [("click_num", 1), ("playLength", pipeline.playLength tuple),
        ("timeLength", pipeline.timeLength tuple)])
  update_bound : ∀ tuple key, pipeline.rowOf tuple = some key →
    pipeline.updateNew.bind (pipeline.bindUpdate tuple) =
      some (key, [("click_num", 1), ("playLength", pipeline.playLength tuple)])

/-! ### One step -/

variable {τ : Type} {pipeline : Pipeline τ} {key : Key}

/-- The increments of a record on a stream. -/
def increments (pipeline : Pipeline τ) (tuple : τ) : Stream → List (String × Long)
  | .insert => [("click_num", 1), ("playLength", pipeline.playLength tuple),
      ("timeLength", pipeline.timeLength tuple)]
  | .update => [("click_num", 1), ("playLength", pipeline.playLength tuple)]

/-- The number of rows that a read finds. -/
def present (rows : Rows) (key : Key) : Nat := if (rows key).isSome = true then 1 else 0

theorem write_eq (books : Books pipeline) (rows : Rows) {tuple : τ}
    (row : pipeline.rowOf tuple = some key) (stream : Stream) :
    pipeline.write rows tuple stream =
      some (incrementRow rows key (increments pipeline tuple stream)) := by
  cases stream with
  | insert => simp [Pipeline.write, UpdateStatement.execute, books.insert_bound _ _ row, increments]
  | update => simp [Pipeline.write, UpdateStatement.execute, books.update_bound _ _ row, increments]

theorem read_eq (rows : Rows) {tuple : τ} (row : pipeline.rowOf tuple = some key) :
    pipeline.read.execute rows (pipeline.bindRead tuple) = some (present rows key) := by
  have row' : pipeline.read.key (pipeline.bindRead tuple) = some key := row
  simp [CountStatement.execute, row', present]

/-- What a step of a record of the row does. -/
inductive Moves (pipeline : Pipeline τ) (key : Key) (tuple : τ) (rows : Rows) :
    Stage → Rows → Stage → Prop where
  | read : Moves pipeline key tuple rows .toRead rows (.answered (present rows key))
  | route (backCode : Nat) : Moves pipeline key tuple rows (.answered backCode) rows
      (.queued (if backCode = 0 then .insert else .update))
  | write (stream : Stream) : Moves pipeline key tuple rows (.queued stream)
      (incrementRow rows key (increments pipeline tuple stream)) (.acked stream)

theorem advance_moves (books : Books pipeline) {rows rows' : Rows} {tuple : τ}
    {stage stage' : Stage} (row : pipeline.rowOf tuple = some key)
    (taken : pipeline.advance rows tuple stage = some (rows', stage')) :
    Moves pipeline key tuple rows stage rows' stage' := by
  cases stage with
  | toRead =>
    simp only [Pipeline.advance, read_eq rows row] at taken
    cases taken
    exact .read
  | answered backCode =>
    simp only [Pipeline.advance] at taken
    cases taken
    exact .route backCode
  | queued stream =>
    simp only [Pipeline.advance, write_eq books rows row] at taken
    cases taken
    exact .write stream
  | acked stream => cases taken
  | failed => cases taken

/-- A step is a move of the record at its index. -/
theorem step_moves (books : Books pipeline) {s s' : Pipeline.State τ} {index : Nat}
    (same_row : ∀ tuple stage, (tuple, stage) ∈ s.tuples → pipeline.rowOf tuple = some key)
    (taken : pipeline.step s index = some s') :
    ∃ tuple stage stage', s.tuples[index]? = some (tuple, stage) ∧
      s'.tuples = s.tuples.set index (tuple, stage') ∧
        Moves pipeline key tuple s.rows stage s'.rows stage' := by
  unfold Pipeline.step at taken
  split at taken
  · rename_i tuple stage found
    obtain ⟨⟨rows', stage'⟩, advanced, rfl⟩ := Option.map_eq_some_iff.mp taken
    have row := same_row tuple stage (List.mem_of_getElem? found)
    exact ⟨tuple, stage, stage', found, rfl, advance_moves books row advanced⟩
  · cases taken

/-! ### The row is the sum of what was written -/

/-- The sum of a weight over the records whose stage has a property. -/
def total (weight : τ → Long) (counted : Stage → Bool) (tuples : List (τ × Stage)) : Long :=
  (tuples.map fun entry => if counted entry.2 = true then weight entry.1 else 0).sum

theorem total_split (weight : τ → Long) (counted : Stage → Bool) (front back : List (τ × Stage))
    (tuple : τ) (stage : Stage) :
    total weight counted (front ++ (tuple, stage) :: back) =
      total weight counted (front ++ back) + if counted stage = true then weight tuple else 0 := by
  simp only [total, List.map_append, List.map_cons, List.sum_append, List.sum_cons]
  abel

theorem total_eq_zero (weight : τ → Long) {counted : Stage → Bool} {tuples : List (τ × Stage)}
    (none_counted : ∀ tuple stage, (tuple, stage) ∈ tuples → counted stage = false) :
    total weight counted tuples = 0 := by
  refine List.sum_eq_zero fun value member => ?_
  obtain ⟨⟨tuple, stage⟩, here, rfl⟩ := List.mem_map.mp member
  simp [none_counted tuple stage here]

def written : Stage → Bool
  | .acked _ => true
  | _ => false

def inserted : Stage → Bool
  | .acked .insert => true
  | _ => false

/-- The record was read before the row existed. -/
def early : Stage → Bool
  | .answered 0 => true
  | .queued .insert => true
  | .acked .insert => true
  | _ => false

/-- The stages that are possible while the row does not exist. -/
def unwritten : Stage → Bool
  | .toRead => true
  | .answered 0 => true
  | .queued .insert => true
  | _ => false

theorem not_written_of_unwritten {stage : Stage} (before : unwritten stage = true) :
    written stage = false ∧ inserted stage = false := by
  cases stage with
  | acked stream => cases before
  | _ => exact ⟨rfl, rfl⟩

structure RowInv (pipeline : Pipeline τ) (key : Key) (s : Pipeline.State τ) : Prop where
  same_row : ∀ tuple stage, (tuple, stage) ∈ s.tuples → pipeline.rowOf tuple = some key
  unfailed : ∀ tuple stage, (tuple, stage) ∈ s.tuples → stage ≠ .failed
  absent : s.rows key = none → ∀ tuple stage, (tuple, stage) ∈ s.tuples → unwritten stage = true
  booked : ∀ row, s.rows key = some row →
    row "click_num" = some (total (fun _ => 1) written s.tuples) ∧
      row "playLength" = some (total pipeline.playLength written s.tuples) ∧
        row "timeLength" = some (total pipeline.timeLength inserted s.tuples)

/-- The counters before an increment; those of an absent row are zero. -/
theorem RowInv.counters {s : Pipeline.State τ} (inv : RowInv pipeline key s) :
    let row := (s.rows key).getD fun _ => none
    (row "click_num").getD 0 = total (fun _ => 1) written s.tuples ∧
      (row "playLength").getD 0 = total pipeline.playLength written s.tuples ∧
        (row "timeLength").getD 0 = total pipeline.timeLength inserted s.tuples := by
  cases exists_row : s.rows key with
  | none =>
    have before := fun tuple stage member =>
      not_written_of_unwritten (inv.absent exists_row tuple stage member)
    simp only [Option.getD_none]
    exact ⟨(total_eq_zero _ fun t st m => (before t st m).1).symm,
      (total_eq_zero _ fun t st m => (before t st m).1).symm,
      (total_eq_zero _ fun t st m => (before t st m).2).symm⟩
  | some row =>
    obtain ⟨clicks, played, timed⟩ := inv.booked row exists_row
    simp [clicks, played, timed]

theorem total_moved (weight : τ → Long) (counted : Stage → Bool) (front back : List (τ × Stage))
    (tuple : τ) (stage stage' : Stage) :
    total weight counted (front ++ (tuple, stage') :: back) +
        (if counted stage = true then weight tuple else 0) =
      total weight counted (front ++ (tuple, stage) :: back) +
        if counted stage' = true then weight tuple else 0 := by
  rw [total_split, total_split]
  abel

theorem forall_replaced {P : τ → Stage → Prop} {front back : List (τ × Stage)} {tuple : τ}
    {stage stage' : Stage} (all : ∀ t st, (t, st) ∈ front ++ (tuple, stage) :: back → P t st)
    (new : P tuple stage') : ∀ t st, (t, st) ∈ front ++ (tuple, stage') :: back → P t st := by
  intro t st member
  rcases List.mem_append.mp member with early | late
  · exact all t st (by simp [early])
  · rcases List.mem_cons.mp late with same | late
    · cases same
      exact new
    · exact all t st (by simp [late])

/-- A record that is not written keeps the sums. -/
theorem RowInv.move {rows : Rows} {front back : List (τ × Stage)} {tuple : τ}
    {stage stage' : Stage} (inv : RowInv pipeline key ⟨rows, front ++ (tuple, stage) :: back⟩)
    (old : written stage = false ∧ inserted stage = false)
    (new : written stage' = false ∧ inserted stage' = false) (unfailed : stage' ≠ .failed)
    (absent : rows key = none → unwritten stage' = true) :
    RowInv pipeline key ⟨rows, front ++ (tuple, stage') :: back⟩ := by
  have kept : ∀ weight counted, counted stage = false → counted stage' = false →
      total weight counted (front ++ (tuple, stage') :: back) =
        total weight counted (front ++ (tuple, stage) :: back) := by
    intro weight counted off off'
    simpa [off, off'] using total_moved weight counted front back tuple stage stage'
  refine ⟨?_, ?_, fun none_yet => ?_, fun row stored => ?_⟩
  · exact forall_replaced inv.same_row (inv.same_row tuple stage (by simp))
  · exact forall_replaced inv.unfailed unfailed
  · exact forall_replaced (inv.absent none_yet) (absent none_yet)
  · rw [kept _ _ old.1 new.1, kept _ _ old.1 new.1, kept _ _ old.2 new.2]
    exact inv.booked row stored

/-- A written record is added to the sums. -/
theorem RowInv.write {rows : Rows} {front back : List (τ × Stage)} {tuple : τ} {stream : Stream}
    (inv : RowInv pipeline key ⟨rows, front ++ (tuple, .queued stream) :: back⟩) :
    RowInv pipeline key ⟨incrementRow rows key (increments pipeline tuple stream),
      front ++ (tuple, .acked stream) :: back⟩ := by
  refine ⟨?_, ?_, fun none_yet => ?_, fun row stored => ?_⟩
  · exact forall_replaced inv.same_row (inv.same_row tuple (.queued stream) (by simp))
  · exact forall_replaced inv.unfailed (by simp)
  · simp at none_yet
  · obtain ⟨clicks, played, timed⟩ := inv.counters
    have added := fun weight counted =>
      total_moved weight counted front back tuple (.queued stream) (.acked stream)
    have click := added (fun _ => 1) written
    have play := added pipeline.playLength written
    have time := added pipeline.timeLength inserted
    simp only [incrementRow_self, Option.some.injEq] at stored
    simp only [written, inserted, Bool.false_eq_true, if_false, add_zero] at click play time
    cases stream with
    | insert =>
      subst stored
      simp only [if_true] at click play time
      rw [click, play, time, ← clicks, ← played, ← timed]
      simp [increments, Row.increment]
    | update =>
      have there : rows key ≠ none := fun none_yet => by
        cases inv.absent none_yet tuple (.queued .update) (by simp)
      obtain ⟨old, exists_row⟩ := Option.ne_none_iff_exists'.mp there
      have kept_time := (inv.booked old exists_row).2.2
      subst stored
      simp only [if_true, Bool.false_eq_true, if_false, add_zero] at click play time
      rw [click, play, time, ← clicks, ← played, ← kept_time]
      simp [increments, Row.increment, exists_row]

theorem RowInv.step (books : Books pipeline) {s s' : Pipeline.State τ} {index : Nat}
    (inv : RowInv pipeline key s) (taken : pipeline.step s index = some s') :
    RowInv pipeline key s' := by
  obtain ⟨tuple, stage, stage', found, tuples_eq, moves⟩ := step_moves books inv.same_row taken
  obtain ⟨front, back, before, _, after⟩ := split_at_index found
  rw [after] at tuples_eq
  obtain ⟨rows, tuples⟩ := s
  obtain ⟨rows', tuples'⟩ := s'
  subst before tuples_eq
  cases moves with
  | read =>
    exact inv.move ⟨rfl, rfl⟩ ⟨rfl, rfl⟩ (by simp) fun none_yet => by
      simp [present, none_yet, unwritten]
  | route backCode =>
    refine inv.move ⟨rfl, rfl⟩ ⟨rfl, rfl⟩ (by simp) fun none_yet => ?_
    have before := inv.absent none_yet tuple (.answered backCode) (by simp)
    cases backCode with
    | zero => rfl
    | succ n => cases before
  | write stream => exact inv.write

theorem RowInv.init {rows : Rows} {records : List τ} (fresh : rows key = none)
    (same_row : ∀ record ∈ records, pipeline.rowOf record = some key) :
    RowInv pipeline key (Pipeline.State.init rows records) := by
  refine ⟨?_, ?_, fun _ => ?_, fun row stored => ?_⟩
  · intro tuple stage member
    obtain ⟨record, here, same⟩ := List.mem_map.mp member
    cases same
    exact same_row _ here
  · intro tuple stage member
    obtain ⟨record, _, same⟩ := List.mem_map.mp member
    cases same
    simp
  · intro tuple stage member
    obtain ⟨record, _, same⟩ := List.mem_map.mp member
    cases same
    rfl
  · exact absurd (fresh.symm.trans stored) (by simp)

end GitvTime.Guarantees.Viscosity
