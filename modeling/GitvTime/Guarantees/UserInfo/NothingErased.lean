import GitvTime.Guarantees.UserInfo.OpenTimes
import GitvTime.Source.UserInfo.DistinguishBolt

/-!
# What a boot record does to stored columns

The update of `province` and `last_open` is sent for every boot record, with null
for an unknown partner and for a text that is no log time; the update of
`first_open` and `record_date` is sent when `first_open` is null, whatever
`record_date` is. A bound null deletes what the column held.
-/
namespace GitvTime.Guarantees.UserInfo
open GitvTime.Support GitvTime.Source.UserInfo GitvTime.Source.UserInfo.DistinguishBolt
open GitvTime.Source.UserInfo.OpenTimes
open GitvTime.Guarantees.UserInfo.OpenTimes (moved_of_step sampleTime sampleDay firstBoot)

namespace NothingErased

variable (parseTime parseDay : String → Option Int) (boot : Boot) (row : Row)

/-- A row on which nothing was lost: no column became null, a record of an unknown
partner left the province and one without a log time the times. -/
structure Kept (row' : Row) : Prop where
  province : row.province ≠ none → row'.province ≠ none
  lastOpen : row.lastOpen ≠ none → row'.lastOpen ≠ none
  firstOpen : row.firstOpen ≠ none → row'.firstOpen ≠ none
  recordDate : row.recordDate ≠ none → row'.recordDate ≠ none
  unknown : boot.province = none → row'.province = row.province
  unparsed : parseTime boot.lastOpen = none →
    row'.lastOpen = row.lastOpen ∧ row'.firstOpen = row.firstOpen ∧
      row'.recordDate = row.recordDate

/-- The record and the stored row before it. -/
structure Harmless : Prop where
  province : boot.province ≠ none ∨ row.province = none
  lastOpen : parseTime boot.lastOpen ≠ none ∨ row.lastOpen = none
  recordDate : row.firstOpen = none →
    (parseDay boot.lastOpen ≠ none ∨ row.recordDate = none) ∧
      (parseTime boot.lastOpen ≠ none ∨ parseDay boot.lastOpen = row.recordDate)

/-- The row when the record has come this far. -/
def rowAt (fopen : FOpen) (nojudged : Bool) : Row :=
  let opened := fopen = .finished ∧ row.firstOpen = none
  { firstOpen := if opened then parseTime boot.lastOpen else row.firstOpen
    recordDate := if opened then parseDay boot.lastOpen else row.recordDate
    lastOpen := if nojudged = true then parseTime boot.lastOpen else row.lastOpen
    province := if nojudged = true then boot.province else row.province }

/-- The states of a record that is processed alone. -/
def Alone (s : State) : Prop :=
  ∃ fopen nojudged, s = ⟨rowAt parseTime parseDay boot row fopen nojudged,
      [⟨boot, fopen, nojudged⟩]⟩ ∧
    (fopen = .toWrite → row.firstOpen = none)

def startState : State := ⟨row, [⟨boot, .unread, false⟩]⟩

variable {parseTime parseDay boot row}

theorem alone_start : Alone parseTime parseDay boot row (startState boot row) := by
  refine ⟨.unread, false, ?_, ?_⟩
  · simp [rowAt, startState]
  · intro impossible
    cases impossible

theorem only_task {tasks : List BootTask} {task task' : BootTask} {index : Nat}
    (one : tasks = [task]) (found : tasks[index]? = some task') : index = 0 ∧ task' = task := by
  subst one
  cases index with
  | zero => exact ⟨rfl, (Option.some.inj found).symm⟩
  | succ index => cases found

theorem alone_step (s : State) (action : Action) (next : State)
    (alone : Alone parseTime parseDay boot row s)
    (taken : s.step parseTime parseDay action = some next) :
    Alone parseTime parseDay boot row next := by
  obtain ⟨fopen, nojudged, rfl, pending⟩ := alone
  cases moved_of_step taken with
  | fopenIsNull found =>
    obtain ⟨rfl, task⟩ := only_task rfl found
    cases task
    by_cases stored : row.firstOpen = none
    · refine ⟨.toWrite, nojudged, ?_, fun _ => stored⟩
      simp [rowAt, stored]
    · refine ⟨.finished, nojudged, ?_, by simp⟩
      simp [rowAt, stored]
  | fopenUpdate found =>
    obtain ⟨rfl, task⟩ := only_task rfl found
    cases task
    refine ⟨.finished, nojudged, ?_, by simp⟩
    simp [rowAt, pending rfl, fopenUpdate]
  | noJudgeUpdate found =>
    obtain ⟨rfl, task⟩ := only_task rfl found
    cases task
    refine ⟨fopen, true, ?_, pending⟩
    simp [rowAt, noJudgeUpdate]

theorem alone_of_run {actions : List Action} {last : State}
    (reached : runSteps (State.step parseTime parseDay) (startState boot row) actions = some last) :
    Alone parseTime parseDay boot row last := by
  have all : AllStates (State.step parseTime parseDay) (Alone parseTime parseDay boot row)
      (startState boot row) actions := AllStates.of_invariant alone_step actions alone_start
  exact all.last reached

/-- Some run comes to both writes. -/
theorem exists_complete_run :
    ∃ actions, runSteps (State.step parseTime parseDay) (startState boot row) actions =
      some ⟨rowAt parseTime parseDay boot row .finished true, [⟨boot, .finished, true⟩]⟩ := by
  by_cases stored : row.firstOpen = none
  · refine ⟨[.fopenIsNull 0, .noJudgeUpdate 0, .fopenUpdate 0], ?_⟩
    simp [runSteps, State.step, startState, stored, rowAt, noJudgeUpdate, fopenUpdate]
  · refine ⟨[.fopenIsNull 0, .noJudgeUpdate 0], ?_⟩
    simp [runSteps, State.step, startState, stored, rowAt, noJudgeUpdate]

/-! ### The columns along a run -/

/-- A harmless record keeps the row at each point of its way. -/
theorem kept_of_harmless (harmless : Harmless parseTime parseDay boot row) (fopen : FOpen)
    (nojudged : Bool) : Kept parseTime boot row (rowAt parseTime parseDay boot row fopen nojudged) := by
  have date : row.firstOpen = none → parseTime boot.lastOpen = none →
      parseDay boot.lastOpen = row.recordDate := by
    intro unopened unparsed
    exact (harmless.recordDate unopened).2.resolve_left (absurd unparsed)
  refine ⟨?_, ?_, ?_, ?_, ?_, ?_⟩
  · intro stored
    simp only [rowAt]
    split
    · exact harmless.province.resolve_right stored
    · exact stored
  · intro stored
    simp only [rowAt]
    split
    · exact harmless.lastOpen.resolve_right stored
    · exact stored
  · intro stored
    simp only [rowAt]
    split
    · rename_i written
      exact absurd written.2 stored
    · exact stored
  · intro stored
    simp only [rowAt]
    split
    · rename_i written
      exact (harmless.recordDate written.2).1.resolve_right stored
    · exact stored
  · intro unknown
    simp only [rowAt]
    split
    · rw [unknown, harmless.province.resolve_left (absurd unknown)]
    · rfl
  · intro unparsed
    simp only [rowAt]
    refine ⟨?_, ?_, ?_⟩
    · split
      · rw [unparsed, harmless.lastOpen.resolve_left (absurd unparsed)]
      · rfl
    · split
      · rename_i written
        rw [unparsed, written.2]
      · rfl
    · split
      · rename_i written
        exact date written.2 unparsed
      · rfl

/-- A record that keeps the row when it is through is harmless. -/
theorem harmless_of_kept
    (kept : Kept parseTime boot row (rowAt parseTime parseDay boot row .finished true)) :
    Harmless parseTime parseDay boot row := by
  obtain ⟨province, lastOpen, _, recordDate, _, unparsed⟩ := kept
  simp only [rowAt, true_and, if_true] at province lastOpen recordDate unparsed
  refine ⟨?_, ?_, ?_⟩
  · by_cases stored : row.province = none
    · exact .inr stored
    · exact .inl (province stored)
  · by_cases stored : row.lastOpen = none
    · exact .inr stored
    · exact .inl (lastOpen stored)
  · intro unopened
    rw [if_pos unopened] at recordDate
    constructor
    · by_cases stored : row.recordDate = none
      · exact .inr stored
      · exact .inl (recordDate stored)
    · by_cases parsed : parseTime boot.lastOpen = none
      · have same := (unparsed parsed).2.2
        rw [if_pos unopened] at same
        exact .inr same
      · exact .inl parsed

/-- An accepted boot record never erases or touches more than it should, in no order
of its statements, exactly when it is harmless for the stored row. -/
theorem boot_never_erases_iff (parseTime parseDay : String → Option Int)
    (partnerToProvince : String → Option String) (input : LogTuple) (tuple : UpdTuple)
    (accepted : .upd tuple ∈ DistinguishBolt.execute partnerToProvince input) (row : Row) :
    (∀ actions last, runSteps (State.step parseTime parseDay) (startState tuple.boot row) actions =
        some last → Kept parseTime tuple.boot row last.row) ↔
      (partnerToProvince tuple.partner ≠ none ∨ row.province = none) ∧
        (parseTime tuple.lastOpen ≠ none ∨ row.lastOpen = none) ∧
          (row.firstOpen = none →
            (parseDay tuple.lastOpen ≠ none ∨ row.recordDate = none) ∧
              (parseTime tuple.lastOpen ≠ none ∨ parseDay tuple.lastOpen = row.recordDate)) := by
  have province : tuple.boot.province = partnerToProvince tuple.partner :=
    (upd_of_execute accepted).2.2
  rw [← province]
  constructor
  · intro keeps
    obtain ⟨actions, reached⟩ := @exists_complete_run parseTime parseDay tuple.boot row
    have harmless := harmless_of_kept (keeps actions _ reached)
    exact ⟨harmless.province, harmless.lastOpen, harmless.recordDate⟩
  · rintro ⟨known, parsed, dated⟩ actions last reached
    obtain ⟨fopen, nojudged, rfl, _⟩ := alone_of_run reached
    exact kept_of_harmless ⟨known, parsed, dated⟩ fopen nojudged

/-- A box in Anhui boots under a partner name that ZooKeeper does not know, with a log
time of another format. -/
def strayBoot : LogTuple :=
  ⟨some "LIVOD", some "1", some "AH_CMCC_OLD", some "00226d0001f3", some "2.0",
    some "2016/11/18 08:00:00"⟩

def strayTuple : UpdTuple :=
  ⟨some "LIVOD", "00226d0001f3", "AH_CMCC_OLD", none, "2.0", "2016/11/18 08:00:00"⟩

def storedRow : Row := ⟨some 1479427200000, some 1479398400000, some 1479427200000, some "安徽省"⟩

/-- Its province and its last open time are deleted. -/
theorem stray_boot_erases :
    ¬ ∀ (parseTime parseDay : String → Option Int) (partnerToProvince : String → Option String)
      (input : LogTuple) (tuple : UpdTuple),
      .upd tuple ∈ DistinguishBolt.execute partnerToProvince input → ∀ row actions last,
        runSteps (State.step parseTime parseDay) (startState tuple.boot row) actions = some last →
          Kept parseTime tuple.boot row last.row := by
  intro keeps
  have accepted : .upd strayTuple ∈ DistinguishBolt.execute (fun _ => none) strayBoot := by decide
  have reached : runSteps (State.step sampleTime sampleDay) (startState strayTuple.boot storedRow)
      [.noJudgeUpdate 0] =
        some ⟨⟨some 1479427200000, some 1479398400000, none, none⟩,
          [⟨strayTuple.boot, .unread, true⟩]⟩ := rfl
  have kept := keeps _ _ _ _ _ accepted storedRow _ _ reached
  exact kept.province (by simp [storedRow]) rfl

/-- A boot of a known partner whose log time parses. -/
theorem known_boot_keeps :
    ∃ last, runSteps (State.step sampleTime sampleDay)
        (startState ⟨firstBoot.lastOpen, some "安徽省"⟩ storedRow) [.noJudgeUpdate 0] =
          some last ∧
      Kept sampleTime ⟨firstBoot.lastOpen, some "安徽省"⟩ storedRow last.row := by
  have accepted : .upd ⟨some "LIVOD", "00226d0001f3", "AH_CMCC", some "安徽省", "2.0",
      "2016-11-18 08:00:00"⟩ ∈ DistinguishBolt.execute (fun _ => some "安徽省")
        ⟨some "LIVOD", some "1", some "AH_CMCC", some "00226d0001f3", some "2.0",
          some "2016-11-18 08:00:00"⟩ := by decide
  have keeps := (boot_never_erases_iff sampleTime sampleDay _ _ _ accepted storedRow).mpr
    ⟨by decide, by decide, by decide⟩
  exact ⟨_, rfl, keeps [.noJudgeUpdate 0] _ rfl⟩

end NothingErased

end GitvTime.Guarantees.UserInfo
