import Mathlib.Data.List.Basic

/-!
# First and last open times of userinfo-maintain

The `fopen` and `nojudge` branches of the topology for the boot records of one
(partner, mac): `UpdateUinfo_Bolt` sends each record down both, `FOpenIsNull_Bolt`
reads whether the row has a `first_open`, and only if it has none the record goes
on to `FOpen_Update_Bolt`. All groupings are shuffles and all statements are
asynchronous, so the reads and writes of the records come in any order; Cassandra
applies each of them at once. The date parsers are parameters, null when they
fail.
-/
namespace GitvTime.Source.UserInfo

/-- The columns of `user_info` that these bolts read and write. -/
structure Row where
  firstOpen : Option Int := none
  recordDate : Option Int := none
  lastOpen : Option Int := none
  province : Option String := none

/-- A boot record: its log time and the province of its partner. -/
structure Boot where
  lastOpen : String
  province : Option String

/-- Where a record stands in the `fopen` branch. -/
inductive FOpen where
  | unread
  | toWrite
  | finished
deriving DecidableEq

structure BootTask where
  boot : Boot
  fopen : FOpen
  nojudged : Bool

namespace OpenTimes

structure State where
  row : Row
  tasks : List BootTask

def State.init (boots : List Boot) : State :=
  ⟨{}, boots.map fun boot => ⟨boot, .unread, false⟩⟩

/-- A statement of the record with this index. -/
inductive Action where
  | fopenIsNull (index : Nat)
  | fopenUpdate (index : Nat)
  | noJudgeUpdate (index : Nat)
deriving DecidableEq

section
variable (parseTime parseDay : String → Option Int)

/-- `UPDATE_FO_RD`. -/
def fopenUpdate (boot : Boot) (row : Row) : Row :=
  { row with firstOpen := parseTime boot.lastOpen, recordDate := parseDay boot.lastOpen }

/-- `UPDATE_NoJudge`. -/
def noJudgeUpdate (boot : Boot) (row : Row) : Row :=
  { row with province := boot.province, lastOpen := parseTime boot.lastOpen }

def State.step (s : State) : Action → Option State
  | .fopenIsNull index =>
    match s.tasks[index]? with
    | some ⟨boot, .unread, nojudged⟩ =>
      -- count(first_open) is 0 for a null column and for a missing row
      let next := if s.row.firstOpen = none then .toWrite else .finished
      some { s with tasks := s.tasks.set index ⟨boot, next, nojudged⟩ }
    | _ => none
  | .fopenUpdate index =>
    match s.tasks[index]? with
    | some ⟨boot, .toWrite, nojudged⟩ =>
      some ⟨fopenUpdate parseTime parseDay boot s.row,
        s.tasks.set index ⟨boot, .finished, nojudged⟩⟩
    | _ => none
  | .noJudgeUpdate index =>
    match s.tasks[index]? with
    | some ⟨boot, fopen, false⟩ =>
      some ⟨noJudgeUpdate parseTime boot s.row, s.tasks.set index ⟨boot, fopen, true⟩⟩
    | _ => none

end

/-- All records are processed. -/
def State.Finished (s : State) : Prop :=
  ∀ task ∈ s.tasks, task.fopen = .finished ∧ task.nojudged = true

end OpenTimes

end GitvTime.Source.UserInfo
