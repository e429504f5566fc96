import GitvTime.Source.UserInfo.OpenTimes
import GitvTime.Support.Runs

/-!
# Which record decides the open times

The writes of `first_open` are those of the records that were read before the
first of these writes; each of them overwrites the one before, and so do the
writes of `last_open`. So the row ends right exactly when the last write of each
kind is of the right record, and nothing orders these writes by log time.
-/
namespace GitvTime.Guarantees.UserInfo
open GitvTime.Support GitvTime.Source.UserInfo
open GitvTime.Source.UserInfo.OpenTimes (fopenUpdate noJudgeUpdate)

namespace OpenTimes
open GitvTime.Source.UserInfo.OpenTimes

/-! ### Steps -/

section
variable {parseTime parseDay : String → Option Int}

/-- What a step found and what it did. -/
inductive Moved (parseTime parseDay : String → Option Int) (s : State) : Action → State → Prop
  | fopenIsNull {index : Nat} {boot : Boot} {nojudged : Bool}
      (found : s.tasks[index]? = some ⟨boot, .unread, nojudged⟩) :
      Moved parseTime parseDay s (.fopenIsNull index)
        ⟨s.row, s.tasks.set index
          ⟨boot, if s.row.firstOpen = none then .toWrite else .finished, nojudged⟩⟩
  | fopenUpdate {index : Nat} {boot : Boot} {nojudged : Bool}
      (found : s.tasks[index]? = some ⟨boot, .toWrite, nojudged⟩) :
      Moved parseTime parseDay s (.fopenUpdate index)
        ⟨fopenUpdate parseTime parseDay boot s.row,
          s.tasks.set index ⟨boot, .finished, nojudged⟩⟩
  | noJudgeUpdate {index : Nat} {boot : Boot} {fopen : FOpen}
      (found : s.tasks[index]? = some ⟨boot, fopen, false⟩) :
      Moved parseTime parseDay s (.noJudgeUpdate index)
        ⟨noJudgeUpdate parseTime boot s.row, s.tasks.set index ⟨boot, fopen, true⟩⟩

theorem moved_of_step {s s' : State} {action : Action}
    (taken : s.step parseTime parseDay action = some s') :
    Moved parseTime parseDay s action s' := by
  cases action with
  | fopenIsNull index =>
    simp only [State.step] at taken
    split at taken
    · rename_i found
      cases taken
      exact .fopenIsNull found
    · cases taken
  | fopenUpdate index =>
    simp only [State.step] at taken
    split at taken
    · rename_i found
      cases taken
      exact .fopenUpdate found
    · cases taken
  | noJudgeUpdate index =>
    simp only [State.step] at taken
    split at taken
    · rename_i found
      cases taken
      exact .noJudgeUpdate found
    · cases taken

/-- The records of the tasks. -/
def bootsOf (s : State) : List Boot := s.tasks.map BootTask.boot

theorem bootsOf_step {s s' : State} {action : Action}
    (taken : s.step parseTime parseDay action = some s') : bootsOf s' = bootsOf s := by
  cases moved_of_step taken with
  | fopenIsNull found => exact map_set_same found rfl
  | fopenUpdate found => exact map_set_same found rfl
  | noJudgeUpdate found => exact map_set_same found rfl

theorem boot_of_found {s : State} {index : Nat} {task : BootTask}
    (found : s.tasks[index]? = some task) : (bootsOf s)[index]? = some task.boot := by
  rw [bootsOf, List.getElem?_map, found]
  rfl

/-! ### Which records write `first_open` -/

def stageAt (s : State) (index : Nat) : Option FOpen := s.tasks[index]?.map BootTask.fopen

theorem stageAt_set {tasks : List BootTask} {index : Nat} {task task' : BootTask} {row : Row}
    (found : tasks[index]? = some task) (other : Nat) :
    stageAt ⟨row, tasks.set index task'⟩ other =
      if index = other then some task'.fopen else stageAt ⟨row, tasks⟩ other := by
  unfold stageAt
  by_cases here : index = other
  · subst here
    rw [List.getElem?_set_self', found, if_pos rfl]
    rfl
  · rw [List.getElem?_set_ne here, if_neg here]

/-- A record comes to its write only by a read that found no `first_open`. -/
theorem toWrite_before {s s' : State} {action : Action}
    (taken : s.step parseTime parseDay action = some s') {index : Nat}
    (later : stageAt s' index = some .toWrite) :
    stageAt s index = some .toWrite ∨
      (action = .fopenIsNull index ∧ s.row.firstOpen = none) := by
  cases moved_of_step taken with
  | fopenIsNull found =>
    rename_i at_index boot nojudged
    rw [stageAt_set found] at later
    by_cases here : at_index = index
    · rw [if_pos here] at later
      refine .inr ⟨by rw [here], ?_⟩
      by_contra present
      simp [present] at later
    · rw [if_neg here] at later
      exact .inl later
  | fopenUpdate found =>
    rename_i at_index boot nojudged
    rw [stageAt_set found] at later
    by_cases here : at_index = index
    · simp [here] at later
    · rw [if_neg here] at later
      exact .inl later
  | noJudgeUpdate found =>
    rename_i at_index boot fopen
    rw [stageAt_set found] at later
    by_cases here : at_index = index
    · rw [if_pos here] at later
      left
      rw [← here, stageAt, found]
      exact later
    · rw [if_neg here] at later
      exact .inl later

theorem stageAt_of_update {s s' : State} {index : Nat}
    (taken : s.step parseTime parseDay (.fopenUpdate index) = some s') :
    stageAt s index = some .toWrite := by
  cases moved_of_step taken with
  | fopenUpdate found =>
    rw [stageAt, found]
    rfl

/-- Every log time parses. -/
def Parsable (parseTime parseDay : String → Option Int) (boots : List Boot) : Prop :=
  ∀ boot ∈ boots, (parseTime boot.lastOpen).isSome ∧ (parseDay boot.lastOpen).isSome

/-- No write empties the column. -/
theorem firstOpen_of_update {s s' : State} {index : Nat}
    (parsable : Parsable parseTime parseDay (bootsOf s))
    (taken : s.step parseTime parseDay (.fopenUpdate index) = some s') :
    s'.row.firstOpen ≠ none := by
  cases moved_of_step taken with
  | fopenUpdate found =>
    have parses := (parsable _ (List.mem_of_getElem? (boot_of_found found))).1
    exact Option.isSome_iff_ne_none.mp parses

theorem firstOpen_kept {s s' : State} {action : Action}
    (parsable : Parsable parseTime parseDay (bootsOf s))
    (taken : s.step parseTime parseDay action = some s') (present : s.row.firstOpen ≠ none) :
    s'.row.firstOpen ≠ none := by
  cases moved_of_step taken with
  | fopenIsNull _ => exact present
  | fopenUpdate found => exact firstOpen_of_update parsable taken
  | noJudgeUpdate _ => exact present

end

/-- The index of a write of `first_open`. -/
def fopenWrite? : Action → Option Nat
  | .fopenUpdate index => some index
  | .fopenIsNull _ | .noJudgeUpdate _ => none

/-- The index of a read of `first_open`. -/
def fopenRead? : Action → Option Nat
  | .fopenIsNull index => some index
  | .fopenUpdate _ | .noJudgeUpdate _ => none

/-- The index of a write of `last_open`. -/
def noJudgeWrite? : Action → Option Nat
  | .noJudgeUpdate index => some index
  | .fopenIsNull _ | .fopenUpdate _ => none

/-- The records read before the first write of `first_open`. -/
def racers (actions : List Action) : List Nat :=
  (actions.takeWhile fun action => (fopenWrite? action).isNone).filterMap fopenRead?

section
variable {parseTime parseDay : String → Option Int}

/-- Once `first_open` is there only the records that had read before write it. -/
theorem toWrite_of_written {actions : List Action} {s last : State}
    (parsable : Parsable parseTime parseDay (bootsOf s)) (present : s.row.firstOpen ≠ none)
    (reached : runSteps (State.step parseTime parseDay) s actions = some last) {index : Nat}
    (written : index ∈ actions.filterMap fopenWrite?) : stageAt s index = some .toWrite := by
  induction actions generalizing s with
  | nil => cases written
  | cons action rest ih =>
    obtain ⟨next, taken, onward⟩ := Option.bind_eq_some_iff.mp reached
    have later : index ∈ rest.filterMap fopenWrite? → stageAt s index = some .toWrite := by
      intro written
      have parsable' : Parsable parseTime parseDay (bootsOf next) := by
        rw [bootsOf_step taken]
        exact parsable
      have stage := ih parsable' (firstOpen_kept parsable taken present) onward written
      refine (toWrite_before taken stage).resolve_right fun read => ?_
      exact present read.2
    cases action with
    | fopenIsNull _ | noJudgeUpdate _ => exact later written
    | fopenUpdate here =>
      rcases List.mem_cons.mp written with rfl | written
      · exact stageAt_of_update taken
      · exact later written

/-- Every record that writes `first_open` was read before the first write. -/
theorem racer_of_written {actions : List Action} {s last : State}
    (parsable : Parsable parseTime parseDay (bootsOf s))
    (reached : runSteps (State.step parseTime parseDay) s actions = some last) {index : Nat}
    (written : index ∈ actions.filterMap fopenWrite?) :
    stageAt s index = some .toWrite ∨ index ∈ racers actions := by
  induction actions generalizing s with
  | nil => cases written
  | cons action rest ih =>
    obtain ⟨next, taken, onward⟩ := Option.bind_eq_some_iff.mp reached
    have parsable' : Parsable parseTime parseDay (bootsOf next) := by
      rw [bootsOf_step taken]
      exact parsable
    cases action with
    | fopenUpdate here =>
      left
      rcases List.mem_cons.mp written with rfl | written
      · exact stageAt_of_update taken
      · have stage := toWrite_of_written parsable' (firstOpen_of_update parsable taken) onward
          written
        exact (toWrite_before taken stage).resolve_right nofun
    | fopenIsNull here =>
      rcases ih parsable' onward written with stage | raced
      · rcases toWrite_before taken stage with stage | ⟨same, _⟩
        · exact .inl stage
        · cases same
          exact .inr List.mem_cons_self
      · exact .inr (List.mem_cons_of_mem _ raced)
    | noJudgeUpdate here =>
      rcases ih parsable' onward written with stage | raced
      · exact .inl ((toWrite_before taken stage).resolve_right nofun)
      · exact .inr raced

/-! ### The last writes -/

/-- As long as nothing is written no record leaves the `fopen` branch. -/
theorem unwritten_run {actions : List Action} {s last : State} {index : Nat}
    (unwritten : actions.filterMap fopenWrite? = [])
    (reached : runSteps (State.step parseTime parseDay) s actions = some last)
    (absent : s.row.firstOpen = none) (open_ : stageAt s index ≠ some .finished) :
    stageAt last index ≠ some .finished := by
  induction actions generalizing s with
  | nil =>
    cases reached
    exact open_
  | cons action rest ih =>
    obtain ⟨next, taken, onward⟩ := Option.bind_eq_some_iff.mp reached
    cases moved_of_step taken with
    | fopenUpdate _ => cases unwritten
    | fopenIsNull found =>
      refine ih unwritten onward absent ?_
      rw [stageAt_set found, if_pos absent]
      split
      · nofun
      · exact open_
    | noJudgeUpdate found =>
      rename_i at_index boot fopen
      refine ih unwritten onward absent ?_
      rw [stageAt_set found]
      by_cases here : at_index = index
      · rw [if_pos here]
        rw [← here, stageAt, found] at open_
        exact open_
      · rw [if_neg here]
        exact open_

def nojudgedAt (s : State) (index : Nat) : Option Bool := s.tasks[index]?.map BootTask.nojudged

/-- Only its own write finishes a record in the other branch. -/
theorem unjudged_run {actions : List Action} {s last : State} {index : Nat}
    (unwritten : index ∉ actions.filterMap noJudgeWrite?)
    (reached : runSteps (State.step parseTime parseDay) s actions = some last)
    (open_ : nojudgedAt s index = some false) : nojudgedAt last index = some false := by
  induction actions generalizing s with
  | nil =>
    cases reached
    exact open_
  | cons action rest ih =>
    obtain ⟨next, taken, onward⟩ := Option.bind_eq_some_iff.mp reached
    have kept : ∀ {at_index : Nat} {task task' : BootTask}, s.tasks[at_index]? = some task →
        (at_index = index → task'.nojudged = task.nojudged) →
          (s.tasks.set at_index task')[index]?.map BootTask.nojudged = some false := by
      intro at_index task task' found same
      by_cases here : at_index = index
      · subst here
        rw [nojudgedAt, found] at open_
        rw [List.getElem?_set_self', found]
        exact (congrArg some (same rfl)).trans open_
      · rw [List.getElem?_set_ne here]
        exact open_
    cases moved_of_step taken with
    | fopenIsNull found => exact ih unwritten onward (kept found fun _ => rfl)
    | fopenUpdate found => exact ih unwritten onward (kept found fun _ => rfl)
    | noJudgeUpdate found =>
      obtain ⟨different, unwritten⟩ := List.ne_and_not_mem_of_not_mem_cons unwritten
      exact ih unwritten onward (kept found fun here => absurd here.symm different)

/-- The record that a step is about. -/
def actionIndex : Action → Nat
  | .fopenIsNull index | .fopenUpdate index | .noJudgeUpdate index => index

theorem actionIndex_valid {actions : List Action} {s last : State}
    (reached : runSteps (State.step parseTime parseDay) s actions = some last) :
    ∀ action ∈ actions, ∃ boot, (bootsOf s)[actionIndex action]? = some boot := by
  induction actions generalizing s with
  | nil => exact fun _ member => absurd member List.not_mem_nil
  | cons action rest ih =>
    obtain ⟨next, taken, onward⟩ := Option.bind_eq_some_iff.mp reached
    intro other member
    rcases List.mem_cons.mp member with rfl | member
    · cases moved_of_step taken with
      | fopenIsNull found => exact ⟨_, boot_of_found found⟩
      | fopenUpdate found => exact ⟨_, boot_of_found found⟩
      | noJudgeUpdate found => exact ⟨_, boot_of_found found⟩
    · rw [← bootsOf_step taken]
      exact ih onward other member

theorem bootsOf_init (boots : List Boot) : bootsOf (State.init boots) = boots := by
  rw [bootsOf, State.init, List.map_map]
  exact List.map_id boots

/-- The columns hold what their last write put there. -/
theorem row_of_last_writes {boots : List Boot} {actions : List Action} {last : State}
    (reached : runSteps (State.step parseTime parseDay) (State.init boots) actions = some last) :
    (∀ index boot, (actions.filterMap fopenWrite?).getLast? = some index →
      boots[index]? = some boot → last.row.firstOpen = parseTime boot.lastOpen ∧
        last.row.recordDate = parseDay boot.lastOpen) ∧
    (∀ index boot, (actions.filterMap noJudgeWrite?).getLast? = some index →
      boots[index]? = some boot → last.row.lastOpen = parseTime boot.lastOpen) := by
  have start := bootsOf_init boots
  have kept : ∀ s action s', bootsOf s = boots →
      State.step parseTime parseDay s action = some s' → bootsOf s' = boots :=
    fun s action s' same taken => (bootsOf_step taken).trans same
  constructor
  · let write (index : Nat) : Option Int × Option Int :=
      (boots[index]?.bind fun boot => parseTime boot.lastOpen,
        boots[index]?.bind fun boot => parseDay boot.lastOpen)
    have final := field_of_last_write (fun s => bootsOf s = boots)
      (fun s => (s.row.firstOpen, s.row.recordDate))
      (fun action => (fopenWrite? action).map write) kept ?_ actions start reached
    · intro index boot at_last found
      rw [← List.map_filterMap, List.getLast?_map, at_last] at final
      simpa [write, found] using final
    · intro s action s' same taken
      cases moved_of_step taken with
      | fopenIsNull _ | noJudgeUpdate _ => rfl
      | fopenUpdate found =>
        have boot := boot_of_found found
        rw [same] at boot
        simp [fopenWrite?, write, boot, fopenUpdate]
  · let write (index : Nat) : Option Int := boots[index]?.bind fun boot => parseTime boot.lastOpen
    have final := field_of_last_write (fun s => bootsOf s = boots) (fun s => s.row.lastOpen)
      (fun action => (noJudgeWrite? action).map write) kept ?_ actions start reached
    · intro index boot at_last found
      rw [← List.map_filterMap, List.getLast?_map, at_last] at final
      simpa [write, found] using final
    · intro s action s' same taken
      cases moved_of_step taken with
      | fopenIsNull _ | fopenUpdate _ => rfl
      | noJudgeUpdate found =>
        have boot := boot_of_found found
        rw [same] at boot
        simp [noJudgeWrite?, write, boot, noJudgeUpdate]

end

/-! ### The row at the end -/

section
variable (parseTime parseDay : String → Option Int)

/-- No record has an earlier log time. -/
def Earliest (boots : List Boot) (boot : Boot) : Prop :=
  ∀ other ∈ boots, ∀ t u, parseTime boot.lastOpen = some t → parseTime other.lastOpen = some u →
    t ≤ u

/-- No record has a later log time. -/
def Latest (boots : List Boot) (boot : Boot) : Prop :=
  ∀ other ∈ boots, ∀ t u, parseTime boot.lastOpen = some t → parseTime other.lastOpen = some u →
    u ≤ t

/-- `first_open` is the earliest log time and `record_date` its day; `last_open` is
the latest log time. -/
structure TimesRight (boots : List Boot) (row : Row) : Prop where
  first : ∃ boot ∈ boots, Earliest parseTime boots boot ∧
    row.firstOpen = parseTime boot.lastOpen ∧ row.recordDate = parseDay boot.lastOpen
  last : ∃ boot ∈ boots, Latest parseTime boots boot ∧ row.lastOpen = parseTime boot.lastOpen

/-- Of the records read before the first write of `first_open`, the one written
last is an earliest one; the last write of `last_open` is of a latest one. -/
structure InOrder (boots : List Boot) (actions : List Action) : Prop where
  first : ∃ index ∈ racers actions, ∃ boot, boots[index]? = some boot ∧
    (actions.filterMap fopenWrite?).getLast? = some index ∧ Earliest parseTime boots boot
  last : ∃ index boot, boots[index]? = some boot ∧
    (actions.filterMap noJudgeWrite?).getLast? = some index ∧ Latest parseTime boots boot

end

section
variable {parseTime parseDay : String → Option Int}

theorem stageAt_init (boots : List Boot) (index : Nat) :
    stageAt (State.init boots) index ≠ some .toWrite := by
  rw [stageAt, State.init, List.getElem?_map]
  cases boots[index]? with
  | none => exact nofun
  | some boot => exact nofun

/-- In a complete run of some record there is a last write of each kind. -/
theorem last_writers {boots : List Boot} {actions : List Action} {last : State}
    (nonempty : boots ≠ []) (parsable : Parsable parseTime parseDay boots)
    (reached : runSteps (State.step parseTime parseDay) (State.init boots) actions = some last)
    (finished : last.Finished) :
    (∃ index ∈ racers actions, ∃ boot, boots[index]? = some boot ∧
      (actions.filterMap fopenWrite?).getLast? = some index) ∧
    ∃ index boot, boots[index]? = some boot ∧
      (actions.filterMap noJudgeWrite?).getLast? = some index := by
  have start := bootsOf_init boots
  have parsable' : Parsable parseTime parseDay (bootsOf (State.init boots)) := by
    rw [start]
    exact parsable
  have valid := actionIndex_valid reached
  rw [start] at valid
  obtain ⟨first, rest, cons⟩ := List.exists_cons_of_ne_nil nonempty
  have stage : stageAt (State.init boots) 0 = some .unread := by rw [cons]; rfl
  have nojudged : nojudgedAt (State.init boots) 0 = some false := by rw [cons]; rfl
  have kept : bootsOf last = boots := by
    have along : AllStates (State.step parseTime parseDay) (fun s => bootsOf s = boots)
        (State.init boots) actions := by
      refine AllStates.of_invariant ?_ actions start
      intro s action s' same taken
      exact (bootsOf_step taken).trans same
    exact along.last reached
  obtain ⟨task, at_zero⟩ : ∃ task, last.tasks[0]? = some task := by
    rw [cons, bootsOf] at kept
    obtain ⟨task, tasks, tasks_eq, _⟩ := List.map_eq_cons_iff.mp kept
    exact ⟨task, by rw [tasks_eq]; rfl⟩
  obtain ⟨fopen_done, nojudge_done⟩ := finished task (List.mem_of_getElem? at_zero)
  constructor
  · cases writes : (actions.filterMap fopenWrite?).getLast? with
    | none =>
      have unwritten := List.getLast?_eq_none_iff.mp writes
      refine absurd ?_ (unwritten_run unwritten reached rfl (by rw [stage]; nofun))
      rw [stageAt, at_zero, ← fopen_done]
      rfl
    | some index =>
      have written := List.mem_of_getLast? writes
      have raced := (racer_of_written parsable' reached written).resolve_left
        (stageAt_init boots index)
      obtain ⟨action, taken, about⟩ := List.mem_filterMap.mp written
      obtain ⟨boot, found⟩ := valid action taken
      refine ⟨index, raced, boot, ?_, rfl⟩
      cases action with
      | fopenIsNull _ | noJudgeUpdate _ => cases about
      | fopenUpdate at_index =>
        cases about
        exact found
  · cases writes : (actions.filterMap noJudgeWrite?).getLast? with
    | none =>
      have unwritten := List.getLast?_eq_none_iff.mp writes
      have still := unjudged_run (by rw [unwritten]; exact List.not_mem_nil) reached nojudged
      rw [nojudgedAt, at_zero, Option.map_some, nojudge_done] at still
      cases still
    | some index =>
      obtain ⟨action, taken, about⟩ := List.mem_filterMap.mp (List.mem_of_getLast? writes)
      obtain ⟨boot, found⟩ := valid action taken
      refine ⟨index, boot, ?_, rfl⟩
      cases action with
      | fopenIsNull _ | fopenUpdate _ => cases about
      | noJudgeUpdate at_index =>
        cases about
        exact found

/-- A record with the log time of an earliest one is an earliest one, and likewise
for the latest. -/
theorem Earliest.congr {boots : List Boot} {boot other : Boot}
    (earliest : Earliest parseTime boots boot)
    (same : parseTime other.lastOpen = parseTime boot.lastOpen) :
    Earliest parseTime boots other := by
  intro third member t u at_t at_u
  exact earliest third member t u (same ▸ at_t) at_u

theorem Latest.congr {boots : List Boot} {boot other : Boot}
    (latest : Latest parseTime boots boot)
    (same : parseTime other.lastOpen = parseTime boot.lastOpen) :
    Latest parseTime boots other := by
  intro third member t u at_t at_u
  exact latest third member t u (same ▸ at_t) at_u

/-- Once all records of the device are processed, in any order, the open times are
right exactly when the last writes are of the right records. -/
theorem open_times_right_iff {boots : List Boot} {actions : List Action} {last : State}
    (nonempty : boots ≠ []) (parsable : Parsable parseTime parseDay boots)
    (reached : runSteps (State.step parseTime parseDay) (State.init boots) actions = some last)
    (finished : last.Finished) :
    TimesRight parseTime parseDay boots last.row ↔ InOrder parseTime boots actions := by
  obtain ⟨⟨index, raced, boot, found, at_last⟩, index', boot', found', at_last'⟩ :=
    last_writers nonempty parsable reached finished
  obtain ⟨opens, closes⟩ := row_of_last_writes reached
  obtain ⟨first_eq, date_eq⟩ := opens index boot at_last found
  have last_eq := closes index' boot' at_last' found'
  constructor
  · rintro ⟨⟨first, _, earliest, is_first, _⟩, ⟨latest, _, is_latest, is_last⟩⟩
    have first_time := first_eq.symm.trans is_first
    have last_time := last_eq.symm.trans is_last
    exact ⟨⟨index, raced, boot, found, at_last, earliest.congr first_time⟩,
      ⟨index', boot', found', at_last', is_latest.congr last_time⟩⟩
  · rintro ⟨⟨i, _, b, found_b, at_b, earliest⟩, ⟨j, c, found_c, at_c, latest⟩⟩
    cases at_b.symm.trans at_last
    cases found_b.symm.trans found
    cases at_c.symm.trans at_last'
    cases found_c.symm.trans found'
    exact ⟨⟨_, List.mem_of_getElem? found_b, earliest, first_eq, date_eq⟩,
      ⟨_, List.mem_of_getElem? found_c, latest, last_eq⟩⟩

end

/-! ### Two boots -/

def firstBoot : Boot := ⟨"2016-11-18 08:00:00", some "江苏省"⟩

def secondBoot : Boot := ⟨"2016-11-19 09:30:00", some "江苏省"⟩

/-- The two log times and the day of each, in the time zone of the cluster. -/
def sampleTime (text : String) : Option Int :=
  if text = firstBoot.lastOpen then some 1479427200000
  else if text = secondBoot.lastOpen then some 1479519000000
  else none

def sampleDay (text : String) : Option Int :=
  if text = firstBoot.lastOpen then some 1479398400000
  else if text = secondBoot.lastOpen then some 1479484800000
  else none

theorem sample_parsable : Parsable sampleTime sampleDay [firstBoot, secondBoot] := by
  unfold Parsable
  decide

/-- One record after the other, by log time. -/
def orderedRun : List Action :=
  [.fopenIsNull 0, .fopenUpdate 0, .noJudgeUpdate 0, .fopenIsNull 1, .noJudgeUpdate 1]

/-- One record after the other, the later one first. -/
def reversedRun : List Action :=
  [.fopenIsNull 1, .fopenUpdate 1, .noJudgeUpdate 1, .fopenIsNull 0, .noJudgeUpdate 0]

/-- Both boots processed, with this row. -/
def processed (row : Row) : State :=
  ⟨row, [⟨firstBoot, .finished, true⟩, ⟨secondBoot, .finished, true⟩]⟩

theorem processed_finished (row : Row) : (processed row).Finished := by
  simp [State.Finished, processed]

theorem ordered_boots_right :
    TimesRight sampleTime sampleDay [firstBoot, secondBoot]
      ⟨some 1479427200000, some 1479398400000, some 1479519000000, some "江苏省"⟩ := by
  have reached : runSteps (State.step sampleTime sampleDay) (State.init [firstBoot, secondBoot])
      orderedRun = some (processed
        ⟨some 1479427200000, some 1479398400000, some 1479519000000, some "江苏省"⟩) := rfl
  refine (open_times_right_iff (by simp) sample_parsable reached (processed_finished _)).mpr ?_
  refine ⟨⟨0, by decide, firstBoot, rfl, rfl, ?_⟩, ⟨1, secondBoot, rfl, rfl, ?_⟩⟩
  · intro other member t u at_t at_u
    cases at_t
    rcases List.mem_pair.mp member with rfl | rfl
    · cases at_u
      decide
    · cases at_u
      decide
  · intro other member t u at_t at_u
    cases at_t
    rcases List.mem_pair.mp member with rfl | rfl
    · cases at_u
      decide
    · cases at_u
      decide

/-- The later boot is processed first and keeps `first_open`. -/
theorem late_boot_keeps_first_open :
    ¬ ∀ (parseTime parseDay : String → Option Int) (boots : List Boot) (actions : List Action)
      (last : State), boots ≠ [] → Parsable parseTime parseDay boots →
        runSteps (State.step parseTime parseDay) (State.init boots) actions = some last →
          last.Finished → TimesRight parseTime parseDay boots last.row := by
  intro right
  have reached : runSteps (State.step sampleTime sampleDay) (State.init [firstBoot, secondBoot])
      reversedRun = some (processed
        ⟨some 1479519000000, some 1479484800000, some 1479427200000, some "江苏省"⟩) := rfl
  obtain ⟨⟨boot, member, earliest, first_open, _⟩, _⟩ :=
    right _ _ _ _ _ (by simp) sample_parsable reached (processed_finished _)
  rcases List.mem_pair.mp member with rfl | rfl
  · revert first_open
    decide
  · have order := earliest firstBoot (by simp) _ _ rfl rfl
    revert order
    decide

end OpenTimes

end GitvTime.Guarantees.UserInfo
