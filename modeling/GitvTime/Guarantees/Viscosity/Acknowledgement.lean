import GitvTime.Source.Viscosity.Topology
import GitvTime.Support.Runs

/-!
# When the spout takes a play record as stored

`TopFilter_Bolt` emits without an anchor and acks, so the tree of a record has one
tuple and the record is complete before any bolt behind the filter has seen it; a
failed increment belongs to no tree. The spout is told the truth in every step of
a run exactly when the filter handles no record that is to be stored, and no
increment fails but of a record that has timed out.
-/
namespace GitvTime.Guarantees.Viscosity

open GitvTime.Source.Numbers GitvTime.Source.Viscosity GitvTime.Source.Viscosity.Topology
open GitvTime.Support

/-- A line with legal fields whose srcId has a name. -/
def ToStore (srcNames : String → Option String) (info : String) : Prop :=
  match topFilter info with
  | some (.vodDistribute input) => input.isLegal = true ∧ srcNames input.srcId ≠ none
  | some (.livDistribute input) => input.isLegal = true ∧ srcNames input.srcId ≠ none
  | _ => False

section
variable (parseTimestamp : String → Option Int)

/-- In this step an increment of the record is reported as failed. -/
def FailsIncrement (s : State) (action : Action) (record : Nat) : Prop :=
  ∃ index answer root stream input, action = .handle index answer ∧
    s.forest.live[index]? = some ⟨root, record, .write stream input⟩ ∧
    (writeViscosity parseTimestamp s.rows answer stream input).verdict = .fail

/-- What the spout is told in a step: a record that becomes complete has both of its
increments applied, and one with a failed increment has failed. -/
structure Truthful (s : State) (action : Action) (next : State) : Prop where
  stored : ∀ record info, s.records[record]? = some info → ToStore s.srcNames info →
    s.status record = some .pending → next.status record = some .complete →
    ∀ side, (record, side) ∈ next.applied
  propagated : ∀ record, FailsIncrement parseTimestamp s action record →
    next.status record = some .failed

/-- The filter handles no pending record that is to be stored, and every increment
that fails is of a record that has failed before. -/
structure Harmless (s : State) (action : Action) : Prop where
  filter : ∀ index answer root record info, action = .handle index answer →
    s.forest.live[index]? = some ⟨root, record, .topFilter info⟩ →
    s.status record = some .pending → ¬ ToStore s.srcNames info
  increment : ∀ record, FailsIncrement parseTimestamp s action record →
    s.status record = some .failed

end

/-- The line that a task has before it. -/
def line? : Task → Option String
  | .topFilter info => some info
  | _ => none

/-- Two live tuples of one record are both behind the filter. -/
def Apart (t u : Tracked Traced) : Prop :=
  line? t.content.task ≠ none ∨ line? u.content.task ≠ none →
    t.content.record ≠ u.content.record

/-- Only the lines before the filter are in a tree, each alone in its own and with no
increment applied yet. -/
structure Tracing (s : State) : Prop where
  numbered : s.records.length = s.forest.status.length
  known : ∀ t ∈ s.forest.live, t.content.record < s.records.length
  lines : ∀ t ∈ s.forest.live, ∀ info, line? t.content.task = some info →
    s.records[t.content.record]? = some info
  rooted : ∀ t ∈ s.forest.live, t.root = (line? t.content.task).map fun _ => t.content.record
  apart : s.forest.live.Pairwise Apart
  fresh : ∀ t ∈ s.forest.live, line? t.content.task ≠ none →
    ∀ side, (t.content.record, side) ∉ s.applied
  emitted : ∀ record side, (record, side) ∈ s.applied → record < s.records.length

theorem tracing_init (rows : Rows) (srcNames : String → Option String) :
    Tracing (.init rows srcNames) where
  numbered := rfl
  known _ member := absurd member List.not_mem_nil
  lines _ member := absurd member List.not_mem_nil
  rooted _ member := absurd member List.not_mem_nil
  apart := .nil
  fresh _ member := absurd member List.not_mem_nil
  emitted _ _ member := absurd member List.not_mem_nil

section
variable {digits : CharacterDigit} {parseTimestamp : String → Option Int}

theorem topFilter_behind {info : String} {task : Task} (sent : topFilter info = some task) :
    line? task = none := by
  unfold topFilter at sent
  split at sent
  · cases sent
  · dsimp only at sent
    split at sent
    · obtain ⟨input, _, rfl⟩ := Option.map_eq_some_iff.mp sent
      rfl
    · obtain ⟨input, _, rfl⟩ := Option.map_eq_some_iff.mp sent
      rfl
    · cases sent

theorem vodDistribute_behind {srcNames : String → Option String} {input : VodDis} {task : Task}
    (sent : task ∈ vodDistribute digits srcNames input) : line? task = none := by
  unfold vodDistribute at sent
  split at sent
  · split at sent
    · split at sent
      · rcases List.mem_pair.mp sent with rfl | rfl <;> rfl
      · cases List.mem_singleton.mp sent
        rfl
    · cases sent
  · cases sent

theorem livDistribute_behind {srcNames : String → Option String} {input : LivDis} {task : Task}
    (sent : task ∈ livDistribute digits srcNames input) : line? task = none := by
  unfold livDistribute at sent
  split at sent
  · split at sent
    · split at sent
      · rcases List.mem_pair.mp sent with rfl | rfl <;> rfl
      · cases List.mem_singleton.mp sent
        rfl
    · cases sent
  · cases sent

theorem askViscosity_emissions (rows : Rows) (answer : Answer) (input : RowTuple) :
    (askViscosity parseTimestamp rows answer input).emissions = [] := by
  unfold askViscosity
  split <;> rfl

theorem writeViscosity_emissions (rows : Rows) (answer : Answer) (stream : Stream)
    (input : RowTuple) :
    (writeViscosity parseTimestamp rows answer stream input).emissions = [] := by
  unfold writeViscosity
  split <;> rfl

/-- Nothing but the spout emits lines, and the filter anchors nothing. -/
theorem emissions_behind {srcNames : String → Option String} {rows : Rows} {answer : Answer}
    {task : Task} :
    ∀ emission ∈ (execute digits parseTimestamp srcNames rows answer task).emissions,
      line? emission.content = none ∧ (line? task ≠ none → emission.anchored = false) := by
  intro emission member
  cases task with
  | topFilter info =>
    obtain ⟨sent, filtered, rfl⟩ := List.mem_map.mp member
    exact ⟨topFilter_behind (Option.mem_toList.mp filtered), fun _ => rfl⟩
  | vodDistribute input =>
    obtain ⟨sent, distributed, rfl⟩ := List.mem_map.mp member
    exact ⟨vodDistribute_behind distributed, fun _ => rfl⟩
  | livDistribute input =>
    obtain ⟨sent, distributed, rfl⟩ := List.mem_map.mp member
    exact ⟨livDistribute_behind distributed, fun _ => rfl⟩
  | viscosity input =>
    rw [execute, askViscosity_emissions] at member
    exact absurd member List.not_mem_nil
  | answered input backCode =>
    cases List.mem_singleton.mp member
    exact ⟨rfl, fun line => absurd rfl line⟩
  | write stream input =>
    rw [execute, writeViscosity_emissions] at member
    exact absurd member List.not_mem_nil
  | noSrcName srcId => exact absurd member List.not_mem_nil

theorem askViscosity_held {rows : Rows} {answer : Answer} {input : RowTuple} {held : Task}
    (holds : (askViscosity parseTimestamp rows answer input).verdict = .hold held) :
    ∃ backCode, held = .answered input backCode := by
  cases counted : readRow parseTimestamp rows input with
  | none => simp [askViscosity, counted] at holds
  | some backCode =>
    cases answer with
    | success =>
      simp only [askViscosity, counted, Verdict.hold.injEq] at holds
      exact ⟨backCode, holds.symm⟩
    | failure applied => simp [askViscosity] at holds

theorem writeViscosity_not_held {rows : Rows} {answer : Answer} {stream : Stream}
    {input : RowTuple} (held : Task) :
    (writeViscosity parseTimestamp rows answer stream input).verdict ≠ .hold held := by
  unfold writeViscosity
  split <;> simp

/-- Only a read bolt holds its input, for the callback. -/
theorem held_behind {srcNames : String → Option String} {rows : Rows} {answer : Answer}
    {task held : Task}
    (holds : (execute digits parseTimestamp srcNames rows answer task).verdict = .hold held) :
    line? task = none ∧ line? held = none := by
  cases task with
  | topFilter info => cases holds
  | vodDistribute input => cases holds
  | livDistribute input => cases holds
  | viscosity input =>
    obtain ⟨backCode, rfl⟩ := askViscosity_held holds
    exact ⟨rfl, rfl⟩
  | answered input backCode => cases holds
  | write stream input => exact absurd holds (writeViscosity_not_held held)
  | noSrcName srcId =>
    simp only [execute] at holds
    split at holds <;> cases holds

/-- A tuple behind the filter that a task made of its input `t`; it is in a tree only
if `t` is and `t` is behind the filter too. -/
structure Descends (t d : Tracked Traced) : Prop where
  record : d.content.record = t.content.record
  line : line? d.content.task = none
  root : d.root ≠ none → d.root = t.root ∧ line? t.content.task = none

theorem kept_descends {srcNames : String → Option String} {rows : Rows} {answer : Answer}
    {t d : Tracked Traced}
    (member : d ∈ (traceVerdict t.content.record (execute digits parseTimestamp srcNames rows
      answer t.content.task).verdict).kept t.root) : Descends t d := by
  cases verdict : (execute digits parseTimestamp srcNames rows answer t.content.task).verdict with
  | ack =>
    rw [verdict] at member
    cases member
  | fail =>
    rw [verdict] at member
    cases member
  | hold held =>
    rw [verdict] at member
    cases List.mem_singleton.mp member
    obtain ⟨input, output⟩ := held_behind verdict
    exact ⟨rfl, output, fun _ => ⟨rfl, input⟩⟩

theorem child_descends {srcNames : String → Option String} {rows : Rows} {answer : Answer}
    {t d : Tracked Traced}
    (member : d ∈ Forest.children t.root ((execute digits parseTimestamp srcNames rows answer
      t.content.task).emissions.map (traceEmission t.content.record))) : Descends t d := by
  obtain ⟨traced, sent, rfl⟩ := List.mem_map.mp member
  obtain ⟨emission, emitted, rfl⟩ := List.mem_map.mp sent
  obtain ⟨behind, plain⟩ := emissions_behind emission emitted
  refine ⟨rfl, behind, fun inTree => ?_⟩
  cases anchor : emission.anchored with
  | false => exact absurd (by simp [traceEmission, anchor]) inTree
  | true =>
    refine ⟨by simp [traceEmission, anchor], ?_⟩
    by_contra line
    exact Bool.noConfusion (anchor.symm.trans (plain line))

variable (digits parseTimestamp) in
/-- What a task does to its input `t`, and to the state around it. -/
structure Handles (s : State) (answer : Answer) (t : Tracked Traced) (next : State) : Prop where
  live : ∃ front back descendants, s.forest.live = front ++ t :: back ∧
    next.forest.live.Perm (descendants ++ (front ++ back)) ∧ ∀ d ∈ descendants, Descends t d
  status : next.forest.status = Forest.judged s.forest.status next.forest.live t.root
    (traceVerdict t.content.record
      (execute digits parseTimestamp s.srcNames s.rows answer t.content.task).verdict)
  applied : next.applied = appliedBy t.content.record
    (execute digits parseTimestamp s.srcNames s.rows answer t.content.task) t.content.task ++
      s.applied
  records : next.records = s.records

theorem step_handles {s next : State} {index : Nat} {answer : Answer}
    (taken : s.step digits parseTimestamp (.handle index answer) = some next) :
    ∃ t, s.forest.live[index]? = some t ∧ Handles digits parseTimestamp s answer t next := by
  simp only [State.step] at taken
  split at taken
  · cases taken
  · rename_i root record task found
    obtain ⟨forest, handled, rfl⟩ := Option.map_eq_some_iff.mp taken
    obtain ⟨front, t, back, split, found', live, status⟩ := Forest.handle_eq_some handled
    cases found.symm.trans found'
    refine ⟨_, found, ⟨front, back, _, split, live, fun d member => ?_⟩, status, rfl, rfl⟩
    rcases List.mem_append.mp member with kept | child
    · exact kept_descends kept
    · exact child_descends child

theorem apart_symm : ∀ t u : Tracked Traced, Apart t u → Apart u t :=
  fun _ _ apart lines => (apart lines.symm).symm

theorem mem_appliedBy {record other : Nat} {handled : Handled} {task : Task} {side : RowSide}
    (member : (other, side) ∈ appliedBy record handled task) : other = record := by
  cases task <;> simp only [appliedBy, List.not_mem_nil] at member
  split at member
  · exact congrArg Prod.fst (List.mem_singleton.mp member)
  · cases member

section
variable {s next : State} {answer : Answer} {t : Tracked Traced}

/-- The handled tuple apart from the rest, and where each live tuple comes from. -/
theorem Handles.split (handles : Handles digits parseTimestamp s answer t next)
    (apart : s.forest.live.Pairwise Apart) :
    ∃ others descendants, next.forest.live.Perm (descendants ++ others) ∧
      (∀ d ∈ descendants, Descends t d) ∧ (∀ u ∈ others, u ∈ s.forest.live ∧ Apart t u) ∧
      others.Pairwise Apart ∧ t ∈ s.forest.live := by
  obtain ⟨front, back, descendants, split, live, descend⟩ := handles.live
  have shuffled : s.forest.live.Perm (t :: (front ++ back)) := split ▸ List.perm_middle
  obtain ⟨around, rest⟩ := List.pairwise_cons.mp ((shuffled.pairwise_iff (apart_symm _ _)).mp apart)
  refine ⟨front ++ back, descendants, live, descend, fun u member => ⟨?_, around u member⟩, rest, ?_⟩
  · exact shuffled.mem_iff.mpr (List.mem_cons_of_mem _ member)
  · exact shuffled.mem_iff.mpr List.mem_cons_self

theorem Tracing.root_of_behind (inv : Tracing s) (member : t ∈ s.forest.live)
    (behind : line? t.content.task = none) : t.root = none := by
  rw [inv.rooted t member, behind]
  rfl

/-- A descendant of a live tuple is in no tree. -/
theorem Tracing.root_of_descends (inv : Tracing s) {d : Tracked Traced}
    (member : t ∈ s.forest.live) (descends : Descends t d) : d.root = none := by
  by_contra inTree
  obtain ⟨same, behind⟩ := descends.root inTree
  exact inTree (same.trans (inv.root_of_behind member behind))

theorem Handles.tracing (inv : Tracing s) (handles : Handles digits parseTimestamp s answer t next) :
    Tracing next := by
  obtain ⟨others, descendants, live, descend, old, rest, here⟩ := handles.split inv.apart
  have each : ∀ d ∈ next.forest.live, Descends t d ∨ d ∈ s.forest.live ∧ Apart t d := by
    intro d member
    rcases List.mem_append.mp (live.mem_iff.mp member) with new | kept
    · exact .inl (descend d new)
    · exact .inr (old d kept)
  refine ⟨?_, ?_, ?_, ?_, ?_, ?_, ?_⟩
  · rw [handles.records, handles.status, Forest.length_judged]
    exact inv.numbered
  · intro d member
    rw [handles.records]
    rcases each d member with new | ⟨kept, _⟩
    · exact new.record ▸ inv.known t here
    · exact inv.known d kept
  · intro d member info line
    rw [handles.records]
    rcases each d member with new | ⟨kept, _⟩
    · cases new.line.symm.trans line
    · exact inv.lines d kept info line
  · intro d member
    rcases each d member with new | ⟨kept, _⟩
    · rw [inv.root_of_descends here new, new.line]
      rfl
    · exact inv.rooted d kept
  · refine (live.pairwise_iff (apart_symm _ _)).mpr (List.pairwise_append.mpr ⟨?_, rest, ?_⟩)
    · refine List.pairwise_of_forall_mem_list fun d new e new' lines => ?_
      rcases lines with line | line
      · exact absurd (descend d new).line line
      · exact absurd (descend e new').line line
    · intro d new u kept lines
      have line := lines.resolve_left (not_not_intro (descend d new).line)
      exact (descend d new).record ▸ (old u kept).2 (.inr line)
  · intro d member line side applied
    rw [handles.applied] at applied
    rcases each d member with new | ⟨kept, apart⟩
    · exact line new.line
    · rcases List.mem_append.mp applied with now | before
      · exact apart (.inr line) (mem_appliedBy now).symm
      · exact inv.fresh d kept line side before
  · intro record side applied
    rw [handles.applied] at applied
    rw [handles.records]
    rcases List.mem_append.mp applied with now | before
    · exact mem_appliedBy now ▸ inv.known t here
    · exact inv.emitted record side before

end

theorem tracing_nextTuple {s : State} (inv : Tracing s) (info : String) :
    Tracing { s with
      records := s.records ++ [info]
      forest := s.forest.spoutEmit ⟨s.records.length, .topFilter info⟩ } := by
  have each : ∀ t ∈ s.forest.live ++ [⟨some s.forest.status.length, s.records.length, .topFilter info⟩],
      t ∈ s.forest.live ∨ t = ⟨some s.forest.status.length, s.records.length, .topFilter info⟩ :=
    fun t member => (List.mem_append.mp member).imp_right List.mem_singleton.mp
  refine ⟨?_, ?_, ?_, ?_, ?_, ?_, ?_⟩
  · rw [Forest.spoutEmit, List.length_append, List.length_append, inv.numbered]
    rfl
  · intro t member
    rw [List.length_append]
    rcases each t member with old | rfl
    · exact Nat.lt_add_right 1 (inv.known t old)
    · exact Nat.lt_succ_self s.records.length
  · intro t member other line
    rcases each t member with old | rfl
    · exact (List.getElem?_append_left (inv.known t old)).trans (inv.lines t old other line)
    · cases line
      exact List.getElem?_concat_length
  · intro t member
    rcases each t member with old | rfl
    · exact inv.rooted t old
    · exact congrArg some inv.numbered.symm
  · refine List.pairwise_append.mpr ⟨inv.apart, List.pairwise_singleton _ _, ?_⟩
    intro t old u new _
    cases List.mem_singleton.mp new
    exact (inv.known t old).ne
  · intro t member line side applied
    rcases each t member with old | rfl
    · exact inv.fresh t old line side applied
    · exact absurd (inv.emitted _ side applied) (lt_irrefl _)
  · intro record side applied
    rw [List.length_append]
    exact Nat.lt_add_right 1 (inv.emitted record side applied)

theorem tracing_step {s next : State} {action : Action} (inv : Tracing s)
    (taken : s.step digits parseTimestamp action = some next) : Tracing next := by
  cases action with
  | nextTuple info =>
    cases taken
    exact tracing_nextTuple inv info
  | rename srcId srcName =>
    cases taken
    exact ⟨inv.numbered, inv.known, inv.lines, inv.rooted, inv.apart, inv.fresh, inv.emitted⟩
  | timeout record =>
    cases taken
    refine ⟨?_, inv.known, inv.lines, inv.rooted, inv.apart, inv.fresh, inv.emitted⟩
    exact inv.numbered.trans (Forest.length_settle _ _ _).symm
  | handle index answer =>
    obtain ⟨t, _, handles⟩ := step_handles taken
    exact handles.tracing inv

/-- The tree of a line ends with its handling. -/
theorem Handles.last {s next : State} {answer : Answer} {t : Tracked Traced} (inv : Tracing s)
    (handles : Handles digits parseTimestamp s answer t next)
    (line : line? t.content.task ≠ none) : ¬ Forest.Grows next.forest.live t.content.record := by
  obtain ⟨others, descendants, live, descend, old, _, here⟩ := handles.split inv.apart
  rintro ⟨u, member, inTree⟩
  rcases List.mem_append.mp (live.mem_iff.mp member) with new | kept
  · rw [inv.root_of_descends here (descend u new)] at inTree
    cases inTree
  · obtain ⟨before, apart⟩ := old u kept
    have rooted := inv.rooted u before
    rw [inTree] at rooted
    obtain ⟨_, _, same⟩ := Option.map_eq_some_iff.mp rooted.symm
    exact apart (.inl line) same.symm

/-- A tuple behind the filter changes nothing for the spout. -/
theorem Handles.status_of_behind {s next : State} {answer : Answer} {t : Tracked Traced}
    (inv : Tracing s) (handles : Handles digits parseTimestamp s answer t next)
    (member : t ∈ s.forest.live) (behind : line? t.content.task = none) (record : Nat) :
    next.status record = s.status record := by
  rw [State.status, State.status, handles.status, inv.root_of_behind member behind,
    Forest.judged_unrooted]

/-- Only the filter's ack completes a record. -/
theorem completed_by_filter {s next : State} {action : Action} (inv : Tracing s)
    (taken : s.step digits parseTimestamp action = some next) {record : Nat}
    (pending : s.status record = some .pending) (complete : next.status record = some .complete) :
    ∃ index answer root info, action = .handle index answer ∧
      s.forest.live[index]? = some ⟨root, record, .topFilter info⟩ := by
  cases action with
  | nextTuple info =>
    cases taken
    obtain ⟨bound, _⟩ := List.getElem?_eq_some_iff.mp pending
    have same := (List.getElem?_append_left bound).symm.trans complete
    cases pending.symm.trans same
  | rename srcId srcName =>
    cases taken
    cases pending.symm.trans complete
  | timeout other =>
    cases taken
    by_cases equal : other = record
    · subst equal
      cases (Forest.settle_self .failed pending).symm.trans complete
    · cases ((Forest.settle_ne .failed equal).symm.trans complete).symm.trans pending
  | handle index answer =>
    obtain ⟨t, found, handles⟩ := step_handles taken
    have member := List.mem_of_getElem? found
    cases line : line? t.content.task with
    | none =>
      have same := handles.status_of_behind inv member line record
      cases (same.symm.trans complete).symm.trans pending
    | some info =>
      have rooted := inv.rooted t member
      rw [line, Option.map_some] at rooted
      have own : t.content.record = record := by
        by_contra different
        have status := handles.status
        rw [rooted] at status
        have same : next.status record = s.status record := by
          rw [State.status, status]
          exact Forest.judged_ne different _
        cases (same.symm.trans complete).symm.trans pending
      obtain ⟨root, number, task⟩ := t
      cases task <;> cases line
      exact ⟨index, answer, root, info, rfl, own ▸ found⟩

theorem truthful_iff_harmless {s next : State} {action : Action} (inv : Tracing s)
    (taken : s.step digits parseTimestamp action = some next) :
    Truthful parseTimestamp s action next ↔ Harmless parseTimestamp s action := by
  constructor
  · intro truthful
    refine ⟨?_, ?_⟩
    · rintro index answer root record info rfl found pending toStore
      obtain ⟨t, found', handles⟩ := step_handles taken
      cases found.symm.trans found'
      have member := List.mem_of_getElem? found
      have rooted : root = some record := inv.rooted _ member
      have complete : next.status record = some .complete := by
        rw [State.status, handles.status, rooted]
        exact Forest.judged_last pending (handles.last inv (by simp [line?]))
      have stored := truthful.stored record info (inv.lines _ member info rfl) toStore pending
        complete .user
      rw [handles.applied] at stored
      exact inv.fresh _ member (by simp [line?]) .user stored
    · intro record fails
      have failed := truthful.propagated record fails
      obtain ⟨index, answer, root, stream, input, rfl, found, _⟩ := fails
      obtain ⟨t, found', handles⟩ := step_handles taken
      cases found.symm.trans found'
      exact (handles.status_of_behind inv (List.mem_of_getElem? found) rfl record) ▸ failed
  · intro harmless
    refine ⟨?_, ?_⟩
    · intro record info known toStore pending complete
      obtain ⟨index, answer, root, own, rfl, found⟩ :=
        completed_by_filter inv taken pending complete
      have line := inv.lines _ (List.mem_of_getElem? found) own rfl
      cases known.symm.trans line
      exact absurd toStore (harmless.filter index answer root record info rfl found pending)
    · intro record fails
      have failed := harmless.increment record fails
      obtain ⟨index, answer, root, stream, input, rfl, found, _⟩ := fails
      obtain ⟨t, found', handles⟩ := step_handles taken
      cases found.symm.trans found'
      exact (handles.status_of_behind inv (List.mem_of_getElem? found) rfl record).trans failed

end

/-- In every run of the topology, with any failures, timeouts and changes of the
names, the spout is told the truth in every step exactly when every step is harmless. -/
theorem acknowledged_after_storing_iff (digits : CharacterDigit)
    (parseTimestamp : String → Option Int) (rows : Rows) (srcNames : String → Option String)
    (actions : List Action) :
    AllSteps (State.step digits parseTimestamp)
        (fun s action => ∀ next, s.step digits parseTimestamp action = some next →
          Truthful parseTimestamp s action next) (.init rows srcNames) actions ↔
      AllSteps (State.step digits parseTimestamp) (Harmless parseTimestamp)
        (.init rows srcNames) actions := by
  refine AllSteps.iff_of_invariant Tracing (fun _ _ _ inv taken => tracing_step inv taken) ?_
    actions (tracing_init rows srcNames)
  intro s action next inv taken
  constructor
  · intro truthful
    exact (truthful_iff_harmless inv taken).mp (truthful next taken)
  · intro harmless other taken'
    exact (truthful_iff_harmless inv taken').mpr harmless

section
def sampleLine : String :=
  "vod|1|1|p|1|m|1|1|1|a|n|v|1|90|c|d|s|1|1|60|1|1|0|1|1|1|1|1|1|1|2016-11-18|1|1|t|1|r"

def sampleTuple : VodDis :=
  ⟨"p", "m", "s", "d", "c", "n", "a", "0", "v", "90", "60", "2016-11-18", "t", "r"⟩

theorem sampleLine_filtered : topFilter sampleLine = some (.vodDistribute sampleTuple) := by
  rfl

theorem sampleLine_toStore : ToStore (fun _ => some "首页") sampleLine := by
  rw [ToStore, sampleLine_filtered]
  exact ⟨by decide, by simp⟩

/-- The record is complete as soon as the filter has handled it. -/
theorem complete_before_stored :
    ¬ ∀ (digits : CharacterDigit) (parseTimestamp : String → Option Int) (rows : Rows)
      (srcNames : String → Option String) (actions : List Action),
      AllSteps (State.step digits parseTimestamp)
        (fun s action => ∀ next, s.step digits parseTimestamp action = some next →
          Truthful parseTimestamp s action next) (.init rows srcNames) actions := by
  intro truthful
  have steps := truthful asciiDigit (fun _ => some 0) (fun _ => none) (fun _ => some "首页")
    [.nextTuple sampleLine, .handle 0 .success]
  have second := ((steps _ rfl).2 _ rfl).1 _ rfl
  have stored := second.stored 0 sampleLine rfl sampleLine_toStore rfl rfl .user
  exact absurd stored List.not_mem_nil

end

end GitvTime.Guarantees.Viscosity
