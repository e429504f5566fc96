import GitvTime.Source.Hdfs.AbstractHdfsBolt
import GitvTime.Support.Runs

/-!
# The writers and their TTL table

Both maps are changed together by every operation except one: an insertion into
the full `WritersMap` drops its eldest key from `writers` alone. So the key sets
agree throughout a run exactly when every writer that is made finds room. The
threads of the bolt run these operations, each alone as they are here.
-/
namespace GitvTime.Guarantees.Hdfs
open GitvTime.Support GitvTime.Source.Hdfs

/-- The key set of `writers` is the key set of `writersTtl`. -/
def KeysAgree (files : Files) : Prop :=
  ∀ key, key ∈ files.writers.keys ↔ key ∈ files.writersTtl.keys

/-- A writer that is made finds room. -/
def FindsRoom (settings : Settings) (files : Files) : Files.Action → Prop
  | .getOrCreateWriter writerKey _ creates =>
    files.writers.get? writerKey = none → creates = true →
      files.writers.size < settings.maxOpenFiles
  | .doRotationAndRemoveWriter _ | .doRotationAndRemoveAllWriters | .doTtlClose _ _ => True

theorem KeysAgree.touch {files : Files} (agree : KeysAgree files) (writerKey : String) :
    KeysAgree { files with writers := files.writers.touch writerKey } := by
  intro key
  rw [LinkedMap.mem_keys_touch]
  exact agree key

theorem KeysAgree.removeWriter {files : Files} (agree : KeysAgree files) (writerKey : String) :
    KeysAgree (files.removeWriter writerKey) := by
  intro key
  simp only [Files.removeWriter, LinkedMap.mem_keys_remove, agree key]

theorem KeysAgree.doTtlClose {settings : Settings} {now : String → Int} {closing : Nat → Closing}
    (items : List (String × Int)) {files : Files} (agree : KeysAgree files) (log : List Event) :
    KeysAgree (Files.doTtlClose settings now closing items (files, log)).1 := by
  induction items generalizing files log with
  | nil => exact agree
  | cons item rest ih =>
    obtain ⟨writeKey, startTime⟩ := item
    simp only [Files.doTtlClose]
    split
    · split
      · exact agree
      · split
        · exact (agree.touch writeKey).removeWriter writeKey
        · exact ih (agree.touch writeKey) _
    · exact ih agree log

/-- A writer that is made keeps the key sets equal exactly when it finds room. -/
theorem keysAgree_create {settings : Settings} {files : Files} (agree : KeysAgree files)
    {writerKey : String} (absent : files.writers.get? writerKey = none) (now : Int) :
    KeysAgree (files.getOrCreateWriter settings writerKey now true).2 ↔
      files.writers.size < settings.maxOpenFiles := by
  have unlisted := LinkedMap.get?_eq_none.mp absent
  have grown := LinkedMap.size_putLast unlisted files.made
  simp only [Files.getOrCreateWriter, absent, if_true, KeysAgree, LinkedMap.putBounded,
    LinkedMap.mem_keys_put]
  constructor
  · intro agree'
    by_contra full
    have large : settings.maxOpenFiles < (files.writers.putLast writerKey files.made).size := by
      omega
    obtain ⟨key, present, lost⟩ := LinkedMap.evict_loses_key large
    refine lost ((agree' key).mpr ?_)
    rw [← agree key]
    exact LinkedMap.mem_keys_putLast.mp present
  · intro room key
    rw [LinkedMap.evict_of_room (by omega), LinkedMap.mem_keys_putLast, agree key]

theorem keysAgree_step {settings : Settings} {files files' : Files} {action : Files.Action}
    (agree : KeysAgree files) (taken : files.step settings action = some files') :
    KeysAgree files' ↔ FindsRoom settings files action := by
  cases action with
  | getOrCreateWriter writerKey now creates =>
    cases taken
    cases found : files.writers.get? writerKey with
    | some writer =>
      refine iff_of_true ?_ fun absent => by simp [found] at absent
      simp only [Files.getOrCreateWriter, found]
      exact agree.touch writerKey
    | none =>
      cases creates with
      | true => simpa [FindsRoom, found] using keysAgree_create agree found now
      | false =>
        refine iff_of_true ?_ fun _ created => absurd created Bool.false_ne_true
        simpa [Files.getOrCreateWriter, found] using agree
  | doRotationAndRemoveWriter writerKey =>
    cases taken
    exact iff_of_true (agree.removeWriter writerKey) trivial
  | doRotationAndRemoveAllWriters =>
    cases taken
    exact iff_of_true (fun key => Iff.rfl) trivial
  | doTtlClose now closing =>
    obtain ⟨_, ⟨⟩⟩ := Option.ite_none_right_eq_some.mp taken
    exact iff_of_true (agree.doTtlClose _ _) trivial

/-- The maps stay in step throughout a run exactly when every writer that is made
finds room. -/
theorem writers_ttl_agree_iff (settings : Settings) (actions : List Files.Action) :
    AllStates (Files.step settings) KeysAgree Files.init actions ↔
      AllSteps (Files.step settings) (FindsRoom settings) Files.init actions := by
  refine AllStates.iff_allSteps (fun _ => True) (fun _ _ _ _ _ => trivial) ?_ actions trivial
    fun _ => Iff.rfl
  intro files action files' _ agree taken
  exact keysAgree_step agree taken

/-- Two partitions with one open file: the first keeps its TTL entry alone. -/
theorem evicted_writer_keeps_ttl :
    ¬ ∀ settings actions, AllStates (Files.step settings) KeysAgree Files.init actions := by
  intro agree
  have run := agree ⟨1, 3, 60000⟩
    [.getOrCreateWriter "k****A=100" 0 true, .getOrCreateWriter "k****A=101" 1 true]
  have keys := run.last rfl "k****A=100"
  revert keys
  decide

/-! ### The threads run these operations -/

theorem touch_of_absent {m : LinkedMap String Nat} {key : String} (absent : m.get? key = none) :
    m.touch key = m := by
  rw [LinkedMap.touch, absent]

/-- The maps in the middle of an operation of the executor, which has begun from
`files`. -/
def Amid (settings : Settings) (files : Files) (s : State) : Prop :=
  match s.executor with
  | .making writerKey => s.files = files ∧ files.writers.get? writerKey = none
  | .stamping writerKey writer => files.writers.get? writerKey = none ∧ writer = files.made ∧
      s.files = { files with
        writers := files.writers.putBounded writerKey files.made settings.maxOpenFiles
        made := files.made + 1 }
  | .removingTtl writerKey => s.files = { files with writers := files.writers.remove writerKey }
  | _ => s.files = files

/-- The timer takes no step. -/
def OfExecutor : State.Action → Prop
  | .sweep | .sweepNext _ | .sweepGet | .sweepClose _ | .sweepRemove | .sweepRemoveTtl => False
  | _ => True

theorem Amid.syncAttempt {settings : Settings} {files : Files} {s : State}
    (amid : Amid settings files s) (same : s.files = files) (hand : Option (String × Nat))
    (attempts : Nat) : Amid settings files (s.syncAttempt settings hand attempts) := by
  unfold State.syncAttempt
  split
  · exact same
  · exact amid

/-- A step of the executor goes on with its operation or ends it. -/
theorem Amid.step {settings : Settings} {files : Files} {s s' : State} {action : State.Action}
    (amid : Amid settings files s) (own : OfExecutor action)
    (taken : s.step settings action = some s') :
    ∃ operations files', runSteps (Files.step settings) files operations = some files' ∧
      Amid settings files' s' := by
  obtain ⟨_, taken⟩ := Option.ite_none_right_eq_some.mp taken
  cases action with
  | execute writerKey =>
    obtain ⟨idle, rfl⟩ := State.act_execute taken
    simp only [Amid, idle] at amid
    subst amid
    cases found : s.files.writers.get? writerKey with
    | some writer =>
      refine ⟨[.getOrCreateWriter writerKey 0 true], _, rfl, ?_⟩
      simp [Amid, Files.getOrCreateWriter, found, State.touchWriter]
    | none =>
      refine ⟨[], _, rfl, ?_⟩
      simp [Amid, found, State.touchWriter, touch_of_absent found]
  | tick =>
    obtain ⟨idle, rfl⟩ := State.act_tick taken
    simp only [Amid, idle] at amid
    exact ⟨[], _, rfl, amid⟩
  | make creates =>
    obtain ⟨writerKey, making, rfl⟩ := State.act_make taken
    simp only [Amid, making] at amid
    obtain ⟨same, absent⟩ := amid
    refine ⟨[], _, rfl, ?_⟩
    cases creates with
    | true => exact ⟨absent, congrArg Files.made same, by simp [State.putWriter, same]⟩
    | false => exact same
  | stamp now =>
    obtain ⟨writerKey, writer, stamping, rfl⟩ := State.act_stamp taken
    simp only [Amid, stamping] at amid
    obtain ⟨absent, _, put⟩ := amid
    refine ⟨[.getOrCreateWriter writerKey now true], _, rfl, ?_⟩
    simp [Amid, Files.getOrCreateWriter, absent, State.putTtl, put]
  | write writes rotates =>
    obtain ⟨writerKey, writer, writing, rfl⟩ := State.act_write taken
    simp only [Amid, writing] at amid
    refine ⟨[], _, rfl, ?_⟩
    cases writes <;> exact amid
  | mark marks =>
    obtain ⟨hand, forceSync, marking, rfl⟩ := State.act_mark taken
    have same : s.files = files := by simpa only [Amid, marking] using amid
    refine ⟨[], _, rfl, ?_⟩
    split
    · exact amid.syncAttempt same hand 0
    · exact same
  | sync syncs =>
    obtain ⟨hand, attempts, rest, expected, syncing, did⟩ := State.act_sync taken
    have same : s.files = files := by simpa only [Amid, syncing] using amid
    refine ⟨[], _, rfl, ?_⟩
    obtain ⟨_, rfl⟩ | rfl | rfl | ⟨writer, later, _, _, rfl⟩ := did
    · exact same
    · exact amid
    · exact amid.syncAttempt same hand attempts
    · exact same
  | rotate closing =>
    obtain ⟨rotating, rfl⟩ | ⟨writerKey, writer, rotating, rfl⟩ := State.act_rotate taken
    all_goals
      simp only [Amid, rotating] at amid
      refine ⟨[], _, rfl, ?_⟩
    · exact amid
    · split <;> exact amid
  | remove =>
    obtain ⟨writerKey, removing, rfl⟩ := State.act_remove taken
    simp only [Amid, removing] at amid
    subst amid
    exact ⟨[], _, rfl, rfl⟩
  | removeTtl =>
    obtain ⟨writerKey, removing, rfl⟩ := State.act_removeTtl taken
    simp only [Amid, removing] at amid
    refine ⟨[.doRotationAndRemoveWriter writerKey], _, rfl, ?_⟩
    simp [Amid, State.removeTtl, Files.removeWriter, amid]
  | cleanup closing =>
    obtain ⟨idle, rfl⟩ := State.act_cleanup taken
    simp only [Amid, idle] at amid
    subst amid
    refine ⟨[.doRotationAndRemoveAllWriters], _, rfl, ?_⟩
    simp [Amid, idle]
  | _ => exact own.elim

/-- Without the timer the executor takes the maps through a run of the operations,
the last of which may have begun only. -/
theorem executor_alone {settings : Settings} (actions : List State.Action) {files : Files}
    {s last : State} (amid : Amid settings files s) (own : ∀ action ∈ actions, OfExecutor action)
    (reached : runSteps (State.step settings) s actions = some last) :
    ∃ operations files', runSteps (Files.step settings) files operations = some files' ∧
      Amid settings files' last := by
  induction actions generalizing s files with
  | nil =>
    cases Option.some.inj reached
    exact ⟨[], files, rfl, amid⟩
  | cons action rest ih =>
    obtain ⟨next, taken, reached⟩ := Option.bind_eq_some_iff.mp reached
    obtain ⟨first, middle, to_middle, amid'⟩ := amid.step (own action List.mem_cons_self) taken
    obtain ⟨later, files', to_last, ended⟩ :=
      ih amid' (fun other member => own other (List.mem_cons_of_mem _ member)) reached
    exact ⟨first ++ later, files', runSteps_append to_middle to_last, ended⟩

theorem step_of_alive {settings : Settings} {s : State} (alive : s.alive = true)
    (action : State.Action) : s.step settings action = s.act settings action :=
  if_pos alive

/-- Removing a key is a structural modification. -/
theorem removeTtl_modifies {s : State} {writeKey : String}
    (present : writeKey ∈ s.files.writersTtl.keys) :
    (s.removeTtl writeKey).writersTtlMod = s.writersTtlMod + 1 := by
  unfold State.removeTtl State.setFiles
  refine if_neg fun same => ?_
  have gone : writeKey ∈ (s.files.writersTtl.remove writeKey).keys := same ▸ present
  exact (LinkedMap.mem_keys_remove.mp gone).2 rfl

@[simp] theorem touchWriter_ttlMod (s : State) (writerKey : String) :
    (s.touchWriter writerKey).writersTtlMod = s.writersTtlMod :=
  if_pos rfl

@[simp] theorem removeWriter_ttlMod (s : State) (writerKey : String) :
    (s.removeWriter writerKey).writersTtlMod = s.writersTtlMod :=
  if_pos rfl

theorem sweepGet_taken (settings : Settings) {s : State} {writeKey : String} {items : Iteration}
    (alive : s.alive = true) (getting : s.timer = .getting writeKey items) :
    s.step settings .sweepGet = some { s.touchWriter writeKey with
      timer := .closing writeKey (s.files.writers.get? writeKey) items } := by
  simp [step_of_alive alive, State.act, getting]

theorem sweepClose_taken (settings : Settings) {s : State} {writeKey : String} {writer : Nat}
    {items : Iteration} (alive : s.alive = true) (idle : s.executor = .idle)
    (waiting : s.timer = .closing writeKey (some writer) items) (closing : Closing) :
    s.step settings (.sweepClose closing) = some { s with
      log := rotateOutputFile writer closing s.log
      timer := if closing = .closed then .removing writeKey items else .iterating items } := by
  simp [step_of_alive alive, State.act, idle, waiting]

theorem sweepRemove_taken (settings : Settings) {s : State} {writeKey : String}
    {items : Iteration} (alive : s.alive = true) (removing : s.timer = .removing writeKey items) :
    s.step settings .sweepRemove =
      some { s.removeWriter writeKey with timer := .removingTtl writeKey items } := by
  simp [step_of_alive alive, State.act, removing]

theorem sweepRemoveTtl_taken (settings : Settings) {s : State} {writeKey : String}
    {items : Iteration} (alive : s.alive = true)
    (removing : s.timer = .removingTtl writeKey items) :
    s.step settings .sweepRemoveTtl =
      some { s.removeTtl writeKey with timer := .iterating items } := by
  simp [step_of_alive alive, State.act, removing]

/-- The timer alone after a close: both removals, and then the exception of its
iterator unless this was the last entry. -/
theorem removed_alone (settings : Settings) {s : State} (alive : s.alive = true)
    (running : s.files.timerAlive = true) {writeKey : String} {rest : List String}
    (removing : s.timer = .removing writeKey ⟨rest, s.writersTtlMod⟩)
    (present : writeKey ∈ s.files.writersTtl.keys) :
    ∃ last, runSteps (State.step settings) s [.sweepRemove, .sweepRemoveTtl, .sweepNext 0] =
        some last ∧ last.timer = .waiting ∧ last.log = s.log ∧
      last.files = { s.files.removeWriter writeKey with timerAlive := rest.isEmpty } := by
  obtain ⟨middle, first, alive', removing', files', log', modified'⟩ :
      ∃ middle, s.step settings .sweepRemove = some middle ∧ middle.alive = true ∧
        middle.timer = .removingTtl writeKey ⟨rest, s.writersTtlMod⟩ ∧
        middle.files = { s.files with writers := s.files.writers.remove writeKey } ∧
        middle.log = s.log ∧ middle.writersTtlMod = s.writersTtlMod :=
    ⟨_, sweepRemove_taken settings alive removing, alive, rfl, rfl, rfl, removeWriter_ttlMod s writeKey⟩
  have listed : writeKey ∈ middle.files.writersTtl.keys := files' ▸ present
  obtain ⟨removed, second, alive'', iterating, files'', log'', modified⟩ :
      ∃ removed, middle.step settings .sweepRemoveTtl = some removed ∧ removed.alive = true ∧
        removed.timer = .iterating ⟨rest, s.writersTtlMod⟩ ∧
        removed.files = s.files.removeWriter writeKey ∧ removed.log = s.log ∧
        removed.writersTtlMod = s.writersTtlMod + 1 := by
    refine ⟨_, sweepRemoveTtl_taken settings alive' removing', alive', rfl, ?_, log',
      (removeTtl_modifies listed).trans (congrArg (· + 1) modified')⟩
    simp [State.removeTtl, files', Files.removeWriter]
  cases rest with
  | nil =>
    have third : removed.step settings (.sweepNext 0) = some { removed with timer := .waiting } := by
      simp [step_of_alive alive'', State.act, iterating]
    refine ⟨_, runSteps_cons first (runSteps_cons second (runSteps_cons third rfl)), rfl, log'', ?_⟩
    simp [files'', Files.removeWriter, running]
  | cons next others =>
    have third : removed.step settings (.sweepNext 0) = some removed.endTimer := by
      simp [step_of_alive alive'', State.act, iterating, modified]
    refine ⟨_, runSteps_cons first (runSteps_cons second (runSteps_cons third rfl)), rfl, log'', ?_⟩
    simp [State.endTimer, files'']

/-- The timer alone at an expired entry: it comes to the close. -/
theorem expired_alone {settings : Settings} {s : State} (alive : s.alive = true)
    {now startTime : Int} {writeKey : String} {rest : List String}
    (iterating : s.timer = .iterating ⟨writeKey :: rest, s.writersTtlMod⟩)
    (read : s.files.writersTtl.get? writeKey = some startTime)
    (expired : now - startTime > settings.outTime) :
    ∃ got, runSteps (State.step settings) s [.sweepNext now, .sweepGet] = some got ∧
      got.timer = .closing writeKey (s.files.writers.get? writeKey) ⟨rest, s.writersTtlMod⟩ ∧
      got.files = { s.files with writers := s.files.writers.touch writeKey } ∧
      got.log = s.log ∧ got.writersTtlMod = s.writersTtlMod ∧
      got.alive = s.alive ∧ got.executor = s.executor := by
  obtain ⟨middle, next, getting, files', same, kept⟩ :
      ∃ middle, s.step settings (.sweepNext now) = some middle ∧
        middle.timer = .getting writeKey ⟨rest, s.writersTtlMod⟩ ∧ middle.files = s.files ∧
        middle.writersTtlMod = s.writersTtlMod ∧
        middle.log = s.log ∧ middle.alive = s.alive ∧ middle.executor = s.executor := by
    refine ⟨{ s with timer := .getting writeKey ⟨rest, s.writersTtlMod⟩ }, ?_,
      rfl, rfl, rfl, rfl, rfl, rfl⟩
    simp [step_of_alive alive, State.act, iterating, read, expired]
  have gets := sweepGet_taken settings (kept.2.1.trans alive) getting
  rw [files'] at gets
  refine ⟨_, runSteps_cons next (runSteps_cons gets rfl), rfl, ?_, kept.1,
    (touchWriter_ttlMod middle writeKey).trans same, kept.2⟩
  simp [State.touchWriter, files']

/-- Without the executor the loop of the timer is `doTtlClose`. -/
theorem timer_alone {settings : Settings} (now : String → Int) (closing : Nat → Closing)
    (items : List (String × Int)) {s : State} (alive : s.alive = true) (idle : s.executor = .idle)
    (running : s.files.timerAlive = true)
    (iterating : s.timer = .iterating ⟨items.map Prod.fst, s.writersTtlMod⟩)
    (listed : ∀ item ∈ items, item ∈ s.files.writersTtl.entries) :
    ∃ actions last, runSteps (State.step settings) s actions = some last ∧ last.timer = .waiting ∧
      (last.files, last.log) = Files.doTtlClose settings now closing items (s.files, s.log) := by
  induction items generalizing s with
  | nil =>
    refine ⟨[.sweepNext 0], { s with timer := .waiting }, ?_, rfl, rfl⟩
    simp [runSteps, step_of_alive alive, State.act, iterating]
  | cons item rest ih =>
    obtain ⟨writeKey, startTime⟩ := item
    have entry := listed _ List.mem_cons_self
    have read : s.files.writersTtl.get? writeKey = some startTime :=
      LinkedMap.get?_eq_some.mpr entry
    have rest_listed : ∀ item ∈ rest, item ∈ s.files.writersTtl.entries :=
      fun item member => listed item (List.mem_cons_of_mem _ member)
    simp only [Files.doTtlClose]
    by_cases expired : now writeKey - startTime > settings.outTime
    · rw [if_pos expired]
      obtain ⟨got, to_got, at_close, files', log', mod', alive', idle'⟩ :=
        expired_alone alive iterating read expired
      rw [alive] at alive'
      rw [idle] at idle'
      cases found : s.files.writers.get? writeKey with
      | none =>
        rw [touch_of_absent found] at files'
        rw [found] at at_close
        have ends : got.step settings (.sweepClose .closed) = some got.endTimer := by
          simp [step_of_alive alive', State.act, idle', at_close]
        refine ⟨_, got.endTimer, runSteps_snoc to_got ends, rfl, ?_⟩
        simp [State.endTimer, files', log']
      | some writer =>
        rw [found] at at_close
        have closes := sweepClose_taken settings alive' idle' at_close
          (closing writer)
        by_cases closed : closing writer = .closed
        · simp only [closed, if_true] at closes ⊢
          obtain ⟨last, to_last, waiting, log'', files''⟩ :=
            removed_alone settings (s := { got with
              log := rotateOutputFile writer .closed got.log
              timer := .removing writeKey ⟨rest.map Prod.fst, s.writersTtlMod⟩ }) alive'
              (by simp [files', running])
              (congrArg (fun expected => Timer.removing writeKey ⟨rest.map Prod.fst, expected⟩)
                mod'.symm)
              (by simpa [files'] using LinkedMap.mem_keys.mpr ⟨_, entry⟩)
          refine ⟨_, last, runSteps_append to_got (runSteps_cons closes to_last), waiting, ?_⟩
          simp [files'', log'', files', log', Files.removeWriter]
        · simp only [closed, if_false] at closes ⊢
          obtain ⟨actions, last, reached, waiting, result⟩ :=
            ih (s := { got with
              log := rotateOutputFile writer (closing writer) got.log
              timer := .iterating ⟨rest.map Prod.fst, s.writersTtlMod⟩ }) alive' idle'
              (by simp [files', running]) (by simp [mod']) (by simpa [files'] using rest_listed)
          refine ⟨_, last, runSteps_append to_got (runSteps_cons closes reached), waiting, ?_⟩
          simp [result, files', log']
    · have next : s.step settings (.sweepNext (now writeKey)) =
          some { s with timer := .iterating ⟨rest.map Prod.fst, s.writersTtlMod⟩ } := by
        simp [step_of_alive alive, State.act, iterating, read, expired]
      obtain ⟨actions, last, reached, waiting, result⟩ :=
        ih (s := { s with timer := .iterating ⟨rest.map Prod.fst, s.writersTtlMod⟩ }) alive idle
          running rfl rest_listed
      rw [if_neg expired]
      exact ⟨_, last, runSteps_cons next reached, waiting, result⟩

end GitvTime.Guarantees.Hdfs
