import GitvTime.Source.Hdfs.AbstractHdfsBolt
import GitvTime.Support.Runs

/-!
# Acked tuples are on disk

A successful sync acks the whole batch but flushes only the writers still in
`writers`. So the bolt is safe as long as every tuple of the batch is on disk,
waits in a writer of the map or is the one just written. This is broken by an
eviction, which closes nothing, by a rotation whose close throws, after which the
writer is removed all the same, and by the timer when the key it has closed has
got another writer before it removes the key.
-/
namespace GitvTime.Guarantees.Hdfs
open GitvTime.Support GitvTime.Source.Hdfs
open GitvTime.Source.Hdfs.State (setFiles_files setFiles_tupleBatch setFiles_log)

/-- The tuple was appended to a writer that was synced or closed afterwards. -/
def OnDisk : List Event → Nat → Prop
  | [], _ => False
  | .synced writer :: earlier, tuple | .closed writer :: earlier, tuple =>
    .appended tuple writer ∈ earlier ∨ OnDisk earlier tuple
  | .appended _ _ :: earlier, tuple | .acked _ :: earlier, tuple | .failed _ :: earlier, tuple =>
    OnDisk earlier tuple

/-- Every acked tuple was on disk when it was acked. -/
def AckedOnDisk : List Event → Prop
  | [] => True
  | .acked tuple :: earlier => OnDisk earlier tuple ∧ AckedOnDisk earlier
  | .appended _ _ :: earlier | .synced _ :: earlier | .closed _ :: earlier
  | .failed _ :: earlier => AckedOnDisk earlier

/-! ### The log grows -/

/-- Events other than acks were added. -/
def Grows (log log' : List Event) : Prop :=
  ∃ events, log' = events ++ log ∧ ∀ tuple, .acked tuple ∉ events

theorem Grows.refl (log : List Event) : Grows log log := ⟨[], rfl, fun _ => List.not_mem_nil⟩

theorem Grows.trans {log log' log'' : List Event} (first : Grows log log')
    (second : Grows log' log'') : Grows log log'' := by
  obtain ⟨events, rfl, quiet⟩ := first
  obtain ⟨events', rfl, quiet'⟩ := second
  refine ⟨events' ++ events, (List.append_assoc ..).symm, fun tuple member => ?_⟩
  exact (List.mem_append.mp member).elim (quiet' tuple) (quiet tuple)

theorem Grows.cons (log : List Event) {event : Event} (quiet : ∀ tuple, event ≠ .acked tuple) :
    Grows log (event :: log) :=
  ⟨[event], rfl, fun tuple member => quiet tuple (List.mem_singleton.mp member).symm⟩

theorem Grows.mem {log log' : List Event} (grows : Grows log log') {event : Event}
    (member : event ∈ log) : event ∈ log' := by
  obtain ⟨events, rfl, _⟩ := grows
  exact List.mem_append_right events member

theorem OnDisk.cons {log : List Event} {tuple : Nat} (on_disk : OnDisk log tuple) (event : Event) :
    OnDisk (event :: log) tuple := by
  cases event with
  | synced _ | closed _ => exact .inr on_disk
  | appended _ _ | acked _ | failed _ => exact on_disk

theorem OnDisk.append {log : List Event} {tuple : Nat} (on_disk : OnDisk log tuple)
    (events : List Event) : OnDisk (events ++ log) tuple := by
  induction events with
  | nil => exact on_disk
  | cons event rest ih => exact ih.cons event

theorem Grows.onDisk {log log' : List Event} (grows : Grows log log') {tuple : Nat}
    (on_disk : OnDisk log tuple) : OnDisk log' tuple := by
  obtain ⟨events, rfl, _⟩ := grows
  exact on_disk.append events

theorem Grows.ackedOnDisk {log log' : List Event} (grows : Grows log log')
    (acked : AckedOnDisk log) : AckedOnDisk log' := by
  obtain ⟨events, rfl, quiet⟩ := grows
  induction events with
  | nil => exact acked
  | cons event rest ih =>
    have later := ih fun tuple member => quiet tuple (List.mem_cons_of_mem _ member)
    cases event with
    | acked tuple => exact absurd List.mem_cons_self (quiet tuple)
    | appended _ _ | synced _ | closed _ | failed _ => exact later

/-- Acking tuples that are on disk. -/
theorem ackedOnDisk_acks {log : List Event} (acked : AckedOnDisk log) (tuples : List Nat)
    (on_disk : ∀ tuple ∈ tuples, OnDisk log tuple) :
    AckedOnDisk ((tuples.map .acked).reverse ++ log) := by
  rw [← List.map_reverse]
  have on_disk' : ∀ tuple ∈ tuples.reverse, OnDisk log tuple :=
    fun tuple member => on_disk tuple (List.mem_reverse.mp member)
  generalize tuples.reverse = acks at on_disk'
  induction acks with
  | nil => exact acked
  | cons tuple rest ih =>
    refine ⟨(on_disk' tuple List.mem_cons_self).append _, ih fun other member => ?_⟩
    exact on_disk' other (List.mem_cons_of_mem _ member)

theorem grows_fails (log : List Event) (tuples : List Nat) :
    Grows log ((tuples.map .failed).reverse ++ log) := by
  refine ⟨_, rfl, fun tuple member => ?_⟩
  obtain ⟨other, _, same⟩ := List.mem_map.mp (List.mem_reverse.mp member)
  cases same

theorem grows_rotateOutputFile (writer : Nat) (closing : Closing) (log : List Event) :
    Grows log (rotateOutputFile writer closing log) := by
  unfold rotateOutputFile
  split
  · exact .refl log
  · exact .cons log fun _ => nofun

/-! ### Where a tuple of the batch is -/

/-- The tuple is on disk or waits in a writer of the map. -/
def Held (files : Files) (log : List Event) (tuple : Nat) : Prop :=
  OnDisk log tuple ∨ ∃ writer ∈ files.writers.values, .appended tuple writer ∈ log

theorem Held.grows {files : Files} {log log' : List Event} {tuple : Nat}
    (held : Held files log tuple) (grows : Grows log log') : Held files log' tuple := by
  rcases held with on_disk | ⟨writer, open_, appended⟩
  · exact .inl (grows.onDisk on_disk)
  · exact .inr ⟨writer, open_, grows.mem appended⟩

/-- No tuple of the batch waits in the writer. -/
def Settled (s : State) (writer : Nat) : Prop :=
  ∀ tuple ∈ s.tupleBatch, .appended tuple writer ∈ s.log → OnDisk s.log tuple

/-- The maps change, and every writer that leaves is settled. -/
theorem Held.change {s : State} {files : Files} {tuple : Nat} (member : tuple ∈ s.tupleBatch)
    (held : Held s.files s.log tuple)
    (kept : ∀ entry ∈ s.files.writers.entries,
      entry ∈ files.writers.entries ∨ Settled s entry.2) : Held files s.log tuple := by
  rcases held with on_disk | ⟨writer, open_, appended⟩
  · exact .inl on_disk
  · obtain ⟨key, listed⟩ := LinkedMap.mem_values.mp open_
    rcases kept _ listed with still | settled
    · exact .inr ⟨writer, LinkedMap.mem_values.mpr ⟨key, still⟩, appended⟩
    · exact .inl (settled tuple member appended)

/-- The writer that the executor has written to and not let go of. -/
def inHand : Executor → Option Nat
  | .marking (some (_, writer)) _ | .rotating (some (_, writer)) => some writer
  | _ => none

def InHand (s : State) (tuple : Nat) : Prop :=
  ∃ writer ∈ inHand s.executor, .appended tuple writer ∈ s.log

/-- The batch while the bolt is alive: each tuple is held or in hand, and in a sync
on disk or in a writer to come, unless the iterator is going to throw. -/
structure Live (s : State) : Prop where
  batch : ∀ tuple ∈ s.tupleBatch, Held s.files s.log tuple ∨ InHand s tuple
  syncing : ∀ inHand attempts rest expected, s.executor = .syncing inHand attempts rest expected →
    expected ≤ s.writersMod ∧ (rest = [] ∨ s.writersMod = expected →
      ∀ tuple ∈ s.tupleBatch, OnDisk s.log tuple ∨ ∃ writer ∈ rest, .appended tuple writer ∈ s.log)
  absent : ∀ writerKey, s.executor = .making writerKey → writerKey ∉ s.files.writers.keys

/-- The acked tuples are on disk and the batch is covered. -/
structure Covered (s : State) : Prop where
  acked : AckedOnDisk s.log
  live : s.alive = true → Live s

/-- A bolt that has died asks nothing of the batch. -/
theorem Covered.of_dead {s : State} (acked : AckedOnDisk s.log) (dead : s.alive = false) :
    Covered s :=
  ⟨acked, fun alive => absurd (dead.symm.trans alive) Bool.false_ne_true⟩

/-! ### One step -/

/-- The writer is open or has nothing to lose. -/
def Kept (s : State) (writer : Nat) : Prop :=
  writer ∈ s.files.writers.values ∨ Settled s writer

/-- What a step asks of the state before it so that no unsynced tuple of the batch
loses its writer. -/
def KeepsUnsynced (settings : Settings) (s : State) : State.Action → Prop
  -- the eldest writer of a full map is settled when another is made
  | .make creates => creates = true → settings.maxOpenFiles ≤ s.files.writers.size →
      ∀ eldest ∈ s.files.writers.values.head?, Settled s eldest
  -- the writer just written to is synced with the others, or closed, or nothing waits in it
  | .mark marks => ∀ writerKey writer forceSync,
      s.executor = .marking (some (writerKey, writer)) forceSync →
        marks = true ∨ forceSync = true → Kept s writer
  | .rotate closing => ∀ writerKey writer, s.executor = .rotating (some (writerKey, writer)) →
      s.needsRotation writer = false ∨ closing = .closeFails → Kept s writer
  -- the writer that leaves with its key is settled
  | .remove => ∀ writerKey, s.executor = .removing writerKey →
      ∀ writer ∈ s.files.writers.get? writerKey, Settled s writer
  | .sweepRemove => ∀ writeKey items, s.timer = .removing writeKey items →
      ∀ writer ∈ s.files.writers.get? writeKey, Settled s writer
  | _ => True

theorem writersMod_setFiles (s : State) (files : Files) :
    (s.setFiles files).writersMod = s.writersMod ∨
      (s.setFiles files).writersMod = s.writersMod + 1 := by
  unfold State.setFiles
  dsimp only
  split
  · exact .inl rfl
  · exact .inr rfl

/-- The timer changes the maps between two steps of the executor. -/
theorem Live.setFiles {s : State} (live : Live s) {files : Files}
    (kept : ∀ entry ∈ s.files.writers.entries, entry ∈ files.writers.entries ∨ Settled s entry.2)
    (fewer : ∀ key ∈ files.writers.keys, key ∈ s.files.writers.keys) :
    Live (s.setFiles files) where
  batch tuple member := (live.batch tuple member).imp_left fun held =>
    Held.change (s := s) member held kept
  syncing inHand attempts rest expected at_sync := by
    obtain ⟨low, covered⟩ := live.syncing inHand attempts rest expected at_sync
    rcases writersMod_setFiles s files with same | more
    · rw [same]
      exact ⟨low, covered⟩
    · rw [more]
      refine ⟨by omega, fun premise => covered (premise.imp_right fun h => ?_)⟩
      omega
  absent writerKey at_make present := live.absent writerKey at_make (fewer writerKey present)

theorem kept_touch (s : State) (writerKey : String) :
    ∀ entry ∈ s.files.writers.entries,
      entry ∈ (s.files.writers.touch writerKey).entries ∨ Settled s entry.2 :=
  fun _ listed => .inl (LinkedMap.mem_touch.mpr listed)

theorem kept_remove {s : State} {writerKey : String}
    (settled : ∀ writer ∈ s.files.writers.get? writerKey, Settled s writer) :
    ∀ entry ∈ s.files.writers.entries,
      entry ∈ (s.files.writers.remove writerKey).entries ∨ Settled s entry.2 := by
  intro entry listed
  by_cases here : entry.1 = writerKey
  · right
    refine settled entry.2 (LinkedMap.get?_eq_some.mpr ?_)
    rw [← here]
    exact listed
  · exact .inl (LinkedMap.mem_remove.mpr ⟨listed, here⟩)

theorem Live.touchWriter {s : State} (live : Live s) (writerKey : String) :
    Live (s.touchWriter writerKey) :=
  live.setFiles (kept_touch s writerKey) fun _ => LinkedMap.mem_keys_touch.mp

theorem Live.removeWriter {s : State} (live : Live s) {writerKey : String}
    (settled : ∀ writer ∈ s.files.writers.get? writerKey, Settled s writer) :
    Live (s.removeWriter writerKey) :=
  live.setFiles (kept_remove settled) fun _ present => (LinkedMap.mem_keys_remove.mp present).1

theorem Live.removeTtl {s : State} (live : Live s) (writerKey : String) :
    Live (s.removeTtl writerKey) :=
  live.setFiles (fun _ listed => .inl listed) fun _ present => present

/-- The executor is neither in a sync nor before a `put`. -/
def Plain : Executor → Prop
  | .syncing .. | .making _ => False
  | _ => True

theorem Live.of_held {s : State} (plain : Plain s.executor)
    (held : ∀ tuple ∈ s.tupleBatch, Held s.files s.log tuple) : Live s where
  batch tuple member := .inl (held tuple member)
  syncing inHand attempts rest expected at_sync := by
    rw [at_sync] at plain
    exact plain.elim
  absent writerKey at_make := by
    rw [at_make] at plain
    exact plain.elim

/-- With nothing in hand the batch is held. -/
theorem Live.held {s : State} (live : Live s) (empty : inHand s.executor = none) :
    ∀ tuple ∈ s.tupleBatch, Held s.files s.log tuple := by
  intro tuple member
  rcases live.batch tuple member with held | ⟨writer, here, _⟩
  · exact held
  · rw [empty] at here
    cases here

/-- The head of the retry loop, with the batch held. -/
theorem Covered.syncAttempt {s : State} (covered : Covered s) (settings : Settings)
    (hand : Option (String × Nat)) (attempts : Nat)
    (held : s.alive = true → ∀ tuple ∈ s.tupleBatch, Held s.files s.log tuple) :
    Covered (s.syncAttempt settings hand attempts) := by
  unfold State.syncAttempt
  split
  · refine ⟨covered.acked, fun alive => ⟨fun tuple member => .inl (held alive tuple member), ?_,
      nofun⟩⟩
    rintro _ _ _ _ ⟨⟩
    refine ⟨Nat.le_refl _, fun _ tuple member => ?_⟩
    exact held alive tuple member
  · exact .of_dead ((grows_fails s.log s.tupleBatch).ackedOnDisk covered.acked) rfl

theorem Covered.execute {s : State} (covered : Covered s) (idle : s.executor = .idle)
    (writerKey : String) :
    Covered { s.touchWriter writerKey with
      executor := match s.files.writers.get? writerKey with
        | some writer => .writing writerKey writer
        | none => .making writerKey } := by
  refine ⟨covered.acked, fun alive => ?_⟩
  have live := (covered.live alive).touchWriter writerKey
  have held := live.held (by rw [State.touchWriter, State.setFiles_executor, idle]; rfl)
  cases found : s.files.writers.get? writerKey with
  | some writer => exact .of_held trivial held
  | none =>
    refine ⟨fun tuple member => .inl (held tuple member), nofun, ?_⟩
    rintro _ ⟨⟩ present
    exact LinkedMap.get?_eq_none.mp found (LinkedMap.mem_keys_touch.mp present)

/-- A new writer takes the place of the eldest when the map is full. -/
theorem kept_putBounded {settings : Settings} {s : State} {writerKey : String}
    (absent : writerKey ∉ s.files.writers.keys) (writer : Nat)
    (room : settings.maxOpenFiles ≤ s.files.writers.size →
      ∀ eldest ∈ s.files.writers.values.head?, Settled s eldest) :
    ∀ entry ∈ s.files.writers.entries,
      entry ∈ (s.files.writers.putBounded writerKey writer settings.maxOpenFiles).entries ∨
        Settled s entry.2 := by
  intro entry listed
  by_cases free : s.files.writers.size < settings.maxOpenFiles
  · left
    rw [LinkedMap.putBounded_of_room absent _ free]
    exact List.mem_append_left _ listed
  · have full := Nat.le_of_not_lt free
    cases old : s.files.writers.entries with
    | nil =>
      rw [old] at listed
      cases listed
    | cons eldest rest =>
      rw [old] at listed
      rcases List.mem_cons.mp listed with rfl | listed
      · exact .inr (room full entry.2 (by simp [LinkedMap.values, old]))
      · left
        rw [LinkedMap.putBounded_of_full absent _ full, old, List.cons_append, List.tail_cons]
        exact List.mem_append_left _ listed

theorem Covered.make {settings : Settings} {s : State} (covered : Covered s) {writerKey : String}
    (making : s.executor = .making writerKey)
    (room : settings.maxOpenFiles ≤ s.files.writers.size →
      ∀ eldest ∈ s.files.writers.values.head?, Settled s eldest) :
    Covered { s.putWriter settings writerKey with
      executor := .stamping writerKey s.files.made } := by
  refine ⟨covered.acked, fun alive => .of_held trivial fun tuple member => ?_⟩
  have live := covered.live alive
  have held := live.held (by rw [making]; rfl) tuple member
  exact Held.change (s := s) member held
    (kept_putBounded (live.absent writerKey making) s.files.made room)

theorem Covered.failTuple {s : State} (covered : Covered s) {executor : Executor}
    (plain : Plain executor)
    (held : s.alive = true → ∀ tuple ∈ s.tupleBatch, Held s.files s.log tuple) :
    Covered { s.failTuple with executor := executor } := by
  have grows : Grows s.log (.failed s.executed :: s.log) := .cons s.log fun _ => nofun
  refine ⟨grows.ackedOnDisk covered.acked, fun alive => .of_held plain fun tuple member => ?_⟩
  exact (held alive tuple member).grows grows

/-- A tuple that is written is in hand. -/
theorem Covered.writeTuple {s : State} (covered : Covered s) {writerKey : String} {writer : Nat}
    (writing : s.executor = .writing writerKey writer) (rotates : Bool) :
    Covered { s.writeTuple writer rotates with
      executor := .marking (some (writerKey, writer)) false } := by
  have grows : Grows s.log (.appended s.executed writer :: s.log) := .cons s.log fun _ => nofun
  refine ⟨grows.ackedOnDisk covered.acked, fun alive => ⟨fun tuple member => ?_, nofun, nofun⟩⟩
  rcases List.mem_append.mp member with old | new
  · left
    have held := (covered.live alive).held (by rw [writing]; rfl)
    exact (held tuple old).grows grows
  · cases List.mem_singleton.mp new
    exact .inr ⟨writer, rfl, List.mem_cons_self⟩

/-- Letting go of a writer that is open or settled. -/
theorem Live.held_of_kept {s : State} (live : Live s)
    (kept : ∀ writer ∈ inHand s.executor, Kept s writer) :
    ∀ tuple ∈ s.tupleBatch, Held s.files s.log tuple := by
  intro tuple member
  rcases live.batch tuple member with held | ⟨writer, here, appended⟩
  · exact held
  · rcases kept writer here with open_ | settled
    · exact .inr ⟨writer, open_, appended⟩
    · exact .inl (settled tuple member appended)

/-- Closing the writer in hand puts what waits in it on disk. -/
theorem Live.held_of_closed {s : State} (live : Live s) {writer : Nat}
    (own : inHand s.executor = some writer) {closing : Closing} (closes : closing ≠ .closeFails) :
    ∀ tuple ∈ s.tupleBatch, Held s.files (rotateOutputFile writer closing s.log) tuple := by
  intro tuple member
  rcases live.batch tuple member with held | ⟨other, here, appended⟩
  · exact held.grows (grows_rotateOutputFile writer closing s.log)
  · rw [own] at here
    cases here
    rw [rotateOutputFile, if_neg closes]
    exact .inl (.inl appended)

theorem Covered.rotate {s : State} (covered : Covered s) {writerKey : String} {writer : Nat}
    (rotating : s.executor = .rotating (some (writerKey, writer))) (closing : Closing)
    (keeps : s.needsRotation writer = false ∨ closing = .closeFails → Kept s writer) :
    Covered (if s.needsRotation writer then
        { s with log := rotateOutputFile writer closing s.log, executor := .removing writerKey }
      else { s with executor := .idle }) := by
  have own : inHand s.executor = some writer := by rw [rotating]; rfl
  have let_go : Kept s writer → s.alive = true → ∀ tuple ∈ s.tupleBatch, Held s.files s.log tuple := by
    intro kept alive
    refine (covered.live alive).held_of_kept fun other here => ?_
    rw [own] at here
    cases here
    exact kept
  have grows := grows_rotateOutputFile writer closing s.log
  split
  · refine ⟨grows.ackedOnDisk covered.acked, fun alive => .of_held trivial ?_⟩
    by_cases fails : closing = .closeFails
    · intro tuple member
      exact (let_go (keeps (.inr fails)) alive tuple member).grows grows
    · exact (covered.live alive).held_of_closed own fails
  · rename_i still
    refine ⟨covered.acked, fun alive => .of_held trivial ?_⟩
    exact let_go (keeps (.inl (Bool.eq_false_iff.mpr still))) alive

/-- A turn of the loop that syncs its writer. -/
theorem Covered.synced {s : State} (covered : Covered s) {hand : Option (String × Nat)}
    {attempts writer expected : Nat} {rest : List Nat}
    (syncing : s.executor = .syncing hand attempts (writer :: rest) expected)
    (unmodified : s.writersMod = expected) :
    Covered { s with log := .synced writer :: s.log
                     executor := .syncing hand attempts rest expected } := by
  have grows : Grows s.log (.synced writer :: s.log) := .cons s.log fun _ => nofun
  refine ⟨grows.ackedOnDisk covered.acked, fun alive => ?_⟩
  have live := covered.live alive
  have held := live.held (by rw [syncing]; rfl)
  refine ⟨fun tuple member => .inl ((held tuple member).grows grows), ?_, nofun⟩
  rintro _ _ _ _ ⟨⟩
  obtain ⟨low, covers⟩ := live.syncing hand attempts (writer :: rest) expected syncing
  refine ⟨low, fun _ tuple member => ?_⟩
  rcases covers (.inr unmodified) tuple member with on_disk | ⟨other, listed, appended⟩
  · exact .inl (grows.onDisk on_disk)
  · rcases List.mem_cons.mp listed with rfl | later
    · exact .inl (.inl appended)
    · exact .inr ⟨other, later, grows.mem appended⟩

/-- The loop has ended: every tuple of the batch is on disk. -/
theorem Covered.acks {s : State} (covered : Covered s) (alive : s.alive = true)
    {hand : Option (String × Nat)} {attempts expected : Nat}
    (syncing : s.executor = .syncing hand attempts [] expected) :
    Covered { s.settleBatch .acked with executor := .rotating hand } := by
  obtain ⟨_, covers⟩ := (covered.live alive).syncing hand attempts [] expected syncing
  refine ⟨ackedOnDisk_acks covered.acked _ fun tuple member => ?_, fun _ => ⟨nofun, nofun, nofun⟩⟩
  rcases covers (.inl rfl) tuple member with on_disk | ⟨_, listed, _⟩
  · exact on_disk
  · cases listed

theorem Covered.mark {settings : Settings} {s : State} (covered : Covered s)
    {hand : Option (String × Nat)} {forceSync : Bool} (marking : s.executor = .marking hand forceSync)
    (marks : Bool) (keeps : KeepsUnsynced settings s (.mark marks)) :
    Covered (if marks || (forceSync && !s.tupleBatch.isEmpty) then s.syncAttempt settings hand 0
      else { s with executor := .rotating hand }) := by
  split
  · rename_i due
    have asked : marks = true ∨ forceSync = true :=
      (Bool.or_eq_true_iff.mp due).imp_right fun forced => (Bool.and_eq_true_iff.mp forced).1
    refine covered.syncAttempt settings hand 0 fun alive => ?_
    refine (covered.live alive).held_of_kept fun writer here => ?_
    rw [marking] at here
    cases hand with
    | none => cases here
    | some keyed =>
      cases here
      exact keeps _ _ forceSync marking asked
  · refine ⟨covered.acked, fun alive => ⟨fun tuple member => ?_, nofun, nofun⟩⟩
    refine ((covered.live alive).batch tuple member).imp_right fun ⟨writer, here, appended⟩ => ?_
    refine ⟨writer, ?_, appended⟩
    rw [marking] at here
    cases hand <;> exact here

theorem grows_rotateAll (closing : Nat → Closing) (writers : List Nat) (log : List Event) :
    Grows log (rotateAll closing writers log) := by
  induction writers generalizing log with
  | nil => exact .refl log
  | cons writer rest ih => exact (grows_rotateOutputFile writer (closing writer) log).trans (ih _)

/-- Where the timer is does not matter to the batch. -/
theorem Live.sweeps {s : State} (live : Live s) (timer : Timer) : Live { s with timer := timer } :=
  ⟨live.batch, live.syncing, live.absent⟩

theorem Live.endTimer {s : State} (live : Live s) : Live s.endTimer :=
  ⟨live.batch, live.syncing, live.absent⟩

/-- The close of the timer waits until the executor is idle. -/
theorem Covered.sweepClose {settings : Settings} {s s' : State} (covered : Covered s)
    (alive : s.alive = true) {closing : Closing}
    (taken : s.act settings (.sweepClose closing) = some s') : Covered s' := by
  simp only [State.act] at taken
  split at taken
  · cases taken
    exact ⟨covered.acked, fun alive => (covered.live alive).endTimer⟩
  · rename_i writeKey writer items idle closes
    cases taken
    have grows := grows_rotateOutputFile writer closing s.log
    have held := (covered.live alive).held (by rw [idle]; rfl)
    refine ⟨grows.ackedOnDisk covered.acked, fun _ => .of_held ?_ fun tuple member => ?_⟩
    · simp only [idle, Plain]
    · exact (held tuple member).grows grows
  · cases taken

/-- A step that keeps the unsynced writers keeps the batch covered. -/
theorem Covered.act {settings : Settings} {s s' : State} {action : State.Action}
    (covered : Covered s) (alive : s.alive = true) (keeps : KeepsUnsynced settings s action)
    (taken : s.act settings action = some s') : Covered s' := by
  have live := covered.live alive
  cases action with
  | execute writerKey =>
    obtain ⟨idle, rfl⟩ := State.act_execute taken
    exact covered.execute idle writerKey
  | tick =>
    obtain ⟨idle, rfl⟩ := State.act_tick taken
    exact ⟨covered.acked, fun _ => .of_held trivial (live.held (by rw [idle]; rfl))⟩
  | make creates =>
    obtain ⟨writerKey, making, rfl⟩ := State.act_make taken
    cases creates with
    | true => exact covered.make making (keeps rfl)
    | false => exact covered.failTuple trivial fun _ => live.held (by rw [making]; rfl)
  | stamp now =>
    obtain ⟨writerKey, writer, stamping, rfl⟩ := State.act_stamp taken
    have held := live.held (by rw [stamping]; rfl)
    exact ⟨covered.acked, fun _ => .of_held trivial held⟩
  | write writes rotates =>
    obtain ⟨writerKey, writer, writing, rfl⟩ := State.act_write taken
    cases writes with
    | true => exact covered.writeTuple writing rotates
    | false => exact covered.failTuple trivial fun _ => live.held (by rw [writing]; rfl)
  | mark marks =>
    obtain ⟨hand, forceSync, marking, rfl⟩ := State.act_mark taken
    exact covered.mark marking marks keeps
  | sync syncs =>
    obtain ⟨hand, attempts, rest, expected, syncing, ⟨rfl, rfl⟩ | rfl | rfl |
      ⟨writer, later, rfl, unmodified, rfl⟩⟩ := State.act_sync taken
    · exact covered.acks alive syncing
    · exact .of_dead covered.acked rfl
    · exact covered.syncAttempt settings hand attempts fun _ => live.held (by rw [syncing]; rfl)
    · exact covered.synced syncing unmodified
  | rotate closing =>
    obtain ⟨rotating, rfl⟩ | ⟨writerKey, writer, rotating, rfl⟩ := State.act_rotate taken
    · have held := live.held (by rw [rotating]; rfl)
      exact ⟨covered.acked, fun _ => .of_held trivial held⟩
    · exact covered.rotate rotating closing (keeps writerKey writer rotating)
  | remove =>
    obtain ⟨writerKey, removing, rfl⟩ := State.act_remove taken
    have held := (live.removeWriter (keeps writerKey removing)).held (by
      rw [State.removeWriter, State.setFiles_executor, removing]; rfl)
    exact ⟨covered.acked, fun _ => .of_held trivial held⟩
  | removeTtl =>
    obtain ⟨writerKey, removing, rfl⟩ := State.act_removeTtl taken
    have held := live.held (by rw [removing]; rfl)
    exact ⟨covered.acked, fun _ => .of_held trivial held⟩
  | sweep =>
    simp only [State.act] at taken
    split at taken
    · obtain ⟨_, ⟨⟩⟩ := Option.ite_none_right_eq_some.mp taken
      exact ⟨covered.acked, fun _ => live.sweeps _⟩
    · cases taken
  | sweepNext now =>
    simp only [State.act] at taken
    split at taken
    · cases taken
      exact ⟨covered.acked, fun _ => live.sweeps _⟩
    · split at taken
      · cases taken
        exact ⟨covered.acked, fun _ => live.endTimer⟩
      · obtain ⟨startTime, _, rfl⟩ := Option.map_eq_some_iff.mp taken
        exact ⟨covered.acked, fun _ => live.sweeps _⟩
    · cases taken
  | sweepGet =>
    simp only [State.act] at taken
    split at taken
    · cases taken
      exact ⟨covered.acked, fun _ => (live.touchWriter _).sweeps _⟩
    · cases taken
  | sweepClose closing => exact covered.sweepClose alive taken
  | sweepRemove =>
    simp only [State.act] at taken
    split at taken
    · rename_i writeKey items removing
      cases taken
      have removed := live.removeWriter (keeps writeKey items removing)
      exact ⟨covered.acked, fun _ => removed.sweeps _⟩
    · cases taken
  | sweepRemoveTtl =>
    simp only [State.act] at taken
    split at taken
    · cases taken
      exact ⟨covered.acked, fun _ => (live.removeTtl _).sweeps _⟩
    · cases taken
  | cleanup closing =>
    obtain ⟨_, rfl⟩ := State.act_cleanup taken
    exact .of_dead ((grows_rotateAll closing _ s.log).ackedOnDisk covered.acked) rfl

/-- When every step keeps the unsynced writers, each tuple the bolt acks is on
disk, in every state of the run. -/
theorem acked_tuples_on_disk (settings : Settings) (actions : List State.Action)
    (keeps : AllSteps (State.step settings) (KeepsUnsynced settings) State.init actions) :
    AllStates (State.step settings) (fun s => AckedOnDisk s.log) State.init actions := by
  have start : Covered State.init := ⟨trivial, fun _ => .of_held trivial nofun⟩
  have covered : AllStates (State.step settings) Covered State.init actions := by
    refine AllStates.of_allSteps ?_ actions start keeps
    intro s action s' covered met taken
    obtain ⟨alive, taken⟩ := Option.ite_none_right_eq_some.mp taken
    exact covered.act alive met taken
  exact covered.mono fun s here => here.acked

/-! ### Runs of two partitions -/

/-- `execute` of the first tuple of a partition, which waits in its new writer. -/
def firstWrite (writerKey : String) (now : Int) : List State.Action :=
  [.execute writerKey, .make true, .stamp now, .write true false, .mark false, .rotate .closed]

/-- A tick whose sync of so many writers succeeds. -/
def tickSync (writers : Nat) : List State.Action :=
  .tick :: .mark false :: List.replicate writers (.sync true) ++ [.sync true, .rotate .closed]

/-- Two partitions, a tick, and the end of the first writer. -/
def twoPartitionsRun : List State.Action :=
  firstWrite "k****A=100" 0 ++ firstWrite "k****A=101" 1 ++ tickSync 2 ++
    [.sweep, .sweepNext 60001, .sweepGet, .sweepClose .closed, .sweepRemove, .sweepRemoveTtl]

theorem two_partitions_acked_on_disk :
    AllStates (State.step ⟨2, 3, 60000⟩) (fun s => AckedOnDisk s.log) State.init
      twoPartitionsRun := by
  refine acked_tuples_on_disk ⟨2, 3, 60000⟩ twoPartitionsRun ?_
  have waits : ∀ (s : State) (writerKey : String) (writer : Nat),
      s.executor = .marking (some (writerKey, writer)) false →
        KeepsUnsynced ⟨2, 3, 60000⟩ s (.mark false) := by
    rintro s writerKey writer marking _ _ _ marking' (asked | asked)
    · cases asked
    · cases marking.symm.trans marking'
      cases asked
  refine .cons rfl trivial (.cons rfl (fun _ full => absurd full (by decide)) ?_)
  refine .cons rfl trivial (.cons rfl trivial (.cons rfl (waits _ "k****A=100" 0 rfl) ?_))
  refine .cons rfl (by rintro _ _ ⟨⟩ _; exact .inl (by decide)) ?_
  refine .cons rfl trivial (.cons rfl (fun _ full => absurd full (by decide)) ?_)
  refine .cons rfl trivial (.cons rfl trivial (.cons rfl (waits _ "k****A=101" 1 rfl) ?_))
  refine .cons rfl (by rintro _ _ ⟨⟩ _; exact .inl (by decide)) ?_
  refine .cons rfl trivial (.cons rfl nofun ?_)
  refine .cons rfl trivial (.cons rfl trivial (.cons rfl trivial (.cons rfl nofun ?_)))
  refine .cons rfl trivial (.cons rfl trivial (.cons rfl trivial (.cons rfl trivial ?_)))
  refine .cons rfl (by rintro _ _ ⟨⟩ _ _ _ waiting; cases waiting) (.cons rfl trivial trivial)

/-- With one open file the first tuple is acked though its writer was evicted
unsynced. -/
theorem evicted_tuple_acked :
    ¬ ∀ settings actions,
      AllStates (State.step settings) (fun s => AckedOnDisk s.log) State.init actions := by
  intro on_disk
  have acked := (on_disk ⟨1, 3, 60000⟩
    (firstWrite "k****A=100" 0 ++ firstWrite "k****A=101" 1 ++ tickSync 1)).last rfl
  change AckedOnDisk [.acked 1, .acked 0, .synced 1, .appended 1 1, .appended 0 0] at acked
  simp [AckedOnDisk, OnDisk] at acked

/-- The timer has read the writer of its key; a rotation and a second writer come
before it removes the key. -/
def racedRun : List State.Action :=
  firstWrite "k****A=100" 0 ++ [.sweep, .sweepNext 60001, .sweepGet] ++
    [.execute "k****A=100", .write true true, .mark false, .rotate .closed, .remove, .removeTtl] ++
    [.sweepClose .closed] ++ firstWrite "k****A=100" 60002 ++ [.sweepRemove] ++ tickSync 0

example : ∃ last, runSteps (State.step ⟨2, 3, 60000⟩) State.init racedRun = some last ∧
    .acked 2 ∈ last.log ∧ ¬ OnDisk last.log 2 := by
  refine ⟨_, rfl, by decide, ?_⟩
  change ¬ OnDisk [.acked 2, .acked 1, .acked 0, .appended 2 1, .closed 0, .closed 0,
    .appended 1 0, .appended 0 0] 2
  simp [OnDisk]

end GitvTime.Guarantees.Hdfs
