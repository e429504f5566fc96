import GitvTime.Support.LinkedMap

/-!
# The HDFS bolt with a bounded set of open files

`bolt/AbstractHdfsBolt.java` of storm-hdfs-plus. A writer is the number of its
file, counted as they are made; the two maps hold these. The sync and rotation
policies are interfaces and HDFS may fail at any call, so what they answer is
given with each step; every failure of HDFS is an `IOException`. `Files.step`
takes each operation on the maps as a unit. In `State` the executor and the timer
interleave: a call on a map or a writer is one step, and only `rotateOutputFile`
of the timer waits for the lock that `execute` holds. File names and the offset,
which decide nothing but the policies' answers, are left out.
-/
namespace GitvTime.Source.Hdfs
open GitvTime.Support

/-- `maxOpenFiles`, `fileRetryCount` and the `outTime` of the `TimedClosePolicy`. -/
structure Settings where
  maxOpenFiles : Nat
  fileRetryCount : Nat
  outTime : Int

/-- How `rotateOutputFile` ends: a rotation action may throw after the close. -/
inductive Closing where
  | closed
  | actionFails
  | closeFails
deriving DecidableEq

/-- What happened to tuples and files. A log of events has the newest first. -/
inductive Event where
  | appended (tuple writer : Nat)
  | synced (writer : Nat)
  | closed (writer : Nat)
  | acked (tuple : Nat)
  | failed (tuple : Nat)
deriving DecidableEq

/-- The close of `rotateOutputFile`, in the log. -/
def rotateOutputFile (writer : Nat) (closing : Closing) (log : List Event) : List Event :=
  if closing = .closeFails then log else .closed writer :: log

/-- The loop of `doRotationAndRemoveAllWriters`. -/
def rotateAll (closing : Nat → Closing) : List Nat → List Event → List Event
  | [], log => log
  | writer :: rest, log => rotateAll closing rest (rotateOutputFile writer (closing writer) log)

/-- `writers` and `writersTtl`. `made` counts the writers made so far; an uncaught
exception ends the timer for good. -/
structure Files where
  writers : LinkedMap String Nat
  writersTtl : LinkedMap String Int
  made : Nat
  timerAlive : Bool

namespace Files

def init : Files := ⟨.empty, .empty, 0, true⟩

/-- `getOrCreateWriter`: the writer, or `none` when `makeNewWriter` throws, and
the maps after it. -/
def getOrCreateWriter (settings : Settings) (writerKey : String) (now : Int) (creates : Bool)
    (files : Files) : Option Nat × Files :=
  match files.writers.get? writerKey with
  | some writer => (some writer, { files with writers := files.writers.touch writerKey })
  | none =>
    if creates then
      (some files.made,
        { files with
          writers := files.writers.putBounded writerKey files.made settings.maxOpenFiles
          writersTtl := files.writersTtl.put writerKey now
          made := files.made + 1 })
    else (none, files)

/-- The finally block of `doRotationAndRemoveWriter`. -/
def removeWriter (files : Files) (writerKey : String) : Files :=
  { files with
    writers := files.writers.remove writerKey
    writersTtl := files.writersTtl.remove writerKey }

/-- `doRotationAndRemoveAllWriters`, after the loop. -/
def clear (files : Files) : Files := { files with writers := .empty, writersTtl := .empty }

/-- `doTtlClose` from an entry of `writersTtl` on; `now` is the clock as read for
each entry. -/
def doTtlClose (settings : Settings) (now : String → Int) (closing : Nat → Closing) :
    List (String × Int) → Files × List Event → Files × List Event
  | [], state => state
  | (writeKey, startTime) :: rest, (files, log) =>
    if now writeKey - startTime > settings.outTime then
      match files.writers.get? writeKey with
      -- the null writer is closed: the exception ends the timer
      | none => ({ files with timerAlive := false }, log)
      | some writer =>
        let touched := { files with writers := files.writers.touch writeKey }
        let log := rotateOutputFile writer (closing writer) log
        if closing writer = .closed then
          -- the entry set was modified under its iterator, which only the last entry survives
          ({ touched.removeWriter writeKey with timerAlive := rest.isEmpty }, log)
        else doTtlClose settings now closing rest (touched, log)
    else doTtlClose settings now closing rest (files, log)

/-- The operations that change the maps. -/
inductive Action where
  | getOrCreateWriter (writerKey : String) (now : Int) (creates : Bool)
  | doRotationAndRemoveWriter (writerKey : String)
  | doRotationAndRemoveAllWriters
  | doTtlClose (now : String → Int) (closing : Nat → Closing)

def step (settings : Settings) (files : Files) : Action → Option Files
  | .getOrCreateWriter writerKey now creates =>
    some (files.getOrCreateWriter settings writerKey now creates).2
  | .doRotationAndRemoveWriter writerKey => some (files.removeWriter writerKey)
  | .doRotationAndRemoveAllWriters => some files.clear
  | .doTtlClose now closing =>
    if files.timerAlive then
      some (doTtlClose settings now closing files.writersTtl.entries (files, [])).1
    else none

end Files

/-- Where the executor thread is in `execute`; it holds `writeLock` unless idle.
In hand is the writer of the tuple, with its key. -/
inductive Executor where
  | idle
  /-- `writers.get` gave null -/
  | making (writerKey : String)
  /-- `writersTtl.put` is next -/
  | stamping (writerKey : String) (writer : Nat)
  | writing (writerKey : String) (writer : Nat)
  /-- the sync policy is asked next -/
  | marking (inHand : Option (String × Nat)) (forceSync : Bool)
  /-- in `syncAllWriters`: the attempts begun, the writers to come and the `modCount`
  that the iterator expects -/
  | syncing (inHand : Option (String × Nat)) (attempts : Nat) (rest : List Nat) (expected : Nat)
  | rotating (inHand : Option (String × Nat))
  /-- the finally block of `doRotationAndRemoveWriter` -/
  | removing (writerKey : String)
  | removingTtl (writerKey : String)

/-- The iterator of `doTtlClose`: the keys to come and the `modCount` it expects. -/
structure Iteration where
  rest : List String
  expected : Nat

/-- Where the timer thread is in `doTtlClose`. -/
inductive Timer where
  | waiting
  | iterating (items : Iteration)
  /-- the entry has expired and `writers.get` is next -/
  | getting (writeKey : String) (items : Iteration)
  | closing (writeKey : String) (writer : Option Nat) (items : Iteration)
  | removing (writeKey : String) (items : Iteration)
  | removingTtl (writeKey : String) (items : Iteration)

/-- One bolt. A data tuple is its number among those written or failed. -/
structure State where
  files : Files
  /-- `writers.modCount` -/
  writersMod : Nat
  /-- `writersTtl.modCount` -/
  writersTtlMod : Nat
  needsRotation : Nat → Bool
  tupleBatch : List Nat
  executed : Nat
  log : List Event
  alive : Bool
  executor : Executor
  timer : Timer

namespace State

def init : State :=
  { files := .init, writersMod := 0, writersTtlMod := 0, needsRotation := fun _ => false
    tupleBatch := [], executed := 0, log := [], alive := true, executor := .idle
    timer := .waiting }

/-- Change the maps. A change of the keys or of their order counts as a structural
modification. -/
def setFiles (s : State) (files : Files) : State :=
  { s with
    files
    writersMod :=
      if files.writers.keys = s.files.writers.keys then s.writersMod else s.writersMod + 1
    writersTtlMod :=
      if files.writersTtl.keys = s.files.writersTtl.keys then s.writersTtlMod
      else s.writersTtlMod + 1 }

/-- `writers.get`, which moves the key to the end. -/
def touchWriter (s : State) (writerKey : String) : State :=
  s.setFiles { s.files with writers := s.files.writers.touch writerKey }

def removeWriter (s : State) (writerKey : String) : State :=
  s.setFiles { s.files with writers := s.files.writers.remove writerKey }

def removeTtl (s : State) (writerKey : String) : State :=
  s.setFiles { s.files with writersTtl := s.files.writersTtl.remove writerKey }

/-- `writers.put` of a writer that was just made. -/
def putWriter (settings : Settings) (s : State) (writerKey : String) : State :=
  s.setFiles { s.files with
    writers := s.files.writers.putBounded writerKey s.files.made settings.maxOpenFiles
    made := s.files.made + 1 }

def putTtl (s : State) (writerKey : String) (now : Int) : State :=
  s.setFiles { s.files with writersTtl := s.files.writersTtl.put writerKey now }

def failTuple (s : State) : State :=
  { s with log := .failed s.executed :: s.log, executed := s.executed + 1 }

/-- `writer.write(tuple); tupleBatch.add(tuple)`. -/
def writeTuple (s : State) (writer : Nat) (rotates : Bool) : State :=
  { s with
    needsRotation := fun other => if other = writer then rotates else s.needsRotation other
    tupleBatch := s.tupleBatch ++ [s.executed]
    log := .appended s.executed writer :: s.log
    executed := s.executed + 1 }

/-- The events of a loop over the batch. -/
def settleBatch (s : State) (event : Nat → Event) : State :=
  { s with tupleBatch := [], log := (s.tupleBatch.map event).reverse ++ s.log }

/-- The head of the retry loop: after the last attempt the batch fails and the bolt
dies of the `RuntimeException`. -/
def syncAttempt (settings : Settings) (inHand : Option (String × Nat)) (attempts : Nat)
    (s : State) : State :=
  if attempts < settings.fileRetryCount then
    { s with executor := .syncing inHand (attempts + 1) s.files.writers.values s.writersMod }
  else { s.settleBatch .failed with alive := false }

/-- An exception that nothing catches ends the timer. -/
def endTimer (s : State) : State :=
  { s with files := { s.files with timerAlive := false }, timer := .waiting }

inductive Action where
  /-- a data tuple with this key: `writers.get` -/
  | execute (writerKey : String)
  | tick
  /-- `makeNewWriter`, which may throw, and `writers.put` -/
  | make (creates : Bool)
  /-- `writersTtl.put` -/
  | stamp (now : Int)
  | write (writes rotates : Bool)
  | mark (marks : Bool)
  /-- the next turn of the loop in `syncAllWriters`, or what follows its end -/
  | sync (syncs : Bool)
  | rotate (closing : Closing)
  | remove
  | removeTtl
  /-- the timer calls `doTtlClose` -/
  | sweep
  /-- the next turn of its loop, with the clock as read there -/
  | sweepNext (now : Int)
  | sweepGet
  | sweepClose (closing : Closing)
  | sweepRemove
  | sweepRemoveTtl
  /-- the end of the bolt -/
  | cleanup (closing : Nat → Closing)

/-- One action of a bolt that is alive, `none` when it is not possible. -/
def act (settings : Settings) (s : State) : Action → Option State
  | .execute writerKey =>
    match s.executor with
    | .idle => some { s.touchWriter writerKey with
        executor := match s.files.writers.get? writerKey with
          | some writer => .writing writerKey writer
          | none => .making writerKey }
    | _ => none
  | .tick =>
    match s.executor with
    | .idle => some { s with executor := .marking none true }
    | _ => none
  | .make creates =>
    match s.executor with
    | .making writerKey =>
      some (if creates then
        { s.putWriter settings writerKey with executor := .stamping writerKey s.files.made }
      else { s.failTuple with executor := .marking none true })
    | _ => none
  | .stamp now =>
    match s.executor with
    | .stamping writerKey writer =>
      some { s.putTtl writerKey now with executor := .writing writerKey writer }
    | _ => none
  | .write writes rotates =>
    match s.executor with
    | .writing writerKey writer =>
      some (if writes then
        { s.writeTuple writer rotates with executor := .marking (some (writerKey, writer)) false }
      else { s.failTuple with executor := .marking (some (writerKey, writer)) true })
    | _ => none
  | .mark marks =>
    match s.executor with
    | .marking inHand forceSync =>
      some (if marks || (forceSync && !s.tupleBatch.isEmpty) then s.syncAttempt settings inHand 0
      else { s with executor := .rotating inHand })
    | _ => none
  | .sync syncs =>
    match s.executor with
    | .syncing inHand _ [] _ => some { s.settleBatch .acked with executor := .rotating inHand }
    | .syncing inHand attempts (writer :: rest) expected =>
      -- the iterator throws, which is no `IOException`
      if s.writersMod ≠ expected then some { s with alive := false }
      else if syncs then
        some { s with log := .synced writer :: s.log
                      executor := .syncing inHand attempts rest expected }
      else some (s.syncAttempt settings inHand attempts)
    | _ => none
  | .rotate closing =>
    match s.executor with
    | .rotating none => some { s with executor := .idle }
    | .rotating (some (writerKey, writer)) =>
      some (if s.needsRotation writer then
        { s with log := rotateOutputFile writer closing s.log, executor := .removing writerKey }
      else { s with executor := .idle })
    | _ => none
  | .remove =>
    match s.executor with
    | .removing writerKey =>
      some { s.removeWriter writerKey with executor := .removingTtl writerKey }
    | _ => none
  | .removeTtl =>
    match s.executor with
    | .removingTtl writerKey => some { s.removeTtl writerKey with executor := .idle }
    | _ => none
  | .sweep =>
    match s.timer with
    | .waiting =>
      if s.files.timerAlive then
        some { s with timer := .iterating ⟨s.files.writersTtl.keys, s.writersTtlMod⟩ }
      else none
    | _ => none
  | .sweepNext now =>
    match s.timer with
    | .iterating ⟨[], _⟩ => some { s with timer := .waiting }
    | .iterating ⟨writeKey :: rest, expected⟩ =>
      if s.writersTtlMod ≠ expected then some s.endTimer
      else
        -- an unmodified map has the key
        (s.files.writersTtl.get? writeKey).map fun startTime =>
          { s with timer :=
              if now - startTime > settings.outTime then .getting writeKey ⟨rest, expected⟩
              else .iterating ⟨rest, expected⟩ }
    | _ => none
  | .sweepGet =>
    match s.timer with
    | .getting writeKey items => some { s.touchWriter writeKey with
        timer := .closing writeKey (s.files.writers.get? writeKey) items }
    | _ => none
  | .sweepClose closing =>
    match s.executor, s.timer with
    -- the null writer is closed
    | .idle, .closing _ none _ => some s.endTimer
    | .idle, .closing writeKey (some writer) items =>
      some { s with
        log := rotateOutputFile writer closing s.log
        timer := if closing = .closed then .removing writeKey items else .iterating items }
    | _, _ => none
  | .sweepRemove =>
    match s.timer with
    | .removing writeKey items =>
      some { s.removeWriter writeKey with timer := .removingTtl writeKey items }
    | _ => none
  | .sweepRemoveTtl =>
    match s.timer with
    | .removingTtl writeKey items =>
      some { s.removeTtl writeKey with timer := .iterating items }
    | _ => none
  | .cleanup closing =>
    match s.executor with
    | .idle => some { s with
        files := s.files.clear
        log := rotateAll closing s.files.writers.values s.log
        alive := false }
    | _ => none

def step (settings : Settings) (s : State) (action : Action) : Option State :=
  if s.alive then s.act settings action else none

/-! ### What a change of the maps leaves alone -/

section
variable (s : State) (files : Files)

@[simp] theorem setFiles_files : (s.setFiles files).files = files := rfl

@[simp] theorem setFiles_tupleBatch : (s.setFiles files).tupleBatch = s.tupleBatch := rfl

@[simp] theorem setFiles_log : (s.setFiles files).log = s.log := rfl

@[simp] theorem setFiles_executor : (s.setFiles files).executor = s.executor := rfl

end

/-! ### What an action of the executor has done -/

section
variable {settings : Settings} {s s' : State}

theorem act_execute {writerKey : String} (taken : s.act settings (.execute writerKey) = some s') :
    s.executor = .idle ∧ s' = { s.touchWriter writerKey with
      executor := match s.files.writers.get? writerKey with
        | some writer => .writing writerKey writer
        | none => .making writerKey } := by
  simp only [act] at taken
  split at taken
  · rename_i idle
    exact ⟨idle, (Option.some.inj taken).symm⟩
  · cases taken

theorem act_tick (taken : s.act settings .tick = some s') :
    s.executor = .idle ∧ s' = { s with executor := .marking none true } := by
  simp only [act] at taken
  split at taken
  · rename_i idle
    exact ⟨idle, (Option.some.inj taken).symm⟩
  · cases taken

theorem act_make {creates : Bool} (taken : s.act settings (.make creates) = some s') :
    ∃ writerKey, s.executor = .making writerKey ∧ s' = if creates then
      { s.putWriter settings writerKey with executor := .stamping writerKey s.files.made }
      else { s.failTuple with executor := .marking none true } := by
  simp only [act] at taken
  split at taken
  · rename_i writerKey making
    exact ⟨writerKey, making, (Option.some.inj taken).symm⟩
  · cases taken

theorem act_stamp {now : Int} (taken : s.act settings (.stamp now) = some s') :
    ∃ writerKey writer, s.executor = .stamping writerKey writer ∧
      s' = { s.putTtl writerKey now with executor := .writing writerKey writer } := by
  simp only [act] at taken
  split at taken
  · rename_i writerKey writer stamping
    exact ⟨writerKey, writer, stamping, (Option.some.inj taken).symm⟩
  · cases taken

theorem act_write {writes rotates : Bool}
    (taken : s.act settings (.write writes rotates) = some s') :
    ∃ writerKey writer, s.executor = .writing writerKey writer ∧ s' = if writes then
      { s.writeTuple writer rotates with executor := .marking (some (writerKey, writer)) false }
      else { s.failTuple with executor := .marking (some (writerKey, writer)) true } := by
  simp only [act] at taken
  split at taken
  · rename_i writerKey writer writing
    exact ⟨writerKey, writer, writing, (Option.some.inj taken).symm⟩
  · cases taken

theorem act_mark {marks : Bool} (taken : s.act settings (.mark marks) = some s') :
    ∃ hand forceSync, s.executor = .marking hand forceSync ∧
      s' = if marks || (forceSync && !s.tupleBatch.isEmpty) then s.syncAttempt settings hand 0
        else { s with executor := .rotating hand } := by
  simp only [act] at taken
  split at taken
  · rename_i hand forceSync marking
    exact ⟨hand, forceSync, marking, (Option.some.inj taken).symm⟩
  · cases taken

/-- The loop has ended, or a turn of it syncs a writer, fails or throws. -/
theorem act_sync {syncs : Bool} (taken : s.act settings (.sync syncs) = some s') :
    ∃ hand attempts rest expected, s.executor = .syncing hand attempts rest expected ∧
      (rest = [] ∧ s' = { s.settleBatch .acked with executor := .rotating hand } ∨
        s' = { s with alive := false } ∨ s' = s.syncAttempt settings hand attempts ∨
        ∃ writer later, rest = writer :: later ∧ s.writersMod = expected ∧
          s' = { s with log := .synced writer :: s.log
                        executor := .syncing hand attempts later expected }) := by
  simp only [act] at taken
  split at taken
  · rename_i hand attempts expected syncing
    exact ⟨hand, attempts, [], expected, syncing, .inl ⟨rfl, (Option.some.inj taken).symm⟩⟩
  · rename_i hand attempts writer rest expected syncing
    refine ⟨hand, attempts, writer :: rest, expected, syncing, .inr ?_⟩
    split at taken
    · exact .inl (Option.some.inj taken).symm
    · rename_i unmodified
      split at taken
      · exact .inr (.inr ⟨writer, rest, rfl, Decidable.not_not.mp unmodified,
          (Option.some.inj taken).symm⟩)
      · exact .inr (.inl (Option.some.inj taken).symm)
  · cases taken

theorem act_rotate {closing : Closing} (taken : s.act settings (.rotate closing) = some s') :
    s.executor = .rotating none ∧ s' = { s with executor := .idle } ∨
      ∃ writerKey writer, s.executor = .rotating (some (writerKey, writer)) ∧
        s' = if s.needsRotation writer then
          { s with log := rotateOutputFile writer closing s.log, executor := .removing writerKey }
          else { s with executor := .idle } := by
  simp only [act] at taken
  split at taken
  · rename_i rotating
    exact .inl ⟨rotating, (Option.some.inj taken).symm⟩
  · rename_i writerKey writer rotating
    exact .inr ⟨writerKey, writer, rotating, (Option.some.inj taken).symm⟩
  · cases taken

theorem act_remove (taken : s.act settings .remove = some s') :
    ∃ writerKey, s.executor = .removing writerKey ∧
      s' = { s.removeWriter writerKey with executor := .removingTtl writerKey } := by
  simp only [act] at taken
  split at taken
  · rename_i writerKey removing
    exact ⟨writerKey, removing, (Option.some.inj taken).symm⟩
  · cases taken

theorem act_removeTtl (taken : s.act settings .removeTtl = some s') :
    ∃ writerKey, s.executor = .removingTtl writerKey ∧
      s' = { s.removeTtl writerKey with executor := .idle } := by
  simp only [act] at taken
  split at taken
  · rename_i writerKey removing
    exact ⟨writerKey, removing, (Option.some.inj taken).symm⟩
  · cases taken

theorem act_cleanup {closing : Nat → Closing}
    (taken : s.act settings (.cleanup closing) = some s') :
    s.executor = .idle ∧ s' = { s with
      files := s.files.clear
      log := rotateAll closing s.files.writers.values s.log
      alive := false } := by
  simp only [act] at taken
  split at taken
  · rename_i idle
    exact ⟨idle, (Option.some.inj taken).symm⟩
  · cases taken

end

end State

end GitvTime.Source.Hdfs
