import GitvTime.Guarantees.Hdfs.RecoveredFiles
import GitvTime.Support.Runs

/-!
# Exactly once on HDFS

Trident repeats a transaction until it commits and only then begins the next one. The
index finds what the earlier transactions wrote: the files before the one it names, and
as many bytes of that one as it counts. An attempt keeps this as long as a recovery that
copies bytes is not cut off, and as long as the offset is right, which the recovery of no
bytes does not reset.
-/
namespace GitvTime.Guarantees.Hdfs.ExactlyOnce
open GitvTime.Support GitvTime.Source.Hdfs.HdfsState RecoveredFiles

/-- What the transactions should leave: the batches of the earlier ones and that of the
last attempt at this one, if it committed. -/
structure Ledger where
  settled : List UInt8
  txId : Nat
  last : Option (List UInt8)

namespace Ledger

def init : Ledger := ⟨[], 0, some []⟩

/-- Trident counts from one, repeats a transaction at will and goes on once it committed. -/
def Allows (l : Ledger) (txId : Nat) : Prop :=
  0 < txId ∧ (txId = l.txId ∨ l.txId < txId ∧ l.last.isSome = true)

instance (l : Ledger) (txId : Nat) : Decidable (l.Allows txId) :=
  inferInstanceAs (Decidable (_ ∧ _))

/-- An attempt at a transaction begins: its own earlier attempts count no more. -/
def begins (l : Ledger) (txId : Nat) : Ledger where
  settled := if txId = l.txId then l.settled else l.settled ++ l.last.getD []
  txId := txId
  last := none

def book (l : Ledger) (a : Attempt) (committed : Bool) : Ledger :=
  { l.begins a.txId with last := if committed then some a.batch.flatten else none }

end Ledger

/-! ### What holds between the attempts -/

/-- A record of this transaction finds the data of the earlier ones; an older one is
read only while nothing of this one was written. -/
structure Fits (l : Ledger) (files : List (Option DataFile)) (record : TxnRecord) : Prop where
  known : record.txnid ≤ l.txId
  current : record.txnid = l.txId → RecoversTo files record l.settled
  older : record.txnid < l.txId → l.last = none ∧ content files = l.settled ∧ Durable files

structure Kept (l : Ledger) (d : Disk) : Prop where
  committed : ∀ batch, l.last = some batch →
    content d.files = l.settled ++ batch ∧ Durable d.files
  recorded : ∀ record, d.txnRecord = some record → Fits l d.files record
  unrecorded : d.txnRecord = none →
    l = .init ∨ l.last = none ∧ content d.files = l.settled ∧ Durable d.files

structure Alive (l : Ledger) (d : Disk) (s : Session) : Prop where
  seen : Fits l d.files s.lastSeenTxn
  writing : ∃ front file, d.files = front ++ [some file] ∧ front.length = s.currentFile ∧
    (l.last.isSome = true ∨ s.lastSeenTxn.txnid < l.txId → s.offset = file.bytes.length)
  out : s.out = s.currentFile
  same : 0 < l.txId → s.lastSeenTxn.txnid = l.txId → d.txnRecord = some s.lastSeenTxn

theorem Kept.crash {l : Ledger} {d : Disk} (kept : Kept l d)
    (secured : ∀ record, d.txnRecord = some record → record.txnid = l.txId →
      Secured d.files record) (keep : Nat → Nat) : Kept l (d.crash keep) := by
  have same : Durable d.files → (d.crash keep).files = d.files := fun durable =>
    mapIdx_crash durable keep
  constructor
  · intro batch last
    obtain ⟨holds, durable⟩ := kept.committed batch last
    rw [same durable]
    exact ⟨holds, durable⟩
  · intro record read
    obtain ⟨known, current, older⟩ := kept.recorded record read
    refine ⟨known, fun eq => (current eq).crash (secured record read eq) keep, fun lt => ?_⟩
    rw [same (older lt).2.2]
    exact older lt
  · intro read
    rcases kept.unrecorded read with start | pending
    · exact .inl start
    · rw [same pending.2.2]
      exact .inr pending

theorem Kept.crash_durable {l : Ledger} {d : Disk} (kept : Kept l d)
    (durable : Durable d.files) (keep : Nat → Nat) : Kept l (d.crash keep) := by
  have same : d.crash keep = d := congrArg (fun files => { d with files }) (mapIdx_crash durable _)
  rwa [same]

/-! ### An attempt -/

/-- The attempt stops, if at all, by an exception behind `updateIndex`. -/
def Steady (a : Attempt) : Prop :=
  match a.stop with
  | none | some (.writing _ _, .throws) | some (.committing _, .throws) => True
  | _ => False

instance (a : Attempt) : Decidable (Steady a) := by
  unfold Steady
  split <;> infer_instance

/-- The attempt stops inside `recover`, if it recovers. -/
def Torn (a : Attempt) : Prop :=
  match a.stop with
  | some (.closing, _) | some (.copying _, _) | some (.deleting, _) => True
  | _ => False

theorem Torn.shaken {a : Attempt} (torn : Torn a) : ¬ Steady a := by
  unfold Torn at torn
  unfold Steady
  split at torn <;> rename_i stop
  all_goals first | exact torn.elim | simp [stop]

/-- A recovery that copies bytes is in a steady attempt, one that copies none finds an
offset of zero and is not followed by an exception in the index. -/
def Spared (a : Attempt) (s : Session) : Prop :=
  a.txId ≤ s.lastSeenTxn.txnid →
    (0 < s.lastSeenTxn.offset → Steady a) ∧
      (s.lastSeenTxn.offset = 0 → s.offset = 0 ∧ ∀ calls, a.stop ≠ some (.indexing calls, .throws))

/-- Before `updateIndex`: the files hold the data of the earlier transactions, the last
of them is the one written to, and where the attempt may stop in the index, what it reads
is still in order. -/
structure Begun (l : Ledger) (a : Attempt) (d : Disk) (s : Session) : Prop where
  writing : ∃ front file, d.files = front ++ [some file] ∧ front.length = s.currentFile ∧
    s.offset = file.bytes.length ∧ Durable front
  out : s.out = s.currentFile
  settled : content d.files = l.settled
  stoppable : Steady a ∨ Kept l d ∧ Fits l d.files s.lastSeenTxn ∧ Durable d.files ∧
    (s.lastSeenTxn.txnid < l.txId ∨ ∀ calls, a.stop ≠ some (.indexing calls, .throws))

/-- Behind `updateIndex`: the index names the current file. -/
structure Open (l : Ledger) (a : Attempt) (d : Disk) (s : Session) : Prop where
  pending : l.last = none
  positive : 0 < l.txId
  tx : s.lastSeenTxn.txnid = l.txId
  read : d.txnRecord = some s.lastSeenTxn
  writing : ∃ front file, d.files = front ++ [some file] ∧
    front.length = s.lastSeenTxn.dataFile ∧ s.currentFile = s.lastSeenTxn.dataFile ∧
      content front ++ file.bytes.take s.lastSeenTxn.offset = l.settled ∧
        s.lastSeenTxn.offset ≤ file.bytes.length ∧ Durable front ∧
          (s.lastSeenTxn.offset ≤ file.synced ∨ Steady a)
  out : s.out = s.currentFile

variable {l : Ledger} {a : Attempt} {d : Disk} {s : Session}

theorem Fits.of_recovers {files : List (Option DataFile)} {record : TxnRecord}
    (recovers : RecoversTo files record l.settled) (tx : record.txnid = l.txId) :
    Fits l files record :=
  ⟨Nat.le_of_eq tx, fun _ => recovers, fun older => absurd tx (Nat.ne_of_lt older)⟩

theorem Fits.kept {record : TxnRecord} (fits : Fits l d.files record) (pending : l.last = none)
    (read : d.txnRecord = some record) : Kept l d := by
  refine ⟨fun batch last => ?_, fun other found => ?_, fun nothing => ?_⟩
  · rw [pending] at last
    cases last
  · cases read.symm.trans found
    exact fits
  · cases read.symm.trans nothing

theorem Open.fits (opened : Open l a d s) : Fits l d.files s.lastSeenTxn := by
  obtain ⟨front, file, files, at_file, _, cut, inside, durable, _⟩ := opened.writing
  have recovers : RecoversTo d.files s.lastSeenTxn l.settled :=
    ⟨front, some file, [], files, at_file, cut, inside, rfl, durable⟩
  exact Fits.of_recovers recovers opened.tx

theorem Open.kept (opened : Open l a d s) : Kept l d :=
  opened.fits.kept opened.pending opened.read

theorem Open.alive (opened : Open l a d s) : Alive l d s := by
  obtain ⟨front, file, files, at_file, current, _⟩ := opened.writing
  refine ⟨opened.fits, ⟨front, file, files, at_file.trans current.symm, ?_⟩, opened.out,
    fun _ _ => opened.read⟩
  rintro (committed | older)
  · rw [opened.pending] at committed
    cases committed
  · exact absurd opened.tx (Nat.ne_of_lt older)

theorem Open.crash (opened : Open l a d s) (shaken : ¬ Steady a) (keep : Nat → Nat) :
    Kept l (d.crash keep) := by
  obtain ⟨front, file, files, at_file, _, _, _, _, secured⟩ := opened.writing
  refine opened.kept.crash (fun record read _ other found => ?_) keep
  rw [opened.read] at read
  cases read
  rw [files, ← at_file, List.getElem?_concat_length] at found
  cases found
  exact secured.resolve_right shaken

/-- The states that an attempt leaves where it stops. -/
def Settles (l : Ledger) (a : Attempt) : Disk × Session × Ending → Prop
  | (d, s, .throws) => Kept l d ∧ Alive l d s
  | (d, _, .dies) => Kept l (d.crash a.keep)

/-- What a phase does: it goes on with `P` or stops in a state as above. -/
def Reaches (l : Ledger) (a : Attempt) (P : Disk → Session → Prop) : Phase → Prop
  | .ok (d, s) => P d s
  | .error stopped => Settles l a stopped

theorem Reaches.bind {P Q : Disk → Session → Prop} {x : Phase} {f : Disk × Session → Phase}
    (first : Reaches l a P x) (later : ∀ d s, P d s → Reaches l a Q (f (d, s))) :
    Reaches l a Q (x >>= f) := by
  cases x with
  | ok result => exact later _ _ first
  | error stopped => exact first

/-! ### Its phases -/

/-- The record that `updateIndex` writes finds the data of the earlier transactions. -/
theorem Begun.fits (begun : Begun l a d s) (tx : a.txId = l.txId) :
    Fits l d.files ⟨a.txId, s.currentFile, s.offset⟩ := by
  obtain ⟨front, file, files, at_file, offset, durable⟩ := begun.writing
  have cut : content front ++ file.bytes.take s.offset = l.settled := by
    rw [offset, List.take_length, ← begun.settled, files]
    simp [textOf]
  have recovers : RecoversTo d.files ⟨a.txId, s.currentFile, s.offset⟩ l.settled :=
    ⟨front, some file, [], files, at_file, cut, Nat.le_of_eq offset, rfl, durable⟩
  exact Fits.of_recovers recovers tx

/-- No call of `updateIndex` takes away what recovers the earlier transactions. -/
theorem Kept.indexed (kept : Kept l d) (durable : Durable d.files)
    (settled : content d.files = l.settled) (pending : l.last = none) {record : TxnRecord}
    (fits : Fits l d.files record) (calls : Nat) :
    Kept l (((Disk.indexCalls record).take calls).foldl (fun d call => call d) d) := by
  obtain ⟨files, _, read⟩ := indexCalls_take record d calls
  constructor
  · intro batch last
    rw [pending] at last
    cases last
  · intro other found
    rw [files]
    rcases read with old | nothing | new
    · exact kept.recorded other (old ▸ found)
    · rw [nothing] at found
      cases found
    · cases new.symm.trans found
      exact fits
  · intro _
    rw [files]
    exact .inr ⟨pending, settled, durable⟩

/-- The bytes of the last file are counted exactly. -/
def Exact (d : Disk) (s : Session) (base : List UInt8) : Prop :=
  content d.files = base ∧ ∃ front file, d.files = front ++ [some file] ∧
    s.offset = file.bytes.length

theorem updateIndex_reaches (begun : Begun l a d s) (pending : l.last = none)
    (positive : 0 < l.txId) (tx : a.txId = l.txId) :
    Reaches l a (fun d s => Open l a d s ∧ Exact d s l.settled) (a.updateIndex d s) := by
  obtain ⟨front, file, files, at_file, offset, front_durable⟩ := begun.writing
  have fits := begun.fits tx
  unfold Attempt.updateIndex
  split
  case h_1 calls ending stop =>
    have shaken : ¬ Steady a := by simp [Steady, stop]
    obtain ⟨kept, seen, durable, quiet⟩ := begun.stoppable.resolve_left shaken
    have indexed := kept.indexed durable begun.settled pending fits calls
    obtain ⟨same, whole, _⟩ := indexCalls_take ⟨a.txId, s.currentFile, s.offset⟩ d calls
    cases ending with
    | dies => exact indexed.crash_durable (same ▸ durable) a.keep
    | throws =>
      have older : s.lastSeenTxn.txnid < l.txId :=
        quiet.resolve_right fun quiet => quiet calls stop
      refine ⟨indexed, ?_, ⟨front, file, same.trans files, at_file, fun _ => offset⟩,
        begun.out, ?_⟩
      · rw [same]
        by_cases early : calls < 4
        · simpa only [early, if_true] using seen
        · simpa only [early, if_false] using fits
      · intro _ current
        by_cases early : calls < 4
        · simp only [early, if_true] at current
          exact absurd current (Nat.ne_of_lt older)
        · simpa only [early, if_false] using whole (Nat.le_of_not_lt early)
  case h_2 =>
    obtain ⟨same, whole, _⟩ := indexCalls_take ⟨a.txId, s.currentFile, s.offset⟩ d 4
    constructor
    · refine ⟨pending, positive, tx, whole (Nat.le_refl 4), ⟨front, file, same.trans files,
        at_file, rfl, ?_, Nat.le_of_eq offset, front_durable, ?_⟩, begun.out⟩
      · rw [offset, List.take_length, ← begun.settled, files]
        simp [textOf]
      · refine begun.stoppable.symm.imp_left fun shaken => ?_
        have durable := shaken.2.2.1
        have member : some file ∈ d.files := by simp [files]
        exact Nat.le_of_eq (offset.trans (durable file member).symm)
    · exact ⟨same.symm ▸ begun.settled, front, file, same.trans files, offset⟩

/-- What a recovery does that reads these bytes. -/
theorem recover_cases {copied : List UInt8}
    (found : (if s.lastSeenTxn.offset > 0 then
        (((d.sync s.out).create).bytesOf s.lastSeenTxn.dataFile).map
          fun ahead => copyBytes a.read ahead s.lastSeenTxn.offset
      else some []) = some copied) :
    (Torn a ∧ ∃ left, a.recover d s = .error (left, s, .dies) ∧
      (left = d ∨ ∃ count,
        left = ((d.sync s.out).create).write d.files.length (copied.take count))) ∨
      a.recover d s =
        .ok ((((d.sync s.out).create).write d.files.length copied).delete
            s.lastSeenTxn.dataFile,
          { s with
            currentFile := d.files.length
            out := d.files.length
            offset := if s.lastSeenTxn.offset > 0 then s.lastSeenTxn.offset else s.offset }) := by
  unfold Attempt.recover
  dsimp only
  rw [found]
  obtain ⟨txId, batch, read, marks, rotationActions, stop, keep⟩ := a
  cases stop with
  | none => exact .inr rfl
  | some stop =>
    obtain ⟨point, ending⟩ := stop
    cases point with
    | closing => exact .inl ⟨trivial, d, rfl, .inl rfl⟩
    | copying count => exact .inl ⟨trivial, _, rfl, .inr ⟨count, rfl⟩⟩
    | deleting =>
      exact .inl ⟨trivial, _, rfl, .inr ⟨copied.length, by rw [List.take_length]⟩⟩
    | indexing calls => exact .inr rfl
    | writing tuples bytes => exact .inr rfl
    | committing calls => exact .inr rfl

theorem recover_reaches (read : d.txnRecord = some s.lastSeenTxn)
    (recovers : RecoversTo d.files s.lastSeenTxn l.settled)
    (tx : s.lastSeenTxn.txnid = l.txId) (pending : l.last = none)
    (copies : 0 < s.lastSeenTxn.offset → Steady a)
    (rests : s.lastSeenTxn.offset = 0 →
      s.offset = 0 ∧ ∀ calls, a.stop ≠ some (.indexing calls, .throws)) :
    Reaches l a (Begun l a) (a.recover d s) := by
  obtain ⟨copied, front, found, length, files, front_length, durable, settled, unmoved⟩ :=
    recovers.recovered s.out a.read
  rcases recover_cases found with ⟨torn, left, stopped, which⟩ | recovered
  · have zero : s.lastSeenTxn.offset = 0 :=
      Nat.eq_zero_of_not_pos fun positive => torn.shaken (copies positive)
    have nothing : copied = [] := List.eq_nil_of_length_eq_zero (length.trans zero)
    have left_read : left.txnRecord = some s.lastSeenTxn := by
      rcases which with rfl | ⟨count, rfl⟩ <;> exact read
    have left_recovers : RecoversTo left.files s.lastSeenTxn l.settled := by
      rcases which with rfl | ⟨count, rfl⟩
      · exact recovers
      · rw [nothing, List.take_nil]
        exact recovers.rotated s.out
    rw [stopped]
    have kept := (Fits.of_recovers left_recovers tx).kept pending left_read
    refine kept.crash (fun record other _ => ?_) a.keep
    cases left_read.symm.trans other
    exact fun file _ => zero ▸ Nat.zero_le _
  · rw [recovered]
    have whole : content (front ++ [some (.write copied .create)]) = l.settled := by
      rw [content_append, ← settled]
      exact congrArg (content front ++ ·) (List.append_nil copied)
    refine ⟨⟨front, _, files, front_length, ?_, durable⟩, rfl, files ▸ whole, ?_⟩
    · dsimp only
      split
      case isTrue positive => exact length.symm
      case isFalse done =>
        have zero := Nat.eq_zero_of_not_pos done
        exact (rests zero).1.trans (zero ▸ length.symm)
    · rcases Nat.eq_zero_or_pos s.lastSeenTxn.offset with zero | positive
      · have nothing : copied = [] := List.eq_nil_of_length_eq_zero (length.trans zero)
        have fits := Fits.of_recovers (files ▸ unmoved zero) tx
        have empty : Durable [some (DataFile.create.write copied)] :=
          durable_singleton.mpr (nothing ▸ rfl)
        refine .inr ⟨fits.kept pending read, fits, ?_, .inr (rests zero).2⟩
        rw [files]
        exact durable_append.mpr ⟨durable, empty⟩
      · exact .inl (copies positive)

theorem Open.write (opened : Open l a d s) (written : List UInt8) (offset : Nat) :
    Open l a (d.write s.out written) { s with offset := offset } := by
  obtain ⟨front, file, files, at_file, current, cut, inside, durable, secured⟩ := opened.writing
  have at_out : front.length = s.out := by rw [at_file, opened.out, current]
  refine ⟨opened.pending, opened.positive, opened.tx, opened.read, ⟨front, file.write written,
    write_last files at_out written, at_file, current, ?_, ?_, durable, secured⟩, opened.out⟩
  · rw [← cut]
    simp only [DataFile.write]
    rw [List.take_append_of_le_length inside]
  · simp only [DataFile.write]
    rw [List.length_append]
    exact Nat.le_add_right_of_le inside

theorem Exact.write {base : List UInt8} (opened : Open l a d s) (exact : Exact d s base)
    (written : List UInt8) :
    Exact (d.write s.out written) { s with offset := s.offset + written.length }
      (base ++ written) := by
  obtain ⟨front, file, files, at_file, current, _⟩ := opened.writing
  obtain ⟨holds, front', file', files', offset⟩ := exact
  obtain ⟨rfl, last⟩ := List.append_inj' (files'.symm.trans files) rfl
  cases last
  have at_out : front'.length = s.out := by rw [at_file, opened.out, current]
  have grown := write_last files at_out written
  refine ⟨?_, front', _, grown, ?_⟩
  · rw [grown, ← holds, files']
    simp [textOf, DataFile.write]
  · simp only [DataFile.write]
    rw [List.length_append, offset]

theorem updateState_reaches (opened : Open l a d s) (exact : Exact d s l.settled) :
    Reaches l a (fun d s => Open l a d s ∧ Exact d s (l.settled ++ a.batch.flatten))
      (a.updateState d s) := by
  unfold Attempt.updateState
  split
  case h_1 tuples bytes ending stop =>
    have cut := opened.write
      ((a.batch.take tuples).flatten ++ (a.batch[tuples]?.getD []).take bytes)
      (s.offset + (a.batch.take tuples).flatten.length)
    cases ending with
    | throws => exact ⟨cut.kept, cut.alive⟩
    | dies => exact cut.crash (by simp [Steady, stop]) a.keep
  case h_2 => exact ⟨opened.write _ _, exact.write opened a.batch.flatten⟩

/-- Behind the first call of `doCommit`. -/
structure Closed (l : Ledger) (d : Disk) (s : Session) (before : Disk × Session) : Prop where
  seen : s.lastSeenTxn = before.2.lastSeenTxn
  read : d.txnRecord = before.1.txnRecord
  durable : Durable d.files
  same : content d.files = content before.1.files
  recovers : RecoversTo d.files s.lastSeenTxn l.settled
  writing : ∃ front file, d.files = front ++ [some file] ∧ front.length = s.currentFile ∧
    ∀ base, Exact before.1 before.2 base → s.offset = file.bytes.length
  out : s.out = s.currentFile

/-- No rotation action runs. -/
def ActionFree (a : Attempt) : Prop := a.marks = true → a.rotationActions = []

theorem Open.closed (opened : Open l a d s) (free : ActionFree a) (calls : Nat) :
    Closed l (a.commitCalls (calls + 1) d s).1 (a.commitCalls (calls + 1) d s).2 (d, s) := by
  obtain ⟨front, file, files, at_file, current, cut, inside, durable, _⟩ := opened.writing
  have at_current := at_file.trans current.symm
  have synced := sync_last files (at_current.trans opened.out.symm)
  have hard : Durable (d.sync s.out).files := by
    rw [synced]
    exact durable_append.mpr ⟨durable, durable_singleton.mpr rfl⟩
  have same : content (d.sync s.out).files = content d.files := content_sync _ _
  have plain : Closed l (d.sync s.out) s (d, s) := by
    refine ⟨rfl, rfl, hard, same, ?_, ⟨front, file.sync, synced, at_current, ?_⟩, opened.out⟩
    · exact ⟨front, some file.sync, [], synced, at_file, cut, inside, rfl, durable⟩
    · rintro base ⟨_, front', file', files', offset⟩
      obtain ⟨rfl, last⟩ := List.append_inj' (files'.symm.trans files) rfl
      cases last
      exact offset
  cases calls with
  | zero => exact plain
  | succ calls =>
    simp only [Attempt.commitCalls]
    split
    case isFalse => exact plain
    case isTrue marked =>
      have whole : (d.sync s.out).create.files =
          front ++ some file.sync :: [some .create] := by
        simp only [Disk.create, synced, List.append_assoc, List.singleton_append]
      simp only [free marked, List.take_nil, List.foldl_nil, List.length_nil, Nat.not_lt_zero,
        if_false]
      refine ⟨rfl, rfl, ?_, ?_, ?_, ⟨(d.sync s.out).files, .create, rfl, ?_, fun _ _ => rfl⟩,
        rfl⟩
      · exact durable_append.mpr ⟨hard, durable_singleton.mpr rfl⟩
      · rw [← same]
        exact (content_append _ _).trans (List.append_nil _)
      · exact ⟨front, some file.sync, [some .create], whole, at_file, cut, inside, rfl, durable⟩
      · simp only [Disk.sync, List.length_modify]

/-- The ledger when the attempt is over. -/
theorem Closed.finishes {d' : Disk} {s' : Session} (opened : Open l a d s)
    (closed : Closed l d' s' (d, s)) (last : Option (List UInt8))
    (exact : ∀ batch, last = some batch → Exact d s (l.settled ++ batch)) :
    Kept { l with last := last } d' ∧ Alive { l with last := last } d' s' := by
  have tx : s'.lastSeenTxn.txnid = l.txId := closed.seen ▸ opened.tx
  have read : d'.txnRecord = some s'.lastSeenTxn := by
    rw [closed.read, closed.seen]
    exact opened.read
  have recovers : RecoversTo d'.files s'.lastSeenTxn { l with last := last }.settled :=
    closed.recovers
  have fits := Fits.of_recovers recovers tx
  constructor
  · constructor
    · intro batch committed
      exact ⟨closed.same.trans (exact batch committed).1, closed.durable⟩
    · intro record found
      cases read.symm.trans found
      exact fits
    · intro nothing
      cases read.symm.trans nothing
  · obtain ⟨front, file, files, at_file, offset⟩ := closed.writing
    refine ⟨fits, ⟨front, file, files, at_file, ?_⟩, closed.out, fun _ _ => read⟩
    rintro (committed | older)
    · obtain ⟨batch, committed⟩ := Option.isSome_iff_exists.mp committed
      exact offset _ (exact batch committed)
    · exact absurd tx (Nat.ne_of_lt older)

theorem commit_reaches (opened : Open l a d s) (free : ActionFree a)
    (exact : Exact d s (l.settled ++ a.batch.flatten)) :
    Reaches l a (fun d s => Kept { l with last := some a.batch.flatten } d ∧
      Alive { l with last := some a.batch.flatten } d s) (a.commit d s) := by
  have same : { l with last := none } = l := by rw [← opened.pending]
  unfold Attempt.commit
  split
  case h_1 calls ending stop =>
    cases calls with
    | zero =>
      cases ending with
      | throws => exact ⟨opened.kept, opened.alive⟩
      | dies => exact opened.crash (by simp [Steady, stop]) a.keep
    | succ calls =>
      have closed := opened.closed free calls
      have finished := closed.finishes opened none nofun
      rw [same] at finished
      cases ending with
      | throws => exact finished
      | dies => exact finished.1.crash_durable closed.durable a.keep
  case h_2 =>
    refine (opened.closed free (a.rotationActions.length + 1)).finishes opened _
      fun batch committed => ?_
    cases committed
    exact exact

/-! ### The whole of it -/

/-- A record of a later transaction is all the more an older one. -/
theorem Fits.older_begins {record : TxnRecord} {batch : List UInt8} (txId : Nat)
    (fits : Fits l d.files record) (later : l.txId < txId)
    (holds : content d.files = l.settled ++ batch) (durable : Durable d.files)
    (last : l.last = some batch) : Fits (l.begins txId) d.files record := by
  have lt : record.txnid < (l.begins txId).txId := Nat.lt_of_le_of_lt fits.known later
  refine ⟨Nat.le_of_lt lt, fun eq => absurd eq (Nat.ne_of_lt lt), fun _ => ⟨rfl, ?_, durable⟩⟩
  rw [holds, Ledger.begins, if_neg (Nat.ne_of_gt later), last, Option.getD_some]

theorem begins_of_pending (pending : l.last = none) : l.begins l.txId = l := by
  obtain ⟨settled, txId, last⟩ := l
  cases pending
  simp [Ledger.begins]

/-- An attempt at a transaction that the index does not know writes behind the others. -/
theorem begun_of_older (kept : Kept l d) (alive : Alive l d s) (allowed : l.Allows a.txId)
    (older : s.lastSeenTxn.txnid < a.txId) : Begun (l.begins a.txId) a d s := by
  obtain ⟨front, file, files, at_file, offset⟩ := alive.writing
  rcases allowed.2 with same | ⟨later, committed⟩
  · rw [same] at older
    obtain ⟨pending, settled, durable⟩ := alive.seen.older older
    have front_durable : Durable front := (durable_append.mp (files ▸ durable)).1
    rw [same, begins_of_pending pending]
    exact ⟨⟨front, file, files, at_file, offset (.inr older), front_durable⟩, alive.out, settled,
      .inr ⟨kept, alive.seen, durable, .inl older⟩⟩
  · obtain ⟨batch, last⟩ := Option.isSome_iff_exists.mp committed
    obtain ⟨holds, durable⟩ := kept.committed batch last
    have front_durable : Durable front := (durable_append.mp (files ▸ durable)).1
    have settled : content d.files = (l.begins a.txId).settled := by
      rw [holds, Ledger.begins, if_neg (Nat.ne_of_gt later), last, Option.getD_some]
    have begins : Kept (l.begins a.txId) d := by
      refine ⟨nofun, fun record read => ?_, fun _ => .inr ⟨rfl, settled, durable⟩⟩
      exact (kept.recorded record read).older_begins a.txId later holds durable last
    exact ⟨⟨front, file, files, at_file, offset (.inl committed), front_durable⟩, alive.out,
      settled,
      .inr ⟨begins, alive.seen.older_begins a.txId later holds durable last, durable, .inl older⟩⟩

theorem begin_reaches (kept : Kept l d) (alive : Alive l d s) (allowed : l.Allows a.txId)
    (spared : Spared a s) :
    Reaches (l.begins a.txId) a
      (fun d s => Open (l.begins a.txId) a d s ∧ Exact d s (l.begins a.txId).settled)
      (a.beginCommit d s) := by
  have index : ∀ d s, Begun (l.begins a.txId) a d s → Reaches (l.begins a.txId) a
      (fun d s => Open (l.begins a.txId) a d s ∧ Exact d s (l.begins a.txId).settled)
      (a.updateIndex d s) :=
    fun d s begun => updateIndex_reaches begun rfl allowed.1 rfl
  unfold Attempt.beginCommit
  split
  case isFalse younger =>
    exact index d s (begun_of_older kept alive allowed (Nat.lt_of_not_le younger))
  case isTrue seen =>
    have known : s.lastSeenTxn.txnid ≤ l.txId := alive.seen.known
    have same : a.txId = l.txId := by
      refine allowed.2.resolve_right fun ⟨later, _⟩ => ?_
      exact absurd later (Nat.not_lt_of_le (Nat.le_trans seen known))
    have tx : s.lastSeenTxn.txnid = l.txId := Nat.le_antisymm known (same ▸ seen)
    have settled : (l.begins a.txId).settled = l.settled := if_pos same
    have recovers : RecoversTo d.files s.lastSeenTxn (l.begins a.txId).settled :=
      settled ▸ alive.seen.current tx
    have recovered : Reaches (l.begins a.txId) a (Begun (l.begins a.txId) a) (a.recover d s) :=
      recover_reaches (alive.same (same ▸ allowed.1) tx) recovers (tx.trans same.symm) rfl
        (spared seen).1 (spared seen).2
    exact recovered.bind index

theorem attempt_keeps (kept : Kept l d) (alive : Alive l d s) (allowed : l.Allows a.txId)
    (free : ActionFree a) (spared : Spared a s) :
    Kept (l.book a (State.attempt a d s).2) (State.attempt a d s).1.disk ∧
      ∀ s', (State.attempt a d s).1.session = some s' →
        Alive (l.book a (State.attempt a d s).2) (State.attempt a d s).1.disk s' := by
  have reaches : Reaches (l.begins a.txId) a
      (fun d s => Kept (l.book a true) d ∧ Alive (l.book a true) d s) (a.phases d s) := by
    refine (begin_reaches kept alive allowed spared).bind fun d s begun => ?_
    refine (updateState_reaches begun.1 begun.2).bind fun d s updated => ?_
    exact commit_reaches updated.1 free updated.2
  unfold State.attempt
  split
  case h_1 d' s' done =>
    rw [done] at reaches
    exact ⟨reaches.1, fun s'' live => by cases live; exact reaches.2⟩
  case h_2 d' s' stopped =>
    rw [stopped] at reaches
    exact ⟨reaches.1, fun s'' live => by cases live; exact reaches.2⟩
  case h_3 d' s' stopped =>
    rw [stopped] at reaches
    exact ⟨reaches, fun s'' live => by cases live⟩

/-! ### Whole runs -/

/-- A worker starts, dies between two attempts, or makes one. -/
inductive Action where
  | prepare
  | crash (keep : Nat → Nat)
  | attempt (a : Attempt)

def step (w : State × Ledger) : Action → Option (State × Ledger)
  | .prepare => if w.1.session.isNone then some (.prepare w.1.disk, w.2) else none
  | .crash keep => some (⟨w.1.disk.crash keep, none⟩, w.2)
  | .attempt a => do
    let s ← w.1.session
    guard (w.2.Allows a.txId)
    some ((State.attempt a w.1.disk s).1, w.2.book a (State.attempt a w.1.disk s).2)

/-- Attempts are spared and run no rotation action, and a worker that dies between two of
them leaves what the record of this transaction counts. -/
def Unharmed (w : State × Ledger) : Action → Prop
  | .prepare => True
  | .crash _ => ∀ record, w.1.disk.txnRecord = some record → record.txnid = w.2.txId →
    Secured w.1.disk.files record
  | .attempt a => ActionFree a ∧ ∀ s, w.1.session = some s → Spared a s

structure Inv (w : State × Ledger) : Prop where
  kept : Kept w.2 w.1.disk
  alive : ∀ s, w.1.session = some s → Alive w.2 w.1.disk s

theorem Inv.init : Inv (.init, .init) := by
  refine ⟨⟨fun batch last => ?_, nofun, fun _ => .inl rfl⟩, nofun⟩
  cases last
  exact ⟨rfl, nofun⟩

theorem Fits.create {record : TxnRecord} (fits : Fits l d.files record) :
    Fits l d.create.files record := by
  refine ⟨fits.known, fun current => ?_, fun older => ?_⟩
  · obtain ⟨before, file, after, files, at_file, cut, inside, empty, durable⟩ :=
      fits.current current
    refine ⟨before, file, after ++ [some .create], ?_, at_file, cut, inside, ?_, durable⟩
    · simp only [Disk.create, files, List.append_assoc, List.cons_append]
    · rw [content_append, empty]
      rfl
  · obtain ⟨pending, settled, durable⟩ := fits.older older
    exact ⟨pending, (content_append _ _).trans (settled ▸ List.append_nil _),
      durable_append.mpr ⟨durable, durable_singleton.mpr rfl⟩⟩

theorem Kept.create (kept : Kept l d) : Kept l d.create := by
  have same : content d.create.files = content d.files :=
    (content_append _ _).trans (List.append_nil _)
  have hard : Durable d.files → Durable d.create.files := fun durable =>
    durable_append.mpr ⟨durable, durable_singleton.mpr rfl⟩
  constructor
  · intro batch last
    obtain ⟨holds, durable⟩ := kept.committed batch last
    exact ⟨same.trans holds, hard durable⟩
  · intro record read
    exact (kept.recorded record read).create
  · intro read
    refine (kept.unrecorded read).imp_right fun ⟨pending, settled, durable⟩ => ?_
    exact ⟨pending, same.trans settled, hard durable⟩

/-- The record that a worker without an index makes up. -/
theorem Kept.first_record (kept : Kept l d) (read : d.txnRecord = none) :
    Fits l d.create.files ⟨0, d.files.length, 0⟩ := by
  have settled : content d.files = l.settled ∧ Durable d.files ∧ (0 < l.txId → l.last = none) := by
    rcases kept.unrecorded read with rfl | ⟨pending, settled, durable⟩
    · obtain ⟨holds, durable⟩ := kept.committed [] rfl
      exact ⟨holds, durable, nofun⟩
    · exact ⟨settled, durable, fun _ => pending⟩
  refine ⟨Nat.zero_le _, fun _ => ?_, fun older => ?_⟩
  · refine ⟨d.files, some .create, [], rfl, rfl, ?_, Nat.zero_le _, rfl, settled.2.1⟩
    rw [List.take_zero, List.append_nil, settled.1]
  · exact ⟨settled.2.2 older, (content_append _ _).trans (settled.1 ▸ List.append_nil _),
      durable_append.mpr ⟨settled.2.1, durable_singleton.mpr rfl⟩⟩

theorem Kept.prepare (kept : Kept l d) : Inv (.prepare d, l) := by
  refine ⟨kept.create, fun s live => ?_⟩
  cases live
  have writing : ∃ front file, d.create.files = front ++ [some file] ∧
      front.length = d.files.length ∧ 0 = file.bytes.length :=
    ⟨d.files, .create, rfl, rfl, rfl⟩
  obtain ⟨front, file, files, at_file, offset⟩ := writing
  cases read : d.txnRecord with
  | none =>
    refine ⟨kept.first_record read, ⟨front, file, files, at_file, fun _ => offset⟩, rfl, ?_⟩
    exact fun positive current => absurd current (Nat.ne_of_lt positive)
  | some record =>
    exact ⟨(kept.recorded record read).create, ⟨front, file, files, at_file, fun _ => offset⟩,
      rfl, fun _ _ => read⟩

theorem Inv.step {w w' : State × Ledger} {action : Action} (inv : Inv w)
    (unharmed : Unharmed w action) (taken : step w action = some w') : Inv w' := by
  obtain ⟨⟨d, session⟩, l⟩ := w
  cases action with
  | prepare =>
    obtain ⟨_, taken⟩ := Option.ite_none_right_eq_some.mp taken
    cases taken
    exact inv.kept.prepare
  | crash keep =>
    cases taken
    exact ⟨inv.kept.crash unharmed keep, nofun⟩
  | attempt a =>
    obtain ⟨s, live, taken⟩ := Option.bind_eq_some_iff.mp taken
    obtain ⟨_, allowed, taken⟩ := Option.bind_eq_some_iff.mp taken
    cases taken
    have order : l.Allows a.txId := by simpa [guard] using allowed
    obtain ⟨kept, alive⟩ :=
      attempt_keeps inv.kept (inv.alive s live) order unharmed.1 (unharmed.2 s live)
    exact ⟨kept, alive⟩

/-- What was settled is in the files all the time. -/
theorem Kept.settled_prefix (kept : Kept l d) : l.settled <+: content d.files := by
  cases last : l.last with
  | some batch =>
    rw [(kept.committed batch last).1]
    exact List.prefix_append _ _
  | none =>
    cases read : d.txnRecord with
    | none =>
      rcases kept.unrecorded read with rfl | ⟨_, settled, _⟩
      · exact List.nil_prefix
      · exact settled ▸ List.prefix_rfl
    | some record =>
      obtain ⟨known, current, older⟩ := kept.recorded record read
      rcases Nat.lt_or_eq_of_le known with lt | eq
      · exact (older lt).2.1 ▸ List.prefix_rfl
      · obtain ⟨before, file, after, files, _, cut, _⟩ := current eq
        rw [files, ← cut, content_append, content_cons, List.prefix_append_right_inj]
        exact (List.take_prefix _ _).trans (List.prefix_append _ _)

theorem committed_exactly_once (actions : List Action)
    (unharmed : AllSteps step Unharmed (.init, .init) actions) :
    AllStates step (fun w => w.2.settled <+: content w.1.disk.files ∧
      ∀ batch, w.2.last = some batch → content w.1.disk.files = w.2.settled ++ batch)
      (.init, .init) actions := by
  have run : AllStates step Inv (.init, .init) actions :=
    .of_allSteps (fun _ _ _ inv met taken => inv.step met taken) actions .init unharmed
  refine run.mono fun w inv => ⟨inv.kept.settled_prefix, fun batch last => ?_⟩
  exact (inv.kept.committed batch last).1

/-- The second transaction fails behind its first tuple and is repeated. -/
def secondAgain : List Action :=
  [.prepare, .attempt ⟨1, [[7], [8]], fun _ => 2, false, [], none, fun _ => 0⟩,
    .attempt ⟨2, [[9], [5]], fun _ => 2, false, [], some (.writing 1 0, .throws), fun _ => 0⟩,
    .attempt ⟨2, [[9], [6]], fun _ => 2, false, [], none, fun _ => 0⟩]

theorem second_repeated :
    AllSteps step Unharmed (.init, .init) secondAgain ∧
      AllStates step (fun w => w.2.settled <+: content w.1.disk.files ∧
        ∀ batch, w.2.last = some batch → content w.1.disk.files = w.2.settled ++ batch)
        (.init, .init) secondAgain := by
  have unharmed : AllSteps step Unharmed (.init, .init) secondAgain := by
    rintro _ ⟨⟩
    refine ⟨trivial, ?_⟩
    rintro _ ⟨⟩
    refine ⟨⟨nofun, ?_⟩, ?_⟩
    · rintro _ ⟨⟩ again
      exact absurd again (by decide)
    rintro _ ⟨⟩
    refine ⟨⟨nofun, ?_⟩, ?_⟩
    · rintro _ ⟨⟩ again
      exact absurd again (by decide)
    rintro _ ⟨⟩
    refine ⟨⟨nofun, ?_⟩, trivial⟩
    rintro _ ⟨⟩ _
    exact ⟨fun _ => trivial, nofun⟩
  exact ⟨unharmed, committed_exactly_once _ unharmed⟩

/-- The bytes of a file that a rotation action has moved are written again when the
transaction is repeated. -/
example :
    let moved := (State.attempt ⟨1, [[7]], fun _ => 2, true, [moveFileAction], none, fun _ => 0⟩
      ⟨[some .create], none, none⟩ ⟨0, 0, 0, ⟨0, 0, 0⟩⟩).1
    moved.disk.files = [none, some .create] ∧
      ∀ s, moved.session = some s → (State.attempt
        ⟨1, [[7]], fun _ => 2, false, [], none, fun _ => 0⟩ moved.disk s).1.disk.files.getLast? =
          some (some ⟨[7], 1, Nat.le_refl 1⟩) := by
  refine ⟨rfl, ?_⟩
  rintro _ ⟨⟩
  rfl

end GitvTime.Guarantees.Hdfs.ExactlyOnce
