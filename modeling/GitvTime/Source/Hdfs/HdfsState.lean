import Mathlib.Data.List.Basic

/-!
# The Trident state on HDFS

`trident/HdfsState.java` of storm-hdfs-plus with `HdfsFileOptions`. Data files are
numbered as they are created, which stands for their names (the rotation and the clock);
the index file holds its record, not the text of it. Trident makes attempts at a
transaction, each of them `beginCommit`, `updateState` and `commit`. An attempt may stop
at any call to HDFS, by an exception or because the worker dies, and a crash may take from
a file what was not synced.
-/
namespace GitvTime.Source.Hdfs.HdfsState

/-- A data file, of which the first `synced` bytes survive a crash. -/
structure DataFile where
  bytes : List UInt8
  synced : Nat
  inside : synced ≤ bytes.length

namespace DataFile

def create : DataFile := ⟨[], 0, Nat.le_refl 0⟩

def write (written : List UInt8) (file : DataFile) : DataFile where
  bytes := file.bytes ++ written
  synced := file.synced
  inside := by
    rw [List.length_append]
    exact Nat.le_add_right_of_le file.inside

/-- `hsync` and `close`. -/
def sync (file : DataFile) : DataFile := ⟨file.bytes, file.bytes.length, Nat.le_refl _⟩

/-- What a crash leaves: the synced bytes, and `keep` bytes if that is more. -/
def crash (keep : Nat) (file : DataFile) : DataFile where
  bytes := file.bytes.take (max file.synced keep)
  synced := (file.bytes.take (max file.synced keep)).length
  inside := Nat.le_refl _

end DataFile

/-- `[txnid, data_file_path, data_file_offset]`. -/
structure TxnRecord where
  txnid : Nat
  dataFile : Nat
  offset : Nat
deriving DecidableEq

/-- The data files, `none` once deleted, the index file and its `.tmp`, which is empty
between its creation and its closing. -/
structure Disk where
  files : List (Option DataFile)
  index : Option TxnRecord
  tmp : Option (Option TxnRecord)

namespace Disk

def create (d : Disk) : Disk := { d with files := d.files ++ [some .create] }

def write (file : Nat) (written : List UInt8) (d : Disk) : Disk :=
  { d with files := d.files.modify file (Option.map (.write written)) }

def sync (file : Nat) (d : Disk) : Disk :=
  { d with files := d.files.modify file (Option.map .sync) }

def delete (file : Nat) (d : Disk) : Disk := { d with files := d.files.set file none }

/-- The bytes of a file, `none` where `open` throws. -/
def bytesOf (file : Nat) (d : Disk) : Option (List UInt8) :=
  (d.files[file]?.getD none).map DataFile.bytes

def crash (keep : Nat → Nat) (d : Disk) : Disk :=
  { d with files := d.files.mapIdx fun number file => file.map (.crash (keep number)) }

/-- The record that `getTxnRecord` reads, `none` where it makes up the first one. -/
def txnRecord (d : Disk) : Option TxnRecord :=
  match d.index with
  | some found => some found
  | none => d.tmp.getD none

/-- The calls of `updateIndex`. -/
def indexCalls (txnRecord : TxnRecord) : List (Disk → Disk) :=
  [fun d => { d with tmp := some none }, fun d => { d with tmp := some (some txnRecord) },
    fun d => { d with index := none }, fun d => { d with index := d.tmp.getD none, tmp := none }]

end Disk

/-- `RotationAction`: what `execute` does with the file to the directory of the data
files. -/
abbrev RotationAction := Nat → Disk → Disk

/-- `MoveFileAction` takes the file out of the directory. -/
def moveFileAction : RotationAction := Disk.delete

/-- `HdfsFileOptions` and `lastSeenTxn` of a running worker; `out` is the file that is
open, which is not `currentFile` when a rotation action has thrown. -/
structure Session where
  currentFile : Nat
  out : Nat
  offset : Nat
  lastSeenTxn : TxnRecord
deriving DecidableEq

/-- `copyBytes`; with these bytes ahead a `read` returns `read` of them. -/
def copyBytes (read : List UInt8 → Nat) (ahead : List UInt8) (bytesToCopy : Int) : List UInt8 :=
  match ahead with
  | [] => []
  | byte :: rest =>
    let n := max 1 (min (read (byte :: rest)) (byte :: rest).length)
    if bytesToCopy > 0 then
      (byte :: rest).take (min n bytesToCopy.toNat) ++
        copyBytes read ((byte :: rest).drop n) (bytesToCopy - n)
    else []
termination_by ahead.length
decreasing_by simp only [List.length_drop, List.length_cons]; omega

/-- Where an attempt stops, in the order of the calls to HDFS: in the close or the create
of `recover`, in its copy, in its delete, after some calls of `updateIndex`, after some
tuples and some bytes of the next one, and after some calls of `doCommit`. -/
inductive Point where
  | closing
  | copying (copied : Nat)
  | deleting
  | indexing (calls : Nat)
  | writing (tuples bytes : Nat)
  | committing (calls : Nat)
deriving DecidableEq

inductive Ending where
  | throws
  | dies
deriving DecidableEq

/-- An attempt at a transaction. `batch` are the tuples as formatted, `marks` is the
answer of the rotation policy, `rotationActions` are those of the options, where one that
throws behind its effect is two, and `keep` is for a crash. -/
structure Attempt where
  txId : Nat
  batch : List (List UInt8)
  read : List UInt8 → Nat
  marks : Bool
  rotationActions : List RotationAction
  stop : Option (Point × Ending)
  keep : Nat → Nat

/-- How far a phase of an attempt came: `error` is where the attempt stopped. -/
abbrev Phase := Except (Disk × Session × Ending) (Disk × Session)

namespace Attempt

variable (a : Attempt)

/-- `recover`; every exception in it ends the worker. -/
def recover (d : Disk) (s : Session) : Phase :=
  if a.stop.map Prod.fst = some .closing then .error (d, s, .dies)
  else
    let srcFile := s.lastSeenTxn.dataFile
    let nBytes := s.lastSeenTxn.offset
    let newFile := d.files.length
    let rotated := (d.sync s.out).create
    let copied :=
      if nBytes > 0 then (rotated.bytesOf srcFile).map fun ahead => copyBytes a.read ahead nBytes
      else some []
    match copied with
    | none => .error (rotated, s, .dies)
    | some bytes =>
      match a.stop.map Prod.fst with
      | some (.copying count) => .error (rotated.write newFile (bytes.take count), s, .dies)
      | some .deleting => .error (rotated.write newFile bytes, s, .dies)
      | _ =>
        .ok ((rotated.write newFile bytes).delete srcFile,
          { s with
            currentFile := newFile
            out := newFile
            offset := if nBytes > 0 then nBytes else s.offset })

/-- `updateIndex`; `lastSeenTxn` is set behind the rename. -/
def updateIndex (d : Disk) (s : Session) : Phase :=
  let txnRecord : TxnRecord := ⟨a.txId, s.currentFile, s.offset⟩
  let after calls := ((Disk.indexCalls txnRecord).take calls).foldl (fun d call => call d) d
  match a.stop with
  | some (.indexing calls, ending) =>
    .error (after calls,
      { s with lastSeenTxn := if calls < 4 then s.lastSeenTxn else txnRecord }, ending)
  | _ => .ok (after 4, { s with lastSeenTxn := txnRecord })

/-- `beginCommit`. -/
def beginCommit (d : Disk) (s : Session) : Phase := do
  let (d, s) ← if a.txId ≤ s.lastSeenTxn.txnid then a.recover d s else .ok (d, s)
  a.updateIndex d s

/-- `updateState`; the offset counts the tuples whose `write` returned. -/
def updateState (d : Disk) (s : Session) : Phase :=
  match a.stop with
  | some (.writing tuples bytes, ending) =>
    let whole := (a.batch.take tuples).flatten
    .error (d.write s.out (whole ++ (a.batch[tuples]?.getD []).take bytes),
      { s with offset := s.offset + whole.length }, ending)
  | _ =>
    .ok (d.write s.out a.batch.flatten,
      { s with offset := s.offset + a.batch.flatten.length })

/-- `doCommit` as far as these calls: the close, the create and the actions of a
rotation, which sets `currentFile` behind the last of them, or the sync. -/
def commitCalls (calls : Nat) (d : Disk) (s : Session) : Disk × Session :=
  match calls with
  | 0 => (d, s)
  | 1 => (d.sync s.out, s)
  | executed + 2 =>
    if a.marks then
      ((a.rotationActions.take executed).foldl (fun d action => action s.currentFile d)
          (d.sync s.out).create,
        if executed < a.rotationActions.length then { s with out := d.files.length }
        else { s with currentFile := d.files.length, out := d.files.length, offset := 0 })
    else (d.sync s.out, s)

/-- `commit`. -/
def commit (d : Disk) (s : Session) : Phase :=
  match a.stop with
  | some (.committing calls, ending) =>
    .error ((a.commitCalls calls d s).1, (a.commitCalls calls d s).2, ending)
  | _ => .ok (a.commitCalls (a.rotationActions.length + 2) d s)

def phases (d : Disk) (s : Session) : Phase := do
  let (d, s) ← a.beginCommit d s
  let (d, s) ← a.updateState d s
  a.commit d s

end Attempt

/-- HDFS and the worker, if it runs. -/
structure State where
  disk : Disk
  session : Option Session

namespace State

def init : State := ⟨⟨[], none, none⟩, none⟩

/-- `prepare`, which reads the index behind the creation of its file. -/
def prepare (d : Disk) : State where
  disk := d.create
  session := some ⟨d.files.length, d.files.length, 0, d.txnRecord.getD ⟨0, d.files.length, 0⟩⟩

/-- An attempt, and whether it committed. -/
def attempt (a : Attempt) (d : Disk) (s : Session) : State × Bool :=
  match a.phases d s with
  | .ok (d, s) => (⟨d, some s⟩, true)
  | .error (d, s, .throws) => (⟨d, some s⟩, false)
  | .error (d, _, .dies) => (⟨d.crash a.keep, none⟩, false)

end State

end GitvTime.Source.Hdfs.HdfsState
