import GitvTime.Source.Hdfs.HdfsState

/-!
# The files that a recovery finds

The data files together hold a text. A record of the index cuts it after the bytes that
it counts; a crash, a rotation and a recovery keep what is before the cut.
-/
namespace GitvTime.Guarantees.Hdfs.RecoveredFiles
open GitvTime.Source.Hdfs.HdfsState

def textOf : Option DataFile → List UInt8
  | none => []
  | some file => file.bytes

/-- What all data files hold, in the order of their creation. -/
def content (files : List (Option DataFile)) : List UInt8 := files.flatMap textOf

/-- A crash takes nothing. -/
def Durable (files : List (Option DataFile)) : Prop :=
  ∀ file, some file ∈ files → file.synced = file.bytes.length

/-- Cut after the bytes that the record counts, the files hold this. -/
def RecoversTo (files : List (Option DataFile)) (record : TxnRecord) (base : List UInt8) : Prop :=
  ∃ before file after, files = before ++ file :: after ∧ before.length = record.dataFile ∧
    content before ++ (textOf file).take record.offset = base ∧
      record.offset ≤ (textOf file).length ∧ content after = [] ∧ Durable before

/-- A crash takes nothing of what the record counts. -/
def Secured (files : List (Option DataFile)) (record : TxnRecord) : Prop :=
  ∀ file, files[record.dataFile]? = some (some file) → record.offset ≤ file.synced

@[simp] theorem content_append (files later : List (Option DataFile)) :
    content (files ++ later) = content files ++ content later := List.flatMap_append

@[simp] theorem content_cons (file : Option DataFile) (files : List (Option DataFile)) :
    content (file :: files) = textOf file ++ content files := List.flatMap_cons

@[simp] theorem content_nil : content [] = [] := rfl

theorem durable_append {files later : List (Option DataFile)} :
    Durable (files ++ later) ↔ Durable files ∧ Durable later := by
  unfold Durable
  constructor
  · intro all
    exact ⟨fun file member => all file (List.mem_append_left _ member),
      fun file member => all file (List.mem_append_right _ member)⟩
  · intro both file member
    exact (List.mem_append.mp member).elim (both.1 file) (both.2 file)

theorem durable_singleton {file : DataFile} :
    Durable [some file] ↔ file.synced = file.bytes.length := by
  simp [Durable]

/-- Files without a byte have nothing to lose. -/
theorem durable_of_empty {files : List (Option DataFile)} (empty : content files = []) :
    Durable files := by
  intro file member
  have nothing : file.bytes = [] :=
    List.flatMap_eq_nil_iff.mp empty (some file) member
  have inside := file.inside
  rw [nothing] at inside ⊢
  exact Nat.le_zero.mp inside

theorem modify_middle {α : Type} (before : List α) (x : α) (after : List α) (f : α → α) :
    (before ++ x :: after).modify before.length f = before ++ f x :: after := by
  induction before with
  | nil => rfl
  | cons y rest ih => exact congrArg (y :: ·) ih

theorem set_middle {α : Type} (before : List α) (x : α) (after : List α) (y : α) :
    (before ++ x :: after).set before.length y = before ++ y :: after := by
  rw [List.set_append_right _ _ (Nat.le_refl _), Nat.sub_self, List.set_cons_zero]

theorem crash_of_durable {file : DataFile} (durable : file.synced = file.bytes.length)
    (keep : Nat) : file.crash keep = file := by
  obtain ⟨bytes, synced, inside⟩ := file
  dsimp only at durable
  subst durable
  have whole : bytes.take (max bytes.length keep) = bytes :=
    List.take_of_length_le (Nat.le_max_left _ _)
  simp only [DataFile.crash, whole]

theorem mapIdx_crash {files : List (Option DataFile)} (durable : Durable files)
    (keep : Nat → Nat) :
    (files.mapIdx fun number file => file.map (.crash (keep number))) = files := by
  apply List.ext_getElem (by simp)
  intro number inside inside'
  rw [List.getElem_mapIdx]
  cases found : files[number] with
  | none => rfl
  | some file =>
    have member : some file ∈ files := found ▸ List.getElem_mem inside'
    exact congrArg some (crash_of_durable (durable file member) _)

theorem take_crash {file : DataFile} {offset : Nat} (secured : offset ≤ file.synced)
    (keep : Nat) :
    (file.crash keep).bytes.take offset = file.bytes.take offset ∧
      offset ≤ (file.crash keep).bytes.length := by
  have inside := file.inside
  simp only [DataFile.crash, List.take_take, List.length_take]
  constructor
  · rw [Nat.min_eq_left (by omega)]
  · omega

theorem content_crash_empty {files : List (Option DataFile)} (empty : content files = [])
    (keep : Nat → Nat) :
    content (files.mapIdx fun number file => file.map (.crash (keep number))) = [] := by
  rw [mapIdx_crash (durable_of_empty empty), empty]

theorem RecoversTo.crash {files : List (Option DataFile)} {record : TxnRecord}
    {base : List UInt8} (recovers : RecoversTo files record base)
    (secured : Secured files record) (keep : Nat → Nat) :
    RecoversTo (files.mapIdx fun number file => file.map (.crash (keep number))) record base := by
  obtain ⟨before, file, after, rfl, at_file, cut, inside, empty, durable⟩ := recovers
  have here : (before ++ file :: after)[record.dataFile]? = some file := by
    rw [← at_file]
    simp
  rw [List.mapIdx_append, List.mapIdx_cons, mapIdx_crash durable]
  refine ⟨before, _, _, rfl, at_file, ?_, ?_, content_crash_empty empty _, durable⟩
  · cases file with
    | none => exact cut
    | some file =>
      simp only [Option.map_some, textOf, (take_crash (secured file here) _).1]
      exact cut
  · cases file with
    | none => exact inside
    | some file => exact (take_crash (secured file here) _).2

/-! ### Closing, copying and the index -/

variable {d : Disk}

/-- The calls of `updateIndex` touch no data file, and what is read from the index is as
before, or nothing, or the new record. -/
theorem indexCalls_take (record : TxnRecord) (d : Disk) (calls : Nat) :
    (((Disk.indexCalls record).take calls).foldl (fun d call => call d) d).files = d.files ∧
      let read := (((Disk.indexCalls record).take calls).foldl (fun d call => call d) d).txnRecord
      (4 ≤ calls → read = some record) ∧
        (read = d.txnRecord ∨ read = none ∨ read = some record) := by
  obtain ⟨files, index, tmp⟩ := d
  match calls with
  | 0 => exact ⟨rfl, nofun, .inl rfl⟩
  | 1 =>
    refine ⟨rfl, nofun, ?_⟩
    cases index with
    | none => exact .inr (.inl rfl)
    | some old => exact .inl rfl
  | 2 =>
    refine ⟨rfl, nofun, ?_⟩
    cases index with
    | none => exact .inr (.inr rfl)
    | some old => exact .inl rfl
  | 3 => exact ⟨rfl, nofun, .inr (.inr rfl)⟩
  | calls + 4 =>
    have whole : (Disk.indexCalls record).take (calls + 4) = Disk.indexCalls record :=
      List.take_of_length_le (Nat.le_add_left 4 calls)
    rw [whole]
    exact ⟨rfl, fun _ => rfl, .inr (.inr rfl)⟩

theorem write_last {front : List (Option DataFile)} {file : DataFile} {current : Nat}
    (files : d.files = front ++ [some file]) (at_file : front.length = current)
    (written : List UInt8) :
    (d.write current written).files = front ++ [some (file.write written)] := by
  simp only [Disk.write]
  rw [files, ← at_file, modify_middle]
  rfl

theorem sync_last {front : List (Option DataFile)} {file : DataFile} {current : Nat}
    (files : d.files = front ++ [some file]) (at_file : front.length = current) :
    (d.sync current).files = front ++ [some file.sync] := by
  simp only [Disk.sync]
  rw [files, ← at_file, modify_middle]
  rfl

/-- However the reads cut the file, the first bytes of it are copied. -/
theorem copyBytes_eq_take (read : List UInt8 → Nat) (ahead : List UInt8) (bytesToCopy : Int) :
    copyBytes read ahead bytesToCopy = ahead.take bytesToCopy.toNat := by
  induction ahead, bytesToCopy using copyBytes.induct read with
  | case1 bytesToCopy => simp [copyBytes]
  | case2 bytesToCopy byte rest n positive ih =>
    have left : (bytesToCopy - n).toNat = bytesToCopy.toNat - n := by omega
    rw [copyBytes, if_pos positive, ih, left]
    by_cases enough : bytesToCopy.toNat ≤ n
    · rw [Nat.min_eq_right enough, Nat.sub_eq_zero_of_le enough, List.take_zero, List.append_nil]
    · rw [Nat.min_eq_left (by omega), ← List.take_add, Nat.add_sub_of_le (by omega)]
  | case3 bytesToCopy byte rest done =>
    have none_left : bytesToCopy.toNat = 0 := by omega
    rw [copyBytes, if_neg done, none_left, List.take_zero]

theorem textOf_sync (file : Option DataFile) : textOf (file.map .sync) = textOf file := by
  cases file with
  | none => rfl
  | some file => rfl

theorem content_sync (files : List (Option DataFile)) (number : Nat) :
    content (files.modify number (Option.map .sync)) = content files := by
  induction files generalizing number with
  | nil => rw [List.modify_nil]
  | cons file rest ih =>
    cases number with
    | zero => rw [List.modify_zero_cons, content_cons, content_cons, textOf_sync]
    | succ number => rw [List.modify_succ_cons, content_cons, content_cons, ih]

theorem durable_sync {files : List (Option DataFile)} (durable : Durable files) (number : Nat) :
    Durable (files.modify number (Option.map .sync)) := by
  intro file member
  obtain ⟨here, inside, found⟩ := List.getElem_of_mem member
  rw [List.getElem_modify] at found
  rw [List.length_modify] at inside
  have old_member : files[here] ∈ files := List.getElem_mem inside
  split at found
  · cases old : files[here] with
    | none =>
      rw [old] at found
      cases found
    | some old_file =>
      rw [old] at found
      cases found
      rfl
  · exact durable file (found ▸ old_member)

/-- Closing a file keeps the bytes of all, wherever it is. -/
theorem sync_split (before : List (Option DataFile)) (file : Option DataFile)
    (after : List (Option DataFile)) (number : Nat) :
    ∃ before' file' after', (before ++ file :: after).modify number (Option.map .sync) =
        before' ++ file' :: after' ∧ before'.length = before.length ∧
      content before' = content before ∧ (Durable before → Durable before') ∧
        textOf file' = textOf file ∧ content after' = content after := by
  induction before generalizing number with
  | nil =>
    cases number with
    | zero => exact ⟨[], file.map .sync, after, rfl, rfl, rfl, id, textOf_sync file, rfl⟩
    | succ number =>
      exact ⟨[], file, after.modify number _, rfl, rfl, rfl, id, rfl, content_sync after number⟩
  | cons first rest ih =>
    cases number with
    | zero =>
      refine ⟨first.map .sync :: rest, file, after, rfl, rfl, ?_, ?_, rfl, rfl⟩
      · rw [content_cons, content_cons, textOf_sync]
      · exact fun durable => durable_sync durable 0
    | succ number =>
      obtain ⟨before', file', after', split, length, same, durable, same_file, same_after⟩ :=
        ih number
      refine ⟨first :: before', file', after', ?_, ?_, ?_, ?_, same_file, same_after⟩
      · exact congrArg (first :: ·) split
      · rw [List.length_cons, List.length_cons, length]
      · rw [content_cons, content_cons, same]
      · intro all
        have parts := durable_append.mp (show Durable ([first] ++ rest) from all)
        exact durable_append.mpr (show _ ∧ _ from ⟨parts.1, durable parts.2⟩)

/-- The rotation of `recover`, with these bytes copied. -/
theorem rotated_write (d : Disk) (current : Nat) (copied : List UInt8) :
    (((d.sync current).create).write d.files.length copied).files =
      d.files.modify current (Option.map .sync) ++ [some (DataFile.create.write copied)] := by
  have length : (d.files.modify current (Option.map DataFile.sync)).length = d.files.length :=
    List.length_modify ..
  simp only [Disk.sync, Disk.create, Disk.write]
  rw [← length]
  exact modify_middle _ _ [] _

theorem RecoversTo.rotated {record : TxnRecord} {base : List UInt8}
    (recovers : RecoversTo d.files record base) (current : Nat) :
    RecoversTo (((d.sync current).create).write d.files.length []).files record base := by
  obtain ⟨before, file, after, files, at_file, cut, inside, empty, durable⟩ := recovers
  obtain ⟨before', file', after', split, length, same, kept_durable, same_file, same_after⟩ :=
    sync_split before file after current
  rw [rotated_write, files, split, List.append_assoc]
  refine ⟨before', file', after' ++ [_], rfl, length.trans at_file, ?_, ?_, ?_,
    kept_durable durable⟩
  · rw [same, same_file, cut]
  · rwa [same_file]
  · rw [content_append, same_after, empty]
    rfl

/-- A recovery copies as many bytes as the record counts, and then the new file stands for
the cut one. -/
theorem RecoversTo.recovered {record : TxnRecord} {base : List UInt8}
    (recovers : RecoversTo d.files record base) (current : Nat) (read : List UInt8 → Nat) :
    ∃ copied front, (if record.offset > 0 then
        (((d.sync current).create).bytesOf record.dataFile).map
          fun ahead => copyBytes read ahead record.offset
      else some []) = some copied ∧ copied.length = record.offset ∧
      ((((d.sync current).create).write d.files.length copied).delete record.dataFile).files =
          front ++ [some (.write copied .create)] ∧
        front.length = d.files.length ∧ Durable front ∧ content front ++ copied = base ∧
          (record.offset = 0 →
            RecoversTo (front ++ [some (.write copied .create)]) record base) := by
  obtain ⟨before, file, after, files, at_file, cut, inside, empty, durable⟩ := recovers
  obtain ⟨before', file', after', split, length, same, kept_durable, same_file, same_after⟩ :=
    sync_split before file after current
  have at_file' : before'.length = record.dataFile := length.trans at_file
  have front_content : content (before' ++ none :: after') = content before := by
    rw [content_append, content_cons, same, same_after, empty]
    simp [textOf]
  have copied_length : ((textOf file).take record.offset).length = record.offset := by
    rw [List.length_take, Nat.min_eq_left inside]
  refine ⟨(textOf file).take record.offset, before' ++ none :: after', ?_, copied_length, ?_, ?_,
    ?_, ?_, fun zero => ?_⟩
  · split
    case isTrue positive =>
      have there : ((d.sync current).create).files[record.dataFile]? = some file' := by
        simp only [Disk.sync, Disk.create]
        rw [files, split, ← at_file', List.append_assoc]
        simp
      cases file' with
      | none =>
        rw [← same_file] at inside
        exact absurd positive (Nat.not_lt_of_le inside)
      | some file' =>
        simp only [Disk.bytesOf, there, Option.getD_some, Option.map_some, copyBytes_eq_take]
        rw [← same_file]
        rfl
    case isFalse nothing =>
      rw [Nat.eq_zero_of_not_pos nothing, List.take_zero]
  · simp only [Disk.delete]
    rw [rotated_write, files, split, ← at_file', List.append_assoc, List.cons_append,
      set_middle, List.append_assoc]
    rfl
  · have total := congrArg List.length split
    rw [List.length_modify] at total
    rw [files, total, List.length_append, List.length_append, List.length_cons, List.length_cons]
  · refine durable_append.mpr ⟨kept_durable durable, durable_of_empty ?_⟩
    rw [content_cons, same_after, empty]
    rfl
  · rw [front_content, cut]
  · rw [zero, List.take_zero, List.append_nil] at cut
    rw [zero, List.take_zero, List.append_assoc]
    refine ⟨before', none, after' ++ [_], rfl, at_file', ?_, ?_, ?_, kept_durable durable⟩
    · rw [zero, List.take_zero, List.append_nil, same, cut]
    · exact Nat.le_of_eq zero
    · rw [content_append, same_after, empty]
      rfl

end GitvTime.Guarantees.Hdfs.RecoveredFiles
