import GitvTime.Guarantees.Hdfs.ExactlyOnce

/-!
# What a recovery can lose

What the conditions of `Spared` are for. A recovery of no bytes leaves the offset of the
attempt before, one that is cut off in its copy leaves the bytes it copied, and one that
is cut off behind its delete leaves an index that names no file.
-/
namespace GitvTime.Guarantees.Hdfs.TornRecovery
open GitvTime.Support GitvTime.Source.Hdfs.HdfsState RecoveredFiles ExactlyOnce

variable {a : Attempt} {d : Disk} {s : Session}

/-- What a recovery copies from the file that it finds. -/
theorem copied_of_file {file : DataFile} (read : List UInt8 → Nat)
    (there : d.files[s.lastSeenTxn.dataFile]? = some (some file)) :
    (if s.lastSeenTxn.offset > 0 then
        (((d.sync s.out).create).bytesOf s.lastSeenTxn.dataFile).map
          fun ahead => copyBytes read ahead s.lastSeenTxn.offset
      else some []) = some (file.bytes.take s.lastSeenTxn.offset) := by
  split
  case isFalse nothing => rw [Nat.eq_zero_of_not_pos nothing, List.take_zero]
  case isTrue =>
    have inside : s.lastSeenTxn.dataFile < d.files.length :=
      (List.getElem?_eq_some_iff.mp there).1
    have synced : (d.sync s.out).files[s.lastSeenTxn.dataFile]? =
        some (some (if s.out = s.lastSeenTxn.dataFile then file.sync else file)) := by
      simp only [Disk.sync]
      rw [List.getElem?_modify, there]
      split <;> rfl
    have found : ((d.sync s.out).create).bytesOf s.lastSeenTxn.dataFile =
        some file.bytes := by
      simp only [Disk.bytesOf, Disk.create]
      rw [List.getElem?_append_left (by simpa [Disk.sync] using inside), synced]
      split <;> rfl
    rw [found, Option.map_some, copyBytes_eq_take]
    rfl

/-- The recovery of the file that the session itself writes to. -/
theorem recover_last {front : List (Option DataFile)} {file : DataFile} (steady : Steady a)
    (files : d.files = front ++ [some file]) (out : s.out = front.length)
    (src : s.lastSeenTxn.dataFile = front.length) :
    a.recover d s = .ok
      ({ d with
          files := front ++
            [none, some (DataFile.create.write (file.bytes.take s.lastSeenTxn.offset))] },
        { s with
          currentFile := front.length + 1
          out := front.length + 1
          offset := if s.lastSeenTxn.offset > 0 then s.lastSeenTxn.offset else s.offset }) := by
  have there : d.files[s.lastSeenTxn.dataFile]? = some (some file) := by
    rw [files, src, List.getElem?_concat_length]
  have recovered := (recover_cases (copied_of_file a.read there)).resolve_left
    fun cut => cut.1.shaken steady
  have length : d.files.length = front.length + 1 := by
    rw [files, List.length_append, List.length_singleton]
  have emptied : ((((d.sync s.out).create).write d.files.length
        (file.bytes.take s.lastSeenTxn.offset)).delete s.lastSeenTxn.dataFile).files =
      front ++ [none, some (DataFile.create.write (file.bytes.take s.lastSeenTxn.offset))] := by
    simp only [Disk.delete]
    rw [rotated_write, files, out, modify_middle, List.append_assoc, src]
    exact set_middle _ _ _ _
  rw [recovered, ← emptied, length]
  rfl

/-- Neither index nor tuples stop this attempt. -/
def Writes (a : Attempt) : Prop := a.stop = none ∨ a.stop = some (.committing 0, .throws)

theorem Writes.steady (writes : Writes a) : Steady a := by
  rcases writes with stop | stop <;> simp [Steady, stop]

/-- The disk when the batch is in this file, the last one, opened at `offset`. -/
def written (a : Attempt) (front : List (Option DataFile)) (file : DataFile) (offset : Nat) :
    Disk where
  files := front ++ [some (file.write a.batch.flatten)]
  index := some ⟨a.txId, front.length, offset⟩
  tmp := none

def counted (a : Attempt) (front : List (Option DataFile)) (offset : Nat) : Session where
  currentFile := front.length
  out := front.length
  offset := offset + a.batch.flatten.length
  lastSeenTxn := ⟨a.txId, front.length, offset⟩

/-- How an attempt ends that has the batch in the file. -/
def ending (a : Attempt) (d : Disk) (s : Session) : State × Bool :=
  if a.stop = none then
    (⟨(a.commitCalls (a.rotationActions.length + 2) d s).1,
      some (a.commitCalls (a.rotationActions.length + 2) d s).2⟩, true)
  else (⟨d, some s⟩, false)

theorem ending_of_fails (fails : a.stop = some (.committing 0, .throws)) :
    ending a d s = (⟨d, some s⟩, false) := if_neg (by simp [fails])

/-- The index names the file that the recovery left, then the batch goes into it. -/
theorem attempt_of_recovered {front : List (Option DataFile)} {file : DataFile}
    {recovered : Disk} {opened : Session} (writes : Writes a)
    (begins : (if a.txId ≤ s.lastSeenTxn.txnid then a.recover d s else .ok (d, s)) =
      .ok (recovered, opened))
    (files : recovered.files = front ++ [some file]) (current : opened.currentFile = front.length)
    (out : opened.out = front.length) :
    State.attempt a d s =
      ending a (written a front file opened.offset) (counted a front opened.offset) := by
  have indexed : a.updateIndex recovered opened =
      .ok (⟨recovered.files, some ⟨a.txId, opened.currentFile, opened.offset⟩, none⟩,
        { opened with lastSeenTxn := ⟨a.txId, opened.currentFile, opened.offset⟩ }) := by
    unfold Attempt.updateIndex
    rcases writes with stop | stop <;> simp only [stop] <;> rfl
  have began : a.beginCommit d s =
      .ok (⟨recovered.files, some ⟨a.txId, opened.currentFile, opened.offset⟩, none⟩,
        { opened with lastSeenTxn := ⟨a.txId, opened.currentFile, opened.offset⟩ }) := by
    rw [← indexed]
    unfold Attempt.beginCommit
    split
    case isTrue seen =>
      rw [if_pos seen] at begins
      rw [begins]
      rfl
    case isFalse unseen =>
      rw [if_neg unseen] at begins
      cases begins
      rfl
  have updated : ∀ d s, a.updateState d s = .ok (d.write s.out a.batch.flatten,
      { s with offset := s.offset + a.batch.flatten.length }) := by
    intro d s
    unfold Attempt.updateState
    rcases writes with stop | stop <;> simp only [stop]
  have filled : (recovered.files.modify front.length
      (Option.map (.write a.batch.flatten))) = front ++ [some (file.write a.batch.flatten)] := by
    rw [files, modify_middle]
    rfl
  have phases : a.phases d s = a.commit (written a front file opened.offset)
      (counted a front opened.offset) := by
    have last : a.commit (Disk.write opened.out a.batch.flatten
          ⟨recovered.files, some ⟨a.txId, opened.currentFile, opened.offset⟩, none⟩)
        ⟨opened.currentFile, opened.out, opened.offset + a.batch.flatten.length,
          ⟨a.txId, opened.currentFile, opened.offset⟩⟩ = a.commit (written a front file opened.offset)
        (counted a front opened.offset) := by
      simp only [Disk.write, current, out, filled, written, counted]
    rw [Attempt.phases, began, ← last]
    exact congrArg (· >>= fun reached => a.commit reached.1 reached.2) (updated _ _)
  unfold State.attempt
  rw [phases]
  unfold Attempt.commit ending
  rcases writes with stop | stop <;> simp only [stop]
  · rfl
  · rfl

/-- A commit changes no byte. -/
theorem content_commit (free : ActionFree a) (calls : Nat) (d : Disk) (s : Session) :
    content (a.commitCalls calls d s).1.files = content d.files := by
  have synced : content (d.sync s.out).files = content d.files := content_sync _ _
  match calls with
  | 0 => rfl
  | 1 => exact synced
  | calls + 2 =>
    simp only [Attempt.commitCalls]
    split
    case isTrue marked =>
      rw [free marked, List.take_nil]
      exact ((content_append _ _).trans (List.append_nil _)).trans synced
    case isFalse => exact synced

/-- The attempt after a failed one, in the same worker. -/
theorem attempt_again {front : List (Option DataFile)} {file : DataFile} {offset : Nat}
    (writes : Writes a) (seen : a.txId = s.lastSeenTxn.txnid)
    (files : d.files = front ++ [some file]) (out : s.out = front.length)
    (src : s.lastSeenTxn.dataFile = front.length)
    (counts : (if s.lastSeenTxn.offset > 0 then s.lastSeenTxn.offset else s.offset) = offset) :
    State.attempt a d s = ending a
      (written a (front ++ [none]) (.write (file.bytes.take s.lastSeenTxn.offset) .create) offset)
      (counted a (front ++ [none]) offset) := by
  have begins : (if a.txId ≤ s.lastSeenTxn.txnid then a.recover d s else .ok (d, s)) = _ :=
    (if_pos (Nat.le_of_eq seen)).trans (recover_last writes.steady files out src)
  have length : front.length + 1 = (front ++ [none]).length := by
    rw [List.length_append, List.length_singleton]
  rw [← counts]
  exact attempt_of_recovered writes begins (List.append_cons front none _) length length

/-- The first transaction of a file fails twice in one worker. Its second attempt counts
the bytes of the first, so that the third one keeps as many bytes of the second. -/
theorem twice_failed_keeps (front : List (Option DataFile)) (first second third : Attempt)
    (fails_first : first.stop = some (.committing 0, .throws))
    (fails_second : second.stop = some (.committing 0, .throws)) (passes : third.stop = none)
    (again : second.txId = first.txId) (again' : third.txId = first.txId)
    (free : ActionFree third) (files : d.files = front ++ [some .create])
    (current : s.currentFile = front.length) (out : s.out = front.length)
    (fresh : s.offset = 0) (unseen : s.lastSeenTxn.txnid < first.txId) :
    ∃ d₁ s₁ d₂ s₂ d₃ s₃, State.attempt first d s = (⟨d₁, some s₁⟩, false) ∧
      State.attempt second d₁ s₁ = (⟨d₂, some s₂⟩, false) ∧
      State.attempt third d₂ s₂ = (⟨d₃, some s₃⟩, true) ∧
      content d₃.files = content front ++
        (second.batch.flatten.take first.batch.flatten.length ++ third.batch.flatten) := by
  have one := attempt_of_recovered (.inr fails_first) (if_neg (Nat.not_le_of_lt unseen))
    files current out
  have stale : (if (counted first front s.offset).lastSeenTxn.offset > 0 then
      (counted first front s.offset).lastSeenTxn.offset else
      (counted first front s.offset).offset) = first.batch.flatten.length := by
    simp [counted, fresh]
  obtain ⟨file, empty, two⟩ : ∃ file : DataFile, file.bytes = [] ∧
      State.attempt second (written first front .create s.offset) (counted first front s.offset) =
        ending second (written second (front ++ [none]) file first.batch.flatten.length)
          (counted second (front ++ [none]) first.batch.flatten.length) := by
    refine ⟨_, ?_, attempt_again (.inr fails_second) again rfl rfl rfl stale⟩
    simp [counted, fresh, DataFile.write, DataFile.create]
  have seen : third.txId = (counted second (front ++ [none])
      first.batch.flatten.length).lastSeenTxn.txnid := again'.trans again.symm
  have three := attempt_again
    (d := written second (front ++ [none]) file first.batch.flatten.length)
    (.inl passes) seen rfl rfl rfl rfl
  rw [ending_of_fails fails_first] at one
  rw [ending_of_fails fails_second] at two
  rw [ending, if_pos passes] at three
  refine ⟨_, _, _, _, _, _, one, two, three, ?_⟩
  rw [content_commit free]
  simp [written, counted, textOf, DataFile.write, DataFile.create, empty]

/-- The batches are 7 8, then 1 2 3, then 9: the file holds 1 2 9. -/
theorem twice_failed_keeps_two : ∃ d₁ s₁ d₂ s₂ d₃ s₃,
    State.attempt ⟨1, [[7, 8]], fun _ => 4, false, [], some (.committing 0, .throws), fun _ => 0⟩
        ⟨[some .create], none, none⟩ ⟨0, 0, 0, ⟨0, 0, 0⟩⟩ = (⟨d₁, some s₁⟩, false) ∧
      State.attempt ⟨1, [[1, 2, 3]], fun _ => 4, false, [], some (.committing 0, .throws), fun _ => 0⟩
        d₁ s₁ = (⟨d₂, some s₂⟩, false) ∧
      State.attempt ⟨1, [[9]], fun _ => 4, false, [], none, fun _ => 0⟩ d₂ s₂ =
        (⟨d₃, some s₃⟩, true) ∧ content d₃.files = [1, 2, 9] :=
  twice_failed_keeps []
    ⟨1, [[7, 8]], fun _ => 4, false, [], some (.committing 0, .throws), fun _ => 0⟩
    ⟨1, [[1, 2, 3]], fun _ => 4, false, [], some (.committing 0, .throws), fun _ => 0⟩
    ⟨1, [[9]], fun _ => 4, false, [], none, fun _ => 0⟩ rfl rfl rfl rfl rfl nofun rfl rfl rfl rfl
    (by decide)

/-! ### A copy that is cut off -/

/-- The recovery of an earlier file, by a worker that wrote nothing yet. -/
theorem recover_earlier {front between : List (Option DataFile)} {file last : DataFile}
    (steady : Steady a) (files : d.files = front ++ some file :: between ++ [some last])
    (out : s.out = (front ++ some file :: between).length)
    (src : s.lastSeenTxn.dataFile = front.length) :
    ∃ recovered opened, a.recover d s = .ok (recovered, opened) ∧
      recovered.files = front ++ none :: between ++ [some last.sync] ++
        [some (DataFile.create.write (file.bytes.take s.lastSeenTxn.offset))] ∧
      opened.currentFile = (front ++ none :: between ++ [some last.sync]).length ∧
      opened.out = (front ++ none :: between ++ [some last.sync]).length := by
  have there : d.files[s.lastSeenTxn.dataFile]? = some (some file) := by
    rw [files, src, List.append_assoc]
    simp
  have recovered := (recover_cases (copied_of_file a.read there)).resolve_left
    fun cut => cut.1.shaken steady
  refine ⟨_, _, recovered, ?_, ?_, ?_⟩
  · simp only [Disk.delete]
    rw [rotated_write, files, out, modify_middle, src]
    have one : ∀ x : Option DataFile, front ++ some file :: between ++ [x] =
        front ++ some file :: (between ++ [x]) := fun x => by simp
    rw [one, List.append_assoc]
    exact (set_middle _ _ _ _).trans (by simp)
  · simp [files]
  · simp [files]

theorem recover_copying {file : DataFile} {count : Nat} {how : Ending}
    (stop : a.stop = some (.copying count, how))
    (there : d.files[s.lastSeenTxn.dataFile]? = some (some file)) :
    a.recover d s = .error (((d.sync s.out).create).write d.files.length
      ((file.bytes.take s.lastSeenTxn.offset).take count), s, .dies) := by
  unfold Attempt.recover
  dsimp only
  rw [if_neg (by simp [stop]), copied_of_file a.read there]
  simp only [stop]
  rfl

/-- The worker dies in the copy: the file that it copied from is whole, and of the copy
there is what HDFS has. -/
theorem attempt_copying {front : List (Option DataFile)} {file : DataFile} {count : Nat}
    {how : Ending} (stop : a.stop = some (.copying count, how)) (durable : Durable front)
    (seen : a.txId = s.lastSeenTxn.txnid) (files : d.files = front ++ [some file])
    (out : s.out = front.length) (src : s.lastSeenTxn.dataFile = front.length) :
    ∃ left copy, State.attempt a d s = (⟨left, none⟩, false) ∧
      left.files = front ++ some file.sync :: [some copy] ∧ left.txnRecord = d.txnRecord ∧
      copy.bytes = (file.bytes.take s.lastSeenTxn.offset).take
        (min count (a.keep (front.length + 1))) := by
  have there : d.files[s.lastSeenTxn.dataFile]? = some (some file) := by
    rw [files, src, List.getElem?_concat_length]
  have stopped : a.beginCommit d s = _ :=
    (if_pos (Nat.le_of_eq seen)).trans
      (congrArg (· >>= fun reached => a.updateIndex reached.1 reached.2)
        (recover_copying stop there))
  have begun : State.attempt a d s = (⟨Disk.crash a.keep (((d.sync s.out).create).write
      d.files.length ((file.bytes.take s.lastSeenTxn.offset).take count)), none⟩, false) := by
    unfold State.attempt Attempt.phases
    rw [stopped]
    rfl
  let copy := (DataFile.create.write ((file.bytes.take s.lastSeenTxn.offset).take count)).crash
    (a.keep (front.length + 1))
  refine ⟨_, copy, begun, ?_, rfl, ?_⟩
  · simp only [Disk.crash]
    rw [rotated_write, files, out, modify_middle, List.append_assoc, List.mapIdx_append,
      mapIdx_crash durable]
    have whole : file.sync.crash (a.keep front.length) = file.sync := crash_of_durable rfl _
    simp [copy, whole, Nat.add_comm]
  · simp only [copy, DataFile.crash, DataFile.write, DataFile.create, List.nil_append,
      Nat.zero_max]
    rw [List.take_take, Nat.min_comm]

theorem torn_copy_duplicates (front : List (Option DataFile)) (file : DataFile)
    (torn second : Attempt) (copied : Nat) (how : Ending) (durable : Durable front)
    (dies : torn.stop = some (.copying copied, how)) (passes : second.stop = none)
    (free : ActionFree second) (files : d.files = front ++ [some file])
    (out : s.out = front.length) (src : s.lastSeenTxn.dataFile = front.length)
    (read : d.txnRecord = some s.lastSeenTxn) (again : torn.txId = s.lastSeenTxn.txnid)
    (again' : second.txId = s.lastSeenTxn.txnid) :
    ∃ d₁ d₂ s₂ d₃ s₃, State.attempt torn d s = (⟨d₁, none⟩, false) ∧
      State.prepare d₁ = ⟨d₂, some s₂⟩ ∧
      State.attempt second d₂ s₂ = (⟨d₃, some s₃⟩, true) ∧
      content d₃.files = content front ++ ((file.bytes.take s.lastSeenTxn.offset).take
        (min copied (torn.keep (front.length + 1))) ++
          (file.bytes.take s.lastSeenTxn.offset ++ second.batch.flatten)) := by
  have one := attempt_copying dies durable again files out src
  obtain ⟨left, copy, one, left_files, left_read, copy_bytes⟩ := one
  have prepared : State.prepare left =
      ⟨left.create, some ⟨left.files.length, left.files.length, 0, s.lastSeenTxn⟩⟩ := by
    rw [State.prepare, left_read, read]
    rfl
  have restarted : left.create.files =
      front ++ some file.sync :: [some copy] ++ [some .create] := by
    rw [Disk.create, left_files]
  obtain ⟨recovered, opened, begins, recovered_files, at_file, at_out⟩ :=
    recover_earlier (a := second) (d := left.create)
      (s := ⟨left.files.length, left.files.length, 0, s.lastSeenTxn⟩)
      (Writes.steady (.inl passes)) restarted (congrArg List.length left_files) src
  have two := attempt_of_recovered (a := second) (d := left.create)
    (s := ⟨left.files.length, left.files.length, 0, s.lastSeenTxn⟩) (.inl passes)
    ((if_pos (Nat.le_of_eq again')).trans begins) recovered_files at_file at_out
  rw [ending, if_pos passes] at two
  refine ⟨left, _, _, _, _, one, prepared, two, ?_⟩
  rw [content_commit free]
  simp [written, textOf, DataFile.write, DataFile.create, DataFile.sync, copy_bytes]

/-- Three bytes are recovered and two of the copy are left when the worker dies. -/
theorem torn_copy_duplicates_two : ∃ d₁ d₂ s₂ d₃ s₃,
    State.attempt ⟨2, [[9]], fun _ => 4, false, [], some (.copying 2, .dies), fun _ => 5⟩
        ⟨[some ⟨[1, 2, 3, 4], 3, by decide⟩], some ⟨2, 0, 3⟩, none⟩ ⟨0, 0, 4, ⟨2, 0, 3⟩⟩ =
        (⟨d₁, none⟩, false) ∧
      State.prepare d₁ = ⟨d₂, some s₂⟩ ∧
      State.attempt ⟨2, [[9]], fun _ => 4, false, [], none, fun _ => 0⟩ d₂ s₂ =
        (⟨d₃, some s₃⟩, true) ∧
      content d₃.files = [1, 2, 1, 2, 3, 9] :=
  torn_copy_duplicates [] ⟨[1, 2, 3, 4], 3, by decide⟩
    ⟨2, [[9]], fun _ => 4, false, [], some (.copying 2, .dies), fun _ => 5⟩
    ⟨2, [[9]], fun _ => 4, false, [], none, fun _ => 0⟩ 2 .dies nofun rfl rfl nofun rfl rfl rfl
    rfl rfl rfl

/-! ### A deleted file that the index still names -/

/-- The recovery of this transaction opens a file that is gone. -/
structure Stuck (record : TxnRecord) (w : State × Ledger) : Prop where
  read : w.1.disk.txnRecord = some record
  gone : w.1.disk.files[record.dataFile]? = some none
  tx : record.txnid = w.2.txId
  pending : w.2.last = none
  seen : ∀ s, w.1.session = some s → s.lastSeenTxn = record

theorem recover_gone (counts : 0 < s.lastSeenTxn.offset)
    (gone : d.files[s.lastSeenTxn.dataFile]? = some none) :
    ∃ left, a.recover d s = .error (left, s, .dies) ∧ left.txnRecord = d.txnRecord ∧
      left.files[s.lastSeenTxn.dataFile]? = some none := by
  unfold Attempt.recover
  split
  · exact ⟨d, rfl, rfl, gone⟩
  · have inside : s.lastSeenTxn.dataFile < (d.sync s.out).files.length := by
      simp only [Disk.sync, List.length_modify]
      exact (List.getElem?_eq_some_iff.mp gone).1
    have still : ((d.sync s.out).create).files[s.lastSeenTxn.dataFile]? = some none := by
      rw [Disk.create, List.getElem?_append_left inside]
      simp only [Disk.sync]
      rw [List.getElem?_modify, gone]
      split <;> rfl
    have nothing : ((d.sync s.out).create).bytesOf s.lastSeenTxn.dataFile = none := by
      simp only [Disk.bytesOf, still]
      rfl
    dsimp only
    rw [if_pos counts, nothing]
    exact ⟨_, rfl, rfl, still⟩

theorem Stuck.step {record : TxnRecord} (counts : 0 < record.offset)
    {w w' : State × Ledger} {action : Action} (stuck : Stuck record w)
    (taken : step w action = some w') : Stuck record w' := by
  obtain ⟨⟨d, session⟩, l⟩ := w
  obtain ⟨read, gone, tx, pending, seen⟩ := stuck
  dsimp only at read gone tx pending seen
  have crashed : ∀ (d : Disk) (keep : Nat → Nat), d.files[record.dataFile]? = some none →
      (d.crash keep).files[record.dataFile]? = some none := by
    intro d keep gone
    simp only [Disk.crash, List.getElem?_mapIdx, gone, Option.map_some, Option.map_none]
  cases action with
  | prepare =>
    obtain ⟨_, taken⟩ := Option.ite_none_right_eq_some.mp taken
    cases taken
    refine ⟨read, ?_, tx, pending, fun s live => ?_⟩
    · simp only [State.prepare, Disk.create]
      rw [List.getElem?_append_left (List.getElem?_eq_some_iff.mp gone).1, gone]
    · cases live
      rw [read, Option.getD_some]
  | crash keep =>
    cases taken
    refine ⟨read, crashed d keep gone, tx, pending, fun s live => ?_⟩
    cases live
  | attempt a =>
    obtain ⟨s, live, taken⟩ := Option.bind_eq_some_iff.mp taken
    obtain ⟨_, allowed, taken⟩ := Option.bind_eq_some_iff.mp taken
    cases taken
    have order : l.Allows a.txId := by simpa [guard] using allowed
    have same : a.txId = l.txId := by simpa [pending] using order.2
    cases seen s live
    obtain ⟨left, stopped, left_read, left_gone⟩ := recover_gone (a := a) counts gone
    have begins : a.beginCommit d s = _ :=
      (if_pos (Nat.le_of_eq (same.trans tx.symm))).trans
        (congrArg (· >>= fun reached => a.updateIndex reached.1 reached.2) stopped)
    have dies : State.attempt a d s = (⟨left.crash a.keep, none⟩, false) := by
      unfold State.attempt Attempt.phases
      rw [begins]
      rfl
    rw [dies]
    refine ⟨left_read.trans read, crashed left a.keep left_gone, tx.trans same.symm, rfl,
      fun s live => ?_⟩
    cases live

end GitvTime.Guarantees.Hdfs.TornRecovery
