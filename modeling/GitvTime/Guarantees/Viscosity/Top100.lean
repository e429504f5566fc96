import GitvTime.Source.Viscosity.Top100
import GitvTime.Support.TopSelection

/-!
# What the top 100 reducer selects

The comparators of the beans are descending, so `Collections.min` in a push is the
largest element: a full set gives up its largest element for a larger one. The
lists are the top 100 only when the records that fill a set are top records, or
when the record given up is not above the others.
-/
namespace GitvTime.Guarantees.Viscosity
open GitvTime.Support GitvTime.Support.HashedSet
open GitvTime.Source.Viscosity.Top100

/-! ### The lists are bounded selections -/

section
variable {β : Type} {bean : AlbumRecord → β} {records : List AlbumRecord}

theorem created_ids : (created bean records).map Ref.id = List.range records.length := by
  refine List.ext_getElem (by simp [created]) fun i _ _ => ?_
  simp [created]

theorem created_nodup : (created bean records).Nodup := by
  refine List.Nodup.of_map Ref.id ?_
  rw [created_ids]
  exact List.nodup_range

theorem created_mem {item : Ref β} (member : item ∈ created bean records) :
    ∃ record, records[item.id]? = some record ∧ item.val = bean record := by
  obtain ⟨i, bound, rfl⟩ := List.mem_mapIdx.mp member
  exact ⟨records[i], List.getElem?_eq_getElem bound, rfl⟩

end

variable {hashPL hashZB : Nat → Int} {orderPL : Iteration (Ref AlbumPL)}
  {orderZB : Iteration (Ref AlbumZB)} {records : List AlbumRecord}

theorem created_eq_map {β : Type} (bean : AlbumRecord → β) :
    created bean records = (created id records).map fun record => ⟨record.id, bean record.val⟩ := by
  refine List.ext_getElem (by simp [created]) fun i _ _ => ?_
  simp [created]

/-- The two sets are filled independently. -/
theorem top100Sets_eq :
    top100Sets hashPL hashZB orderPL orderZB records =
      ((created AlbumRecord.ap records).foldl (pushPL hashPL orderPL) [],
        (created AlbumRecord.az records).foldl (pushZb hashZB orderZB) []) := by
  rw [created_eq_map AlbumRecord.ap, created_eq_map AlbumRecord.az, List.foldl_map, List.foldl_map]
  exact List.foldl_hom₂ (created id records) Prod.mk _ _ _ [] [] fun _ _ _ => rfl

theorem top100PlList_eq :
    top100PlList hashPL hashZB orderPL orderZB records =
      select 100 hashPL AlbumPL.equals AlbumPL.playLength orderPL
        (created AlbumRecord.ap records) := by
  rw [top100PlList, top100Sets_eq]
  rfl

theorem top100ZbList_eq :
    top100ZbList hashPL hashZB orderPL orderZB records =
      select 100 hashZB AlbumZB.equals AlbumZB.zb orderZB (created AlbumRecord.az records) := by
  rw [top100ZbList, top100Sets_eq]
  rfl

/-- `reduce` makes beans with an album id, on which `equals` is symmetric. -/
theorem pl_keyEquals :
    KeyEquals AlbumPL.equals AlbumPL.playLength (created AlbumRecord.ap records) := by
  refine ⟨fun a b equal => ?_, fun a ha b hb equal => ?_⟩
  · unfold AlbumPL.equals at equal
    split at equal <;> simp_all
  · obtain ⟨first, _, val_a⟩ := created_mem ha
    obtain ⟨second, _, val_b⟩ := created_mem hb
    rw [val_a, val_b] at equal ⊢
    simp only [AlbumPL.equals, AlbumRecord.ap, Bool.and_eq_true, beq_iff_eq] at equal ⊢
    exact ⟨⟨equal.1.1.symm, equal.1.2.symm⟩, equal.2.symm⟩

theorem zb_keyEquals :
    KeyEquals AlbumZB.equals AlbumZB.zb (created AlbumRecord.az records) := by
  refine ⟨fun a b equal => ?_, fun a ha b hb equal => ?_⟩
  · unfold AlbumZB.equals at equal
    split at equal <;> simp_all
  · obtain ⟨first, _, val_a⟩ := created_mem ha
    obtain ⟨second, _, val_b⟩ := created_mem hb
    rw [val_a, val_b] at equal ⊢
    simp only [AlbumZB.equals, AlbumRecord.az, Bool.and_eq_true, beq_iff_eq] at equal ⊢
    exact ⟨⟨equal.1.1.symm, equal.1.2.symm⟩, equal.2.symm⟩

/-! ### When the lists are the top 100 -/

/-- `playLength / macNum` as a rational. -/
def ratio (record : AlbumRecord) : ℚ := record.playLength / record.macNum

/-- The exact ratio of the record that an `Album_ZB` is made from. -/
def ratioOf (records : List AlbumRecord) (item : Ref AlbumZB) : ℚ :=
  match records[item.id]? with
  | some record => ratio record
  | none => 0

def playLengthOf (item : Ref AlbumPL) : Int := item.val.playLength

/-- Both lists hold `min 100 n` records in order and leave no larger one out. -/
structure Top100 (hashPL hashZB : Nat → Int) (orderPL : Iteration (Ref AlbumPL))
    (orderZB : Iteration (Ref AlbumZB)) (records : List AlbumRecord) : Prop where
  pl : TopOf 100 playLengthOf (created AlbumRecord.ap records)
    (top100PlList hashPL hashZB orderPL orderZB records)
  zb : TopOf 100 (ratioOf records) (created AlbumRecord.az records)
    (top100ZbList hashPL hashZB orderPL orderZB records)

/-- The records that fill the `pl` set are top records, or equal ones of which one
makes way for the only larger record. -/
def PlFilledRight (hashPL : Nat → Int) (records : List AlbumRecord) : Prop :=
  let albums := created AlbumRecord.ap records
  (taken 100 hashPL AlbumPL.equals [] albums).length = min 100 albums.length ∧
    (FilledByTop 100 hashPL AlbumPL.equals AlbumPL.playLength playLengthOf albums ∨
      ∃ winner, OvertakenOnce 100 hashPL AlbumPL.equals AlbumPL.playLength playLengthOf albums
        winner)

/-- The records that fill the `zb` set are top records that the rounded ratios order
alike, or one of the lowest of them makes way for a larger record. -/
def ZbFilledRight (hashZB : Nat → Int) (records : List AlbumRecord) : Prop :=
  let albums := created AlbumRecord.az records
  (taken 100 hashZB AlbumZB.equals [] albums).length = min 100 albums.length ∧
    (Undisturbed 100 hashZB AlbumZB.equals AlbumZB.zb (ratioOf records) albums ∨
      ∃ winner, Displaced 100 hashZB AlbumZB.equals AlbumZB.zb (ratioOf records) albums winner)

theorem pl_topOf_iff :
    (∀ orderPL, TopOf 100 playLengthOf (created AlbumRecord.ap records)
        (top100PlList hashPL hashZB orderPL orderZB records)) ↔ PlFilledRight hashPL records := by
  simp only [top100PlList_eq]
  rw [select_iff pl_keyEquals (by decide) created_nodup]
  exact selects_iff pl_keyEquals (by decide) created_nodup fun _ _ _ _ le => le

theorem zb_topOf_iff :
    (∀ orderZB, TopOf 100 (ratioOf records) (created AlbumRecord.az records)
        (top100ZbList hashPL hashZB orderPL orderZB records)) ↔ ZbFilledRight hashZB records := by
  simp only [top100ZbList_eq]
  rw [select_iff zb_keyEquals (by decide) created_nodup]
  exact selects_cases zb_keyEquals (by decide)

/-- Both lists are the top 100 in every iteration order exactly when the records
that fill the two sets are the right ones. -/
theorem top100_iff (hashPL hashZB : Nat → Int) (records : List AlbumRecord) :
    (∀ orderPL orderZB, Top100 hashPL hashZB orderPL orderZB records) ↔
      PlFilledRight hashPL records ∧ ZbFilledRight hashZB records := by
  constructor
  · intro right
    exact ⟨pl_topOf_iff.mp fun orderPL => (right orderPL Iteration.added).pl,
      zb_topOf_iff.mp fun orderZB => (right Iteration.added orderZB).zb⟩
  · rintro ⟨pl, zb⟩ orderPL orderZB
    exact ⟨pl_topOf_iff.mpr pl orderPL, zb_topOf_iff.mpr zb orderZB⟩

/-! ### Ratios of small play lengths -/

theorem ratioOf_created {item : Ref AlbumZB} (member : item ∈ created AlbumRecord.az records) :
    ∃ record ∈ records, ratioOf records item = ratio record ∧ item.val.zb = record.zb := by
  obtain ⟨record, found, val⟩ := created_mem member
  exact ⟨record, List.mem_of_getElem? found, by simp only [ratioOf, found], by rw [val]; rfl⟩

/-- A play length of at most 53 bits is rounded once. -/
theorem zb_of_small {record : AlbumRecord} (small : |record.playLength| < 2 ^ 53) :
    record.zb = toDouble (ratio record) := by
  rw [AlbumRecord.zb, toDouble_intCast small, ratio]

theorem zb_follows (small : ∀ record ∈ records, |record.playLength| < 2 ^ 53) :
    Follows AlbumZB.zb (ratioOf records) (created AlbumRecord.az records) := by
  intro a ha b hb le
  obtain ⟨first, first_mem, ratio_a, zb_a⟩ := ratioOf_created ha
  obtain ⟨second, second_mem, ratio_b, zb_b⟩ := ratioOf_created hb
  rw [ratio_a, ratio_b] at le
  rw [zb_a, zb_b, zb_of_small (small first first_mem), zb_of_small (small second second_mem)]
  exact toDouble_mono le

/-- For small play lengths the two sets need the same kind of records. -/
theorem zbFilledRight_iff_of_small (small : ∀ record ∈ records, |record.playLength| < 2 ^ 53) :
    ZbFilledRight hashZB records ↔
      (taken 100 hashZB AlbumZB.equals [] (created AlbumRecord.az records)).length =
          min 100 (created AlbumRecord.az records).length ∧
        (FilledByTop 100 hashZB AlbumZB.equals AlbumZB.zb (ratioOf records)
            (created AlbumRecord.az records) ∨
          ∃ winner, OvertakenOnce 100 hashZB AlbumZB.equals AlbumZB.zb (ratioOf records)
            (created AlbumRecord.az records) winner) :=
  (selects_cases zb_keyEquals (by decide)).symm.trans
    (selects_iff zb_keyEquals (by decide) created_nodup (zb_follows small))

/-! ### A group that rises -/

/-- 101 albums, each played for one second more than the one before. -/
def rising : List AlbumRecord :=
  (List.range 101).map fun n : Nat => ⟨"album", toString n, n + 1, 1, 0, by decide⟩

theorem rising_album {i : Nat} (bound : i < 101) :
    (created AlbumRecord.ap rising)[i]? = some ⟨i, "album", some (toString i), i + 1, 0⟩ := by
  simp [created, rising, AlbumRecord.ap, bound]

/-- Objects with different hash codes are told apart. -/
theorem rising_taken : taken 100 (fun id => id) AlbumPL.equals [] (created AlbumRecord.ap rising) =
    (created AlbumRecord.ap rising).take 100 := by
  refine taken_of_distinct ?_
  have ids : ((created AlbumRecord.ap rising).map Ref.id).Pairwise (· ≠ ·) := by
    rw [created_ids]
    exact List.nodup_range
  refine (List.pairwise_map.mp ids).imp fun different same => ?_
  simp only [sameKey, Bool.and_eq_true, beq_iff_eq, Nat.cast_inj] at same
  exact different same.1.symm

/-- The first 100 albums fill the set, and the last finds it full. -/
theorem rising_filled :
    (∀ i, i < 100 → (⟨i, "album", some (toString i), i + 1, 0⟩ : Ref AlbumPL) ∈
      taken 100 (fun id => id) AlbumPL.equals [] (created AlbumRecord.ap rising)) ∧
    (⟨100, "album", some (toString 100), 101, 0⟩ : Ref AlbumPL) ∉
      taken 100 (fun id => id) AlbumPL.equals [] (created AlbumRecord.ap rising) := by
  rw [rising_taken]
  refine ⟨fun i bound => ?_, fun member => ?_⟩
  · refine List.mem_of_getElem? (i := i) ?_
    rw [List.getElem?_take_of_lt bound, rising_album (by omega)]
  · have id := List.mem_map_of_mem (f := Ref.id) member
    rw [List.map_take, created_ids, List.take_range, List.mem_range] at id
    exact lt_irrefl 100 (lt_of_lt_of_le id (Nat.min_le_left _ _))

/-- The second largest of 101 albums is dropped. -/
theorem rising_not_top100 :
    ¬ ∀ hashPL hashZB orderPL orderZB records, records ≠ [] →
      Top100 hashPL hashZB orderPL orderZB records := by
  intro right
  have nonempty : rising ≠ [] := List.ne_nil_of_length_pos (by simp [rising])
  have filled := pl_topOf_iff.mp fun orderPL =>
    (right (fun id => id) (fun id => id) orderPL Iteration.added rising nonempty).pl
  obtain ⟨early, late⟩ := rising_filled
  have last : (⟨100, "album", some (toString 100), 101, 0⟩ : Ref AlbumPL) ∈
    created AlbumRecord.ap rising := List.mem_of_getElem? (rising_album (by decide))
  rcases filled.2 with top | ⟨winner, once⟩
  · exact absurd (top.top _ last late _ (early 0 (by decide))) (by simp [playLengthOf])
  · exact absurd (once.level _ (early 0 (by decide)) _ (early 1 (by decide)))
      (by simp [playLengthOf])

end GitvTime.Guarantees.Viscosity
