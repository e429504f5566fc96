import GitvTime.Guarantees.Viscosity.Top100
import GitvTime.Support.HashedTwins

/-!
# Equal albums in the top 100 sets

The beans override `equals` and not `hashCode`, so two equal beans are one element
of a set only when their identity hash codes happen to agree. And `equals` compares
the album names instead of the ids when its own bean has no id, whatever the other
bean has: on beans without an id it is neither symmetric nor transitive.
-/
namespace GitvTime.Guarantees.Viscosity.DuplicateAlbums
open GitvTime.Support GitvTime.Support.HashedSet
open GitvTime.Source.Viscosity.Top100 GitvTime.Guarantees.Viscosity

/-! ### `equals` of both beans -/

/-- What `equals` reads of a bean; the size is the pair of its two numbers. -/
structure Compared (γ : Type) where
  albumId : Option String
  album : String
  size : γ

namespace Compared
variable {γ : Type}

/-- The first bean's id decides whether ids or names are compared. -/
def Equal (a b : Compared γ) : Prop :=
  (match a.albumId with
    | some _ => b.albumId = a.albumId
    | none => a.album = b.album) ∧ a.size = b.size

/-- The first bean has no id, the second has one, and by name and size they are equal. -/
def Namesake (a b : Compared γ) : Prop :=
  a.albumId = none ∧ b.albumId ≠ none ∧ a.album = b.album ∧ a.size = b.size

def content (a : Compared γ) : Option String × γ := (a.albumId, a.size)

theorem equal_of_id {a b : Compared γ} {id : String} (some_id : a.albumId = some id) :
    a.Equal b ↔ a.content = b.content := by
  simp only [Equal, content, some_id, Prod.mk.injEq]
  constructor
  · rintro ⟨same, size⟩
    exact ⟨same.symm, size⟩
  · rintro ⟨same, size⟩
    exact ⟨same.symm, size⟩

theorem equal_of_none {a b : Compared γ} (no_id : a.albumId = none) :
    a.Equal b ↔ a.album = b.album ∧ a.size = b.size := by
  simp only [Equal, no_id]

/-- The comparison holds one way only between namesakes. -/
theorem symm_iff (a b : Compared γ) : (a.Equal b → b.Equal a) ↔ ¬ a.Namesake b := by
  unfold Namesake
  cases first : a.albumId with
  | some id =>
    constructor
    · rintro _ ⟨absent, _⟩
      cases absent
    · intro _ equal
      have same := (equal_of_id first).mp equal
      have second : b.albumId = some id := by
        rw [← first]
        exact (Prod.mk.inj same).1.symm
      exact (equal_of_id second).mpr same.symm
  | none =>
    cases second : b.albumId with
    | some id =>
      constructor
      · rintro symm ⟨-, -, name, size⟩
        have back := symm ((equal_of_none first).mpr ⟨name, size⟩)
        have same := (Prod.mk.inj ((equal_of_id second).mp back)).1
        rw [first, second] at same
        cases same
      · intro apart equal
        exact absurd ⟨rfl, by simp, (equal_of_none first).mp equal⟩ apart
    | none =>
      constructor
      · rintro _ ⟨-, absent, -⟩
        exact absent rfl
      · intro _ equal
        obtain ⟨name, size⟩ := (equal_of_none first).mp equal
        exact (equal_of_none second).mpr ⟨name.symm, size.symm⟩

/-- A chain of equals breaks only where the middle is a namesake of the first and
the last carries another name under the middle's id. -/
theorem trans_iff (a b c : Compared γ) :
    (a.Equal b → b.Equal c → a.Equal c) ↔
      ¬ (a.Namesake b ∧ b.Equal c ∧ a.album ≠ c.album) := by
  constructor
  · rintro trans ⟨⟨first, _, name, size⟩, equal, other⟩
    have equal' := trans ((equal_of_none first).mpr ⟨name, size⟩) equal
    exact other ((equal_of_none first).mp equal').1
  · intro unbroken equal equal'
    cases first : a.albumId with
    | some id =>
      have same := (equal_of_id first).mp equal
      have second : b.albumId = some id := by
        rw [← first]
        exact (Prod.mk.inj same).1.symm
      exact (equal_of_id first).mpr (same.trans ((equal_of_id second).mp equal'))
    | none =>
      obtain ⟨name, size⟩ := (equal_of_none first).mp equal
      have name' : a.album = c.album := by
        cases second : b.albumId with
        | some id =>
          by_contra other
          exact unbroken ⟨⟨first, by simp [second], name, size⟩, equal', other⟩
        | none => exact name.trans ((equal_of_none second).mp equal').1
      exact (equal_of_none first).mpr ⟨name', size.trans equal'.2⟩

end Compared

def plCompared (bean : AlbumPL) : Compared (Int × Int) :=
  ⟨bean.albumId, bean.album, (bean.playLength, bean.timeLength)⟩

def zbCompared (bean : AlbumZB) : Compared (Int × ℚ) :=
  ⟨bean.albumId, bean.album, (bean.timeLength, bean.zb)⟩

theorem pl_equals_iff (a b : AlbumPL) :
    a.equals b = true ↔ (plCompared a).Equal (plCompared b) := by
  unfold AlbumPL.equals Compared.Equal plCompared
  cases a.albumId with
  | none => simp [and_assoc]
  | some albumId => simp [and_assoc]

theorem zb_equals_iff (a b : AlbumZB) :
    a.equals b = true ↔ (zbCompared a).Equal (zbCompared b) := by
  unfold AlbumZB.equals Compared.Equal zbCompared
  cases a.albumId with
  | none => simp [and_assoc]
  | some albumId => simp [and_assoc]

/-! ### The sets -/

/-- The set after any number of `pushPL` calls holds no two equal albums. -/
def PlUnique (hash : Nat → Int) (order : Iteration (Ref AlbumPL)) (records : List AlbumRecord) :
    Prop :=
  ∀ n, NoTwins AlbumPL.equals
    (((created AlbumRecord.ap records).take n).foldl (pushPL hash order) [])

/-- The set after any number of `pushZb` calls holds no two equal albums. -/
def ZbUnique (hash : Nat → Int) (order : Iteration (Ref AlbumZB)) (records : List AlbumRecord) :
    Prop :=
  ∀ n, NoTwins AlbumZB.equals
    (((created AlbumRecord.az records).take n).foldl (pushZb hash order) [])

/-- Equal records that find fewer than 100 different albums before the later one, as
the set tells them apart, have the same hash code. -/
def PlHashedAlike (hash : Nat → Int) (records : List AlbumRecord) : Prop :=
  HashedAlike 100 hash AlbumPL.equals (fun bean => (plCompared bean).content)
    (created AlbumRecord.ap records)

def ZbHashedAlike (hash : Nat → Int) (records : List AlbumRecord) : Prop :=
  HashedAlike 100 hash AlbumZB.equals (fun bean => (zbCompared bean).content)
    (created AlbumRecord.az records)

variable {hash : Nat → Int} {records : List AlbumRecord}

/-- The beans that `reduce` makes have ids. -/
theorem plUnique_iff (order : Iteration (Ref AlbumPL)) :
    PlUnique hash order records ↔ PlHashedAlike hash records := by
  refine noTwins_iff ?_ pl_keyEquals created_nodup (by decide)
  intro a ha b _
  obtain ⟨record, _, val⟩ := created_mem ha
  rw [pl_equals_iff, val]
  exact Compared.equal_of_id rfl

theorem zbUnique_iff (order : Iteration (Ref AlbumZB)) :
    ZbUnique hash order records ↔ ZbHashedAlike hash records := by
  refine noTwins_iff ?_ zb_keyEquals created_nodup (by decide)
  intro a ha b _
  obtain ⟨record, _, val⟩ := created_mem ha
  rw [zb_equals_iff, val]
  exact Compared.equal_of_id rfl

/-- The sets hold no equal albums exactly when equal albums that find room are hashed
alike; `equals` is symmetric and transitive exactly without namesakes. -/
theorem no_duplicate_albums_iff (hash : Nat → Int) (plOrder : Iteration (Ref AlbumPL))
    (zbOrder : Iteration (Ref AlbumZB)) (records : List AlbumRecord) (a b c : AlbumPL)
    (a' b' c' : AlbumZB) :
    (PlUnique hash plOrder records ↔ PlHashedAlike hash records) ∧
    (ZbUnique hash zbOrder records ↔ ZbHashedAlike hash records) ∧
    ((a.equals b = true → b.equals a = true) ↔ ¬ (plCompared a).Namesake (plCompared b)) ∧
    ((a'.equals b' = true → b'.equals a' = true) ↔ ¬ (zbCompared a').Namesake (zbCompared b')) ∧
    ((a.equals b = true → b.equals c = true → a.equals c = true) ↔
      ¬ ((plCompared a).Namesake (plCompared b) ∧ b.equals c = true ∧ a.album ≠ c.album)) ∧
    ((a'.equals b' = true → b'.equals c' = true → a'.equals c' = true) ↔
      ¬ ((zbCompared a').Namesake (zbCompared b') ∧ b'.equals c' = true ∧
        a'.album ≠ c'.album)) := by
  simp only [pl_equals_iff, zb_equals_iff]
  refine ⟨?_, ?_, ?_, ?_, ?_, ?_⟩
  · exact plUnique_iff plOrder
  · exact zbUnique_iff zbOrder
  · exact Compared.symm_iff _ _
  · exact Compared.symm_iff _ _
  · exact Compared.trans_iff _ _ _
  · exact Compared.trans_iff _ _ _

/-- One album under two spellings of its name, with the same totals. -/
def spelledTwice : List AlbumRecord :=
  [⟨"News", "1002", 600, 2, 30, by decide⟩, ⟨"news", "1002", 600, 2, 30, by decide⟩]

/-- Two objects with different hash codes are both in the set, and a bean without an
id equals its namesake, which does not equal it. -/
theorem spelled_twice_kept :
    ¬ PlUnique (fun id => id) Iteration.added spelledTwice ∧
      ¬ ZbUnique (fun id => id) Iteration.added spelledTwice ∧
      ¬ ((AlbumPL.mk "News" none 600 30).equals ⟨"News", some "1002", 600, 30⟩ = true →
        (AlbumPL.mk "News" (some "1002") 600 30).equals ⟨"News", none, 600, 30⟩ = true) ∧
      ¬ ((AlbumZB.mk "News" none 300 30).equals ⟨"News", some "1002", 300, 30⟩ = true →
        (AlbumZB.mk "News" (some "1002") 300 30).equals ⟨"News", none, 300, 30⟩ = true) := by
  refine ⟨?_, ?_, by decide, by decide⟩
  · intro unique
    have twins := (unique 2).apart ⟨0, "News", some "1002", 600, 30⟩ (by decide)
      ⟨1, "news", some "1002", 600, 30⟩ (by decide)
    exact absurd (twins (by decide)) (by decide)
  · intro unique
    have alike := (zbUnique_iff Iteration.added).mp unique
    have few : (codes (fun id => (id : Int)) (fun bean => (zbCompared bean).content)
        ((created AlbumRecord.az spelledTwice).take 1)).card < 100 :=
      lt_of_le_of_lt (List.toFinset_card_le _) (by decide)
    have hashes := alike 0 1 ⟨0, spelledTwice[0].az⟩ ⟨1, spelledTwice[1].az⟩ (by decide) rfl rfl
      (by simp [zb_equals_iff, Compared.Equal, zbCompared, spelledTwice, AlbumRecord.az,
        AlbumRecord.zb]) few
    exact absurd hashes (by decide)

end GitvTime.Guarantees.Viscosity.DuplicateAlbums
