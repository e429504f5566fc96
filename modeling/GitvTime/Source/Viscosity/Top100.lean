import GitvTime.Source.StringHandle
import GitvTime.Support.DoubleRounding
import GitvTime.Support.HashedSet

/-!
# The top 100 reducer

`Job2Top100Reduce` of `viscosity-mr-top100`: the records of one partner and
channel go into two hash sets bounded at 100, which are sorted and written. The
beans do not override `hashCode`, so an object's hash code is a parameter, as is
the order in which a set is iterated. `compareTo` of both beans is
`HashedSet.descending` on the field that the push reads.
-/
namespace GitvTime.Source.Viscosity.Top100
open GitvTime.Support GitvTime.Source.StringHandle

/-- The five `messages` of a value. `Job1` counts the macs in a set, so there is
at least one. -/
structure AlbumRecord where
  albumName : String
  albumId : String
  playLength : Int
  macNum : Int
  timeLength : Int
  macNum_pos : 0 < macNum

/-- `Album_PL`. -/
structure AlbumPL where
  album : String
  albumId : Option String
  playLength : Int
  timeLength : Int
  deriving DecidableEq, Repr

/-- `Album_ZB`; the value of the double is kept as a rational. -/
structure AlbumZB where
  album : String
  albumId : Option String
  zb : ℚ
  timeLength : Int
  deriving DecidableEq, Repr

/-- `equals` of another object. -/
def AlbumPL.equals (this obj1 : AlbumPL) : Bool :=
  match this.albumId with
  | some albumId => obj1.albumId == some albumId && this.playLength == obj1.playLength &&
      this.timeLength == obj1.timeLength
  | none => this.album == obj1.album && this.playLength == obj1.playLength &&
      this.timeLength == obj1.timeLength

/-- `equals` of another object. -/
def AlbumZB.equals (this obj1 : AlbumZB) : Bool :=
  match this.albumId with
  | some albumId => obj1.albumId == some albumId && this.timeLength == obj1.timeLength &&
      this.zb == obj1.zb
  | none => this.album == obj1.album && this.timeLength == obj1.timeLength && this.zb == obj1.zb

namespace AlbumRecord

def ap (record : AlbumRecord) : AlbumPL :=
  ⟨record.albumName, some record.albumId, record.playLength, record.timeLength⟩

/-- `((double) playLength) / macNum`: the cast rounds, and so does the division. -/
def zb (record : AlbumRecord) : ℚ := toDouble (toDouble record.playLength / record.macNum)

def az (record : AlbumRecord) : AlbumZB :=
  ⟨record.albumName, some record.albumId, record.zb, record.timeLength⟩

end AlbumRecord

/-- The objects of one `reduce`, each named by the record it is made from. -/
def created {β : Type} (bean : AlbumRecord → β) (records : List AlbumRecord) : List (Ref β) :=
  records.mapIdx fun id record => ⟨id, bean record⟩

section
variable (hashPL hashZB : Nat → Int) (orderPL : Iteration (Ref AlbumPL))
  (orderZB : Iteration (Ref AlbumZB))

def pushPL : List (Ref AlbumPL) → Ref AlbumPL → List (Ref AlbumPL) :=
  HashedSet.push 100 hashPL AlbumPL.equals AlbumPL.playLength orderPL

def pushZb : List (Ref AlbumZB) → Ref AlbumZB → List (Ref AlbumZB) :=
  HashedSet.push 100 hashZB AlbumZB.equals AlbumZB.zb orderZB

/-- The two sets after the loop over the values. -/
def top100Sets (records : List AlbumRecord) : List (Ref AlbumPL) × List (Ref AlbumZB) :=
  (created id records).foldl (fun (top100PlSet, top100ZbSet) record =>
    (pushPL hashPL orderPL top100PlSet ⟨record.id, record.val.ap⟩,
      pushZb hashZB orderZB top100ZbSet ⟨record.id, record.val.az⟩)) ([], [])

def top100PlList (records : List AlbumRecord) : List (Ref AlbumPL) :=
  HashedSet.sorted AlbumPL.playLength orderPL (top100Sets hashPL hashZB orderPL orderZB records).1

def top100ZbList (records : List AlbumRecord) : List (Ref AlbumZB) :=
  HashedSet.sorted AlbumZB.zb orderZB (top100Sets hashPL hashZB orderPL orderZB records).2

/-- What is appended to the line for an album id. -/
def printId : Option String → String
  | some albumId => albumId
  | none => "null"

/-- The lines that `reduce` writes, each with its file; `df` formats a ratio. -/
def reduce (df : ℚ → String) (partnerChannel : String) (records : List AlbumRecord) :
    List (String × String) :=
  (top100PlList hashPL hashZB orderPL orderZB records).map (fun item =>
    ("pl/pl", strJoin [partnerChannel, item.val.album, printId item.val.albumId,
      toString item.val.playLength, toString item.val.timeLength])) ++
  (top100ZbList hashPL hashZB orderPL orderZB records).map (fun item =>
    ("zb/zb", strJoin [partnerChannel, item.val.album, printId item.val.albumId,
      df item.val.zb, toString item.val.timeLength]))

end

end GitvTime.Source.Viscosity.Top100
