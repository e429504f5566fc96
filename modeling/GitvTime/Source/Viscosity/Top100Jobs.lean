import Mathlib.Data.Finset.Dedup
import GitvTime.Source.PlainFields
import GitvTime.Source.TextFiles
import GitvTime.Source.Viscosity.Top100
import GitvTime.Support.MapReduce

/-!
# The two jobs of the top 100

`viscosity-mr-top100`: `Job1` sums the play lengths of each album, `Job2` collects
the albums of each partner and channel. `Start_up` runs both for `vod` or for
`liv`; the kinds share all but the first map. A `NumberFormatException` or an
`IndexOutOfBoundsException` is `none` and fails its job.
-/
namespace GitvTime.Source.Viscosity.Top100Jobs
open GitvTime.Source.StringHandle GitvTime.Source.Patterns GitvTime.Source.Numbers
open GitvTime.Source.TextFiles GitvTime.Support.MapReduce
open GitvTime.Support

/-! ### Job1 -/

/-- What a `Job1` map reads of a line. -/
structure LogFields where
  actionS : String
  devMac : String
  partnerCode : String
  timeLengthS : String
  playLengthS : String
  albumId : String
  albumName : String
  chn : String
  playTypeS : String

/-- The columns of a log and the fields that have to be legal. -/
structure Layout where
  size : Nat
  actionS : Fin size
  devMac : Fin size
  partnerCode : Fin size
  timeLengthS : Fin size
  playLengthS : Fin size
  albumId : Fin size
  albumName : Fin size
  chn : Fin size
  playTypeS : Fin size
  checked : LogFields → List String

/-- `Job1VodFilterMap`. -/
def vod : Layout where
  size := 44
  actionS := 3
  devMac := 5
  partnerCode := 6
  timeLengthS := 11
  playLengthS := 12
  albumId := 13
  albumName := 14
  chn := 17
  playTypeS := 26
  checked f := [f.actionS, f.devMac, f.partnerCode, f.timeLengthS, f.playLengthS, f.albumName,
    f.albumId, f.chn, f.playTypeS]

/-- `Job1LivFilterMap`: the album id is not checked. -/
def liv : Layout where
  size := 46
  chn := 0
  actionS := 5
  devMac := 7
  partnerCode := 8
  timeLengthS := 13
  playLengthS := 14
  albumId := 15
  albumName := 16
  playTypeS := 28
  checked f := [f.chn, f.actionS, f.devMac, f.partnerCode, f.timeLengthS, f.playLengthS,
    f.albumName, f.playTypeS]

/-- The `type` argument of `Start_up`. -/
inductive Kind where
  | vod
  | liv
  deriving DecidableEq, Repr

def Kind.layout : Kind → Layout
  | .vod => Top100Jobs.vod
  | .liv => Top100Jobs.liv

/-- The columns of a `Job1` key. -/
@[ext]
structure AlbumKey where
  partnerCode : String
  chn : String
  albumName : String
  albumId : String
  deriving DecidableEq, Repr

def AlbumKey.columns (key : AlbumKey) : List String :=
  [key.partnerCode, key.chn, key.albumName, key.albumId]

def AlbumKey.keyMerge (key : AlbumKey) : String := strJoin key.columns

def filter1 (action playType playLength : Int) : Bool :=
  action == 5 && (playType == 1 || playType == 2) && decide (4 < playLength)

def filter2 (playLength timeLength : Int) : Int :=
  if timeLength < playLength then timeLength else playLength

/-- The album name is cleaned while the line is read. -/
def Layout.fields (layout : Layout) (otherC : Char → Bool) (line : List String) :
    Option LogFields :=
  if size : line.length = layout.size then
    let get (column : Fin layout.size) : String := line.get (column.cast size.symm)
    some {
      actionS := get layout.actionS
      devMac := get layout.devMac
      partnerCode := get layout.partnerCode
      timeLengthS := get layout.timeLengthS
      playLengthS := get layout.playLengthS
      albumId := get layout.albumId
      albumName := pt.removeFrom ((noSeePattern otherC).removeFrom (get layout.albumName))
      chn := get layout.chn
      playTypeS := get layout.playTypeS }
  else none

section
variable (digits : CharacterDigit)

namespace LogFields

def key (f : LogFields) : AlbumKey := ⟨f.partnerCode, f.chn, f.albumName, f.albumId⟩

def playLength (f : LogFields) : Int := toInt digits f.playLengthS 0

def timeLength (f : LogFields) : Int := toInt digits f.timeLengthS 1

def valueMerge (f : LogFields) : String :=
  strJoin [f.devMac, f.timeLengthS, toString (filter2 (f.playLength digits) (f.timeLength digits))]

def write (f : LogFields) : String × String := (f.key.keyMerge, f.valueMerge digits)

end LogFields

def Layout.isLegal (layout : Layout) (f : LogFields) : Bool :=
  isLegalField ((layout.checked f).map some)

/-- `map` of the two first mappers. -/
def job1Map (otherC : Char → Bool) (kind : Kind) (value : String) :
    Option (Option (String × String)) :=
  match kind.layout.fields otherC (strSplitTrim value) with
  | none => some none
  | some f =>
    if kind.layout.isLegal f then do
      let action ← parseInt digits f.actionS
      let playType ← parseInt digits f.playTypeS
      return if filter1 action playType (f.playLength digits) then some (f.write digits) else none
    else some none

/-- What `Job1PlayLengthReduce` reads of a value. -/
structure PlayValue where
  devMac : String
  timeLength : String
  playLength : Int

def readPlayValue (line : String) : Option PlayValue := do
  let messages := strSplitTrim line
  let devMac ← messages[0]?
  let timeLength ← messages[1]?
  let playLength ← messages[2]? >>= parseInt digits
  return ⟨devMac, timeLength, playLength⟩

/-- The sum of two longs. -/
def addLong (x y : Int) : Int := (x + y).bmod (2 ^ 64)

/-- `Set.size`, which stops at `Integer.MAX_VALUE`. -/
def setSize (set : Finset String) : Int := min (set.card : Int) intMax

/-- The variables of the reducer's loop. -/
structure Totals where
  macSet : Finset String
  totalPL : Int
  timeLength : Option String

def Totals.add (totals : Totals) (value : PlayValue) : Totals :=
  ⟨insert value.devMac totals.macSet, addLong totals.totalPL value.playLength,
    some value.timeLength⟩

/-- One turn of the loop. -/
def Totals.read (totals : Totals) (line : String) : Option Totals :=
  (readPlayValue digits line).map totals.add

/-- `reduce` of `Job1PlayLengthReduce`; the builder prints null as text. -/
def job1Reduce (group : String × List String) : Option String := do
  let totals ← group.2.foldlM (Totals.read digits) ⟨∅, 0, none⟩
  return strJoin [group.1, toString totals.totalPL, toString (setSize totals.macSet),
    totals.timeLength.getD "null"]

/-- The part file of a reduce task. -/
def partFile (groups : List (String × List String)) : Option (List Char) :=
  (stage (fun group => (job1Reduce digits group).map some) groups).map fileText

/-- The part files of the reduce tasks, each with its groups in their order. -/
def job1Reduces (tasks : List (List (String × List String))) : Option (List (List Char)) :=
  stage (fun groups => (partFile digits groups).map some) tasks

end

/-! ### Job2 -/

/-- `map` of `Job2ChannelMap`. -/
def job2Map (value : String) : Option (Option (String × String)) := do
  let columns := strSplitTrim value
  let partnerCode ← columns[0]?
  let chnId ← columns[1]?
  let albumName ← columns[2]?
  let albumId ← columns[3]?
  let playLengthS ← columns[4]?
  let macNum ← columns[5]?
  let timeLength ← columns[6]?
  return if isLegalField ([partnerCode, chnId, albumName, playLengthS, macNum].map some) then
    some (strJoin₂ partnerCode chnId, strJoin [albumName, albumId, playLengthS, macNum, timeLength])
  else none

def job2Maps (files : List (List Char)) : Option (List (String × String)) :=
  stage job2Map (files.flatMap readLines)

/-- The records that `Start_up` brings to the last reduce. A first job that fails
leaves no part file, so that nothing reaches it. -/
def delivered (digits : CharacterDigit) (otherC : Char → Bool) (kind : Kind)
    (lines : List String) (tasks : List (List (String × List String))) :
    Option (List (String × String)) := do
  let _ ← stage (job1Map digits otherC kind) lines
  let files ← job1Reduces digits tasks
  job2Maps files

section
variable (digits : CharacterDigit)

/-- What `Job2Top100Reduce` reads of a value; no ratio can be built on a mac number
that is not positive. -/
def readAlbumRecord (line : String) : Option Top100.AlbumRecord := do
  let messages := strSplitTrim line
  let albumName ← messages[0]?
  let albumId ← messages[1]?
  let playLength ← messages[2]? >>= parseLong digits
  let macNum ← messages[3]? >>= parseInt digits
  let timeLength ← messages[4]? >>= parseInt digits
  if positive : 0 < macNum then
    return ⟨albumName, albumId, playLength, macNum, timeLength, positive⟩
  else none

variable (hashPL hashZB : Nat → Int) (orderPL : Iteration (Ref Top100.AlbumPL))
  (orderZB : Iteration (Ref Top100.AlbumZB)) (df : ℚ → String)

/-- `reduce` of `Job2Top100Reduce`, with the parameters of its sets and its format. -/
def job2Reduce (group : String × List String) : Option (List (String × String)) :=
  (group.2.mapM (readAlbumRecord digits)).map
    (Top100.reduce hashPL hashZB orderPL orderZB df group.1)

/-- What follows on the first map: the groups of both shuffles are given. -/
def afterJob1Map (tasks : List (List (String × List String)))
    (channels : List (String × List String)) : Option (List (List (String × String))) := do
  let files ← job1Reduces digits tasks
  let _ ← job2Maps files
  channels.mapM (job2Reduce digits hashPL hashZB orderPL orderZB df)

/-- Both jobs. -/
def jobs (otherC : Char → Bool) (kind : Kind) (lines : List String)
    (tasks : List (List (String × List String))) (channels : List (String × List String)) :
    Option (List (List (String × String))) := do
  let _ ← stage (job1Map digits otherC kind) lines
  afterJob1Map digits hashPL hashZB orderPL orderZB df tasks channels

end

end GitvTime.Source.Viscosity.Top100Jobs
