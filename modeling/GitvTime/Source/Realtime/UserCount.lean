import Mathlib.Data.List.AList
import GitvTime.Source.Realtime.Mac2Redis

/-!
# `UserCount`: deltas cached per key and flushed every second

`mainTain` books a tuple in the task's `cacheMap`; on a tick `SecondsToRedis`
sends one INCRBY for each entry, in the map's iteration order, and clears the
map after the last one. The `Integer` deltas wrap at 32 bits.
-/
namespace GitvTime.Source.Realtime
open GitvTime.Support GitvTime.Source.StringHandle

/-- `Map<String, Integer> cacheMap`. -/
abbrev CacheMap := AList fun _ : String => Int32

def totalKey (channel : String) : String := strJoin₂ "total" channel
def partnerKey (partner channel : String) : String := strJoin ["partner", partner, channel]

namespace UserCount

/-- `CacheInMapAdd`. -/
def cacheInMapAdd (cacheMap : CacheMap) (key : String) : CacheMap :=
  match cacheMap.lookup key with
  | some value => cacheMap.insert key (value + 1)
  | none => cacheMap.insert key 1

/-- `CacheInMapDec`. -/
def cacheInMapDec (cacheMap : CacheMap) (key : String) : CacheMap :=
  match cacheMap.lookup key with
  | some value => cacheMap.insert key (value - 1)
  | none => cacheMap.insert key (-1)

/-- How a call ends: normally, or by an exception that `execute` answers with
`collector.fail`. -/
inductive Answer where
  | ack | fail
  deriving DecidableEq, Repr

/-- One half of `mainTain`: book both keys of a channel and partner. A value
without a separator makes `get(1)` throw before anything is booked. -/
def book (change : CacheMap → String → CacheMap) (cacheMap : CacheMap) :
    Option String → CacheMap × Answer
  | none => (cacheMap, .ack)
  | some value =>
    match strSplit value with
    | channel :: partner :: _ =>
      (change (change cacheMap (totalKey channel)) (partnerKey partner channel), .ack)
    | _ => (cacheMap, .fail)

def mainTain (cacheMap : CacheMap) (ADD DEC : Option String) : CacheMap × Answer :=
  match book cacheInMapAdd cacheMap ADD with
  | (cacheMap, .fail) => (cacheMap, .fail)
  | (cacheMap, .ack) => book cacheInMapDec cacheMap DEC

/-- `cacheMap.entrySet()`, in some order. -/
def entrySet (cacheMap : CacheMap) : List (String × Int32) :=
  cacheMap.entries.map fun item => (item.1, item.2)

/-- The loop of `SecondsToRedis` over the entries in iteration order; the map is
cleared when it ends. -/
def secondsToRedis : List (String × Int32) → RedisProg Unit
  | [] => pure ()
  | (key, value) :: rest => do
    incrBy key value.toInt
    secondsToRedis rest

end UserCount

end GitvTime.Source.Realtime
