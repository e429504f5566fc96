import GitvTime.Source.Realtime.UserCount
import GitvTime.Source.Numbers

/-!
# The on-demand topology with failing tuples and replays

A log goes through `FilterAll`, `Mac2Redis` and, when `Mac2Redis` emits, one
`UserCount` task, all anchored to the log: when `Mac2Redis` fails the tuple (its
mac is no hexadecimal number) or `UserCount` does (`getInstance` throws before
the cache is touched) the spout replays the log. No other event of a device is
handled while a log of it waits for its replay, and a device belongs to one
`Mac2Redis` task, so one attempt is one step.

The ping-back parsers are third-party code and parameters here, as are the
digits of the JDK.
-/
namespace GitvTime.Source.Realtime
open GitvTime.Support GitvTime.Source.StringHandle GitvTime.Source.Numbers

namespace Vod

inductive PingbackVersion where
  | V1_0 | V2_0 | other
  deriving DecidableEq, Repr

/-- What `FilterAll` takes from a decoded log line; `none` is null. -/
structure PlayLog where
  partner : Option String
  mac : Option String
  chnName : Option String
  playType : Int
  deriving DecidableEq, Repr

/-- The third-party parsers, `none` is an exception, and `Character.digit`. -/
structure Transforms where
  hex : HexDigit
  getPingbackVersion : String → Option PingbackVersion
  decodeV1 : String → Option PlayLog
  decodeV2 : String → Option PlayLog

/-- The parsers return columns of a line that is separated by `|`. -/
structure Transforms.Columns (transforms : Transforms) : Prop where
  partner_free : ∀ line log partner, transforms.decodeV1 line = some log ∨
    transforms.decodeV2 line = some log → log.partner = some partner → BarFree partner
  mac_free : ∀ line log mac, transforms.decodeV1 line = some log ∨
    transforms.decodeV2 line = some log → log.mac = some mac → BarFree mac
  chnName_free : ∀ line log chnName, transforms.decodeV1 line = some log ∨
    transforms.decodeV2 line = some log → log.chnName = some chnName → BarFree chnName

def V0_VOD : String := "V0_VOD"
def V1_VOD : String := "V1_VOD"

/-- `isLegalField`. -/
def isLegalField (fields : List (Option String)) : Bool :=
  fields.all fun
    | none => false
    | some field => !(field.toList.map Char.toLower == "null".toList) && !isBlank (some field)

/-- The emission behind the version switch. -/
def emitLegal (log : PlayLog) : Option Tuple :=
  let pt := toString log.playType
  if isLegalField [log.partner, log.mac, some pt, log.chnName] = true then
    match log.partner, log.mac, log.chnName with
    | some partner, some mac, some channelName => some { partner, mac, pt, channelName }
    | _, _, _ => none
  else none

/-- `FilterAll.execute`: what is emitted. The log is acked in every case, an
exception included. -/
def filterAll (transforms : Transforms) (logInfo : String) : Option Tuple :=
  if isBlank (some logInfo) = true then none
  else
    match strSplit logInfo with
    | type :: pingBackVersionStr :: _ =>
      if type = V0_VOD ∨ type = V1_VOD then
        match transforms.getPingbackVersion pingBackVersionStr with
        | some .V1_0 => (transforms.decodeV1 logInfo).bind emitLegal
        | some .V2_0 => (transforms.decodeV2 logInfo).bind emitLegal
        | some .other => none
        | none => none
      else none
    | _ => none

/-- `Long.parseLong(mac.replaceAll(":", ""), 16)` of `Mac2Redis.execute`, which
chooses the Redis instance by it. -/
def macLong (transforms : Transforms) (mac : String) : Option Int :=
  parseLongHex transforms.hex (String.ofList (mac.toList.filter (· ≠ ':')))

structure State where
  servers : Servers
  /-- the caches of the `UserCount` tasks -/
  tasks : List CacheMap
  /-- logs that the spout has to replay -/
  failed : List String

/-- One attempt at a log whose user-count tuple goes to `task` and is failed
there when `fails` is set. `Mac2Redis` fails the tuple of a mac that it cannot
parse before it touches the server. -/
def State.attempt (transforms : Transforms) (s : State) (log : String) (task : Nat)
    (fails : Bool) : Option State :=
  match filterAll transforms log with
  | none => some s
  | some input =>
    match macLong transforms input.mac with
    | none => some { s with failed := s.failed ++ [log] }
    | some _ =>
      let ran := redis.runAlone s.servers Conn.fresh (checkMacAndHandle input)
      match ran.2.2 with
      | [.userCount ADD DEC] =>
        if fails = true then some { s with servers := ran.1, failed := s.failed ++ [log] }
        else
          match s.tasks[task]? with
          | some cacheMap =>
            match UserCount.mainTain cacheMap ADD DEC with
            | (cacheMap, .ack) =>
              some { s with servers := ran.1, tasks := s.tasks.set task cacheMap }
            | (cacheMap, .fail) =>
              some ⟨ran.1, s.tasks.set task cacheMap, s.failed ++ [log]⟩
          | none => none
      | _ => some { s with servers := ran.1 }

inductive Action where
  /-- the spout emits a new log -/
  | play (log : String) (task : Nat) (fails : Bool)
  /-- the spout emits a failed log again -/
  | replay (index task : Nat) (fails : Bool)
  /-- a tick lets a `UserCount` task flush its cache in the given order -/
  | tick (task : Nat) (order : List (String × Int32))

/-- The device of a log. -/
def device (transforms : Transforms) (log : String) : Option String :=
  (filterAll transforms log).map Tuple.mac

/-- One action, `none` when it is not possible. -/
def State.step (transforms : Transforms) (s : State) : Action → Option State
  | .play log task fails =>
    if s.failed.all (fun waiting => device transforms waiting != device transforms log) = true then
      s.attempt transforms log task fails
    else none
  | .replay index task fails =>
    match s.failed[index]? with
    | some log => { s with failed := s.failed.eraseIdx index }.attempt transforms log task fails
    | none => none
  | .tick task order =>
    match s.tasks[task]? with
    | some cacheMap =>
      if order.Perm (UserCount.entrySet cacheMap) then
        some { s with
          servers := (redis.runAlone s.servers Conn.fresh (UserCount.secondsToRedis order)).1
          tasks := s.tasks.set task ∅ }
      else none
    | none => none

/-- Empty servers and caches. -/
def State.init (tasks : Nat) : State :=
  ⟨⟨Store.empty, Store.empty⟩, List.replicate tasks ∅, []⟩

end Vod

end GitvTime.Source.Realtime
