import GitvTime.Source.Realtime.Redis
import GitvTime.Source.StringHandle

/-!
# `Mac2Redis.checkMacAndHandle`, live and on demand

The two bolts are two copies of one session machine. They differ in the tuple
fields they read, in the streams they emit to and in one log text, which are the
fields of `SessionBolt`; `Live.sessionBolt` and `Vod.sessionBolt` are the two
copies. The program ends with what it sent downstream and logged; `execute` acks
the tuple afterwards in every case, an aborted transaction included.

`execute` first parses the device address as a hexadecimal number, so an address
with a `|` never reaches the machine. Closing the connection gives up its watch.
-/
namespace GitvTime.Source.Realtime
open GitvTime.Source.StringHandle

def TIME_TTL : Nat := 11 * 60
def AN_PASS : String := "pass"
def AN_USE : String := "use"

/-- What one execution sends or logs. -/
inductive Output where
  | userCount (ADD DEC : Option String)
  | anRecord (NEW OLD : Option String)
  | warn (message : String)
  deriving DecidableEq, Repr

/-- `StringHandle.str_split(content).get(0)`; a split is never empty. -/
def piece0 (content : String) : String :=
  (strSplit content).head (strSplit_ne_nil content)

/-- One execution of the session machine: the tuple fields it uses and what it
emits when the transaction of a branch has gone through. -/
structure SessionBolt where
  mac : String
  pt : String
  channelPartner : String
  onPlay : Option String → List Output
  onStop : String → List Output
  onRevive : List Output
  /-- the log text of an aborted switch -/
  onDisturbedSwitch : String

namespace SessionBolt

variable (bolt : SessionBolt)

def macCopy : String := strJoin₂ bolt.mac "cp"

def disturbed : String := "transaction is disturbed,and mac is " ++ bolt.mac

/-- The transaction of a start, a switch or a revival. -/
def setSession : List Write :=
  [.set bolt.mac "0", .expire bolt.mac TIME_TTL, .set bolt.macCopy bolt.channelPartner]

/-- The transaction of a stop. -/
def delSession : List Write := [.del bolt.macCopy, .del bolt.mac]

/-- case "0": start of a play, or a switch when a session is stored. -/
def play (macCopyV0 : Option String) : RedisProg (List Output) :=
  if isBlank macCopyV0 = false then do
    let oldChannel := piece0 (macCopyV0.getD "")
    let committed ← exec bolt.setSession
    pure (if committed then bolt.onPlay (some oldChannel) else [.warn bolt.onDisturbedSwitch])
  else do
    let committed ← exec bolt.setSession
    pure (if committed then bolt.onPlay none else [.warn bolt.disturbed])

/-- case "1", case "2": end of a play. -/
def stop (macCopyV1 : Option String) : RedisProg (List Output) :=
  if isBlank macCopyV1 = true then pure []
  else do
    let oldChannel := piece0 (macCopyV1.getD "")
    let committed ← exec bolt.delSession
    pure (if committed then bolt.onStop oldChannel else [.warn bolt.disturbed])

/-- case "5": a heartbeat prolongs a stored session and revives a missing one. -/
def heartbeat (macCopyV5 : Option String) : RedisProg (List Output) :=
  if isBlank macCopyV5 = false then do
    expire bolt.mac TIME_TTL
    pure []
  else do
    let committed ← exec bolt.setSession
    pure (if committed then bolt.onRevive else [.warn bolt.disturbed])

/-- The switch over `pt` after the keys are watched. -/
def handle : RedisProg (List Output) :=
  if bolt.pt = "0" then do bolt.play (← get bolt.macCopy)
  else if bolt.pt = "1" ∨ bolt.pt = "2" then do bolt.stop (← get bolt.macCopy)
  else if bolt.pt = "5" then do bolt.heartbeat (← get bolt.macCopy)
  else pure []

def checkMacAndHandle : RedisProg (List Output) := do
  watch [bolt.mac, bolt.macCopy]
  bolt.handle

end SessionBolt

namespace Live

/-- The tuple of `filter_bolt` in the live topology. -/
structure Tuple where
  partner : String
  mac : String
  an : String
  pt : String
  vt : String
  channelCode : String
  deriving DecidableEq, Repr

def anFlag (input : Tuple) : String := if input.vt = "3" then AN_USE else AN_PASS

def sessionBolt (input : Tuple) : SessionBolt where
  mac := input.mac
  pt := input.pt
  channelPartner := strJoin₂ input.channelCode input.partner
  onPlay
    | some oldChannel =>
      [.userCount (some (strJoin₂ input.channelCode input.partner))
          (some (strJoin₂ oldChannel input.partner)),
        .anRecord (some (strJoin [input.channelCode, input.an, anFlag input, input.partner]))
          (some (strJoin [oldChannel, input.an, AN_PASS, input.partner]))]
    | none =>
      [.userCount (some (strJoin₂ input.channelCode input.partner)) none,
        .anRecord (some (strJoin [input.channelCode, input.an, anFlag input, input.partner])) none]
  onStop oldChannel :=
    [.userCount none (some (strJoin₂ oldChannel input.partner)),
      .anRecord none (some (strJoin [oldChannel, input.an, AN_PASS, input.partner]))]
  onRevive :=
    [.userCount (some (strJoin₂ input.channelCode input.partner)) none,
      .anRecord (some (strJoin [input.channelCode, input.an, AN_PASS, input.partner])) none]
  onDisturbedSwitch :=
    "transaction is disturbed,and mac is " ++ input.mac ++ ",try again..."

def checkMacAndHandle (input : Tuple) : RedisProg (List Output) :=
  (sessionBolt input).checkMacAndHandle

@[simp] theorem sessionBolt_mac (input : Tuple) : (sessionBolt input).mac = input.mac := rfl

@[simp] theorem sessionBolt_channelPartner (input : Tuple) :
    (sessionBolt input).channelPartner = strJoin₂ input.channelCode input.partner := rfl

end Live

namespace Vod

/-- The tuple of `filter_bolt` in the on-demand topology. -/
structure Tuple where
  partner : String
  mac : String
  pt : String
  channelName : String
  deriving DecidableEq, Repr

def sessionBolt (input : Tuple) : SessionBolt where
  mac := input.mac
  pt := input.pt
  channelPartner := strJoin₂ input.channelName input.partner
  onPlay
    | some oldChannel =>
      [.userCount (some (strJoin₂ input.channelName input.partner))
        (some (strJoin₂ oldChannel input.partner))]
    | none => [.userCount (some (strJoin₂ input.channelName input.partner)) none]
  onStop oldChannel := [.userCount none (some (strJoin₂ oldChannel input.partner))]
  onRevive := [.userCount (some (strJoin₂ input.channelName input.partner)) none]
  onDisturbedSwitch := "transaction is disturbed,and mac is " ++ input.mac

def checkMacAndHandle (input : Tuple) : RedisProg (List Output) :=
  (sessionBolt input).checkMacAndHandle

@[simp] theorem sessionBolt_mac (input : Tuple) : (sessionBolt input).mac = input.mac := rfl

@[simp] theorem sessionBolt_channelPartner (input : Tuple) :
    (sessionBolt input).channelPartner = strJoin₂ input.channelName input.partner := rfl

end Vod

end GitvTime.Source.Realtime
