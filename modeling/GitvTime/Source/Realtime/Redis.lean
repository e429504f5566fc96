import GitvTime.Support.ClientProgram
import GitvTime.Support.OptimisticStore

/-!
# The two Redis servers of the realtime modules

`mac` is the session server: for every device the marker key `mac` with a time
to live and the key `mac|cp` without one. A device is hashed to one of several
instances, both of its keys to the same one, so the instances are one keyspace
here. `comp` is the counter server. A client has a connection to each.

WATCH records modification counts and EXEC goes through iff none has changed
(jedis then returns a non-empty list, otherwise null or an empty one). SET, a
DEL or EXPIRE of an existing key and INCRBY modify their key; a DEL or EXPIRE of
a missing key does not. MULTI and the queueing of commands touch nothing on the
server, so a transaction is one step, its EXEC.
-/
namespace GitvTime.Source.Realtime
open GitvTime.Support

structure Entry where
  value : String
  ttl : Option Nat
  deriving DecidableEq, Repr

/-- Entries that may expire. -/
def Entry.Timed (entry : Entry) : Prop := entry.ttl.isSome = true

abbrev Keyspace := Store String Entry
abbrev Counters := Store String Int

structure Servers where
  mac : Keyspace
  comp : Counters

/-- A command queued between MULTI and EXEC on the session server. -/
inductive Write where
  | set (key value : String)
  | expire (key : String) (seconds : Nat)
  | del (key : String)
  deriving DecidableEq, Repr

/-- EXPIRE: restart the time to live of an existing key. -/
def expireKey (db : Keyspace) (key : String) (seconds : Nat) : Keyspace :=
  match db.value key with
  | some entry => db.write key (some { entry with ttl := some seconds })
  | none => db

def delKey (db : Keyspace) (key : String) : Keyspace :=
  if (db.value key).isSome then db.write key none else db

def Write.apply (db : Keyspace) : Write → Keyspace
  | .set key value => db.write key (some ⟨value, none⟩)
  | .expire key seconds => expireKey db key seconds
  | .del key => delKey db key

/-- INCRBY: a missing counter counts from zero. -/
def incrCounter (db : Counters) (key : String) (delta : Int) : Counters :=
  db.write key (some ((db.value key).getD 0 + delta))

inductive Command where
  | watch (keys : List String)
  | get (key : String)
  | expire (key : String) (seconds : Nat)
  | exec (queue : List Write)
  | incrBy (key : String) (delta : Int)
  | compWatch (keys : List String)
  | compGet (key : String)
  | compExec (queue : List (String × Int))

/-- The part of each reply that the programs look at. -/
@[reducible] def Command.Reply : Command → Type
  | .watch _ => Unit
  | .get _ => Option String
  | .expire _ _ => Unit
  | .exec _ => Bool
  | .incrBy _ _ => Unit
  | .compWatch _ => Unit
  | .compGet _ => Option Int
  | .compExec _ => Bool

/-- What the two connections of a client are watching. -/
structure Conn where
  macWatch : Watch String
  compWatch : Watch String

def Conn.fresh : Conn := ⟨[], []⟩

/-- EXEC on the session server. -/
def runExec (queue : List Write) (s : Servers) (conn : Conn) : Servers × Conn × Bool :=
  if s.mac.unmodified conn.macWatch = true then
    ({ s with mac := queue.foldl Write.apply s.mac }, { conn with macWatch := [] }, true)
  else (s, { conn with macWatch := [] }, false)

/-- EXEC on the counter server. -/
def runCompExec (queue : List (String × Int)) (s : Servers) (conn : Conn) :
    Servers × Conn × Bool :=
  if s.comp.unmodified conn.compWatch = true then
    ({ s with comp := queue.foldl (fun db entry => incrCounter db entry.1 entry.2) s.comp },
      { conn with compWatch := [] }, true)
  else (s, { conn with compWatch := [] }, false)

/-- EXEC answers whether the watch was good. -/
@[simp] theorem runExec_reply (queue : List Write) (s : Servers) (conn : Conn) :
    (runExec queue s conn).2.2 = s.mac.unmodified conn.macWatch := by
  unfold runExec
  split <;> simp [*]

@[simp] theorem runCompExec_reply (queue : List (String × Int)) (s : Servers) (conn : Conn) :
    (runCompExec queue s conn).2.2 = s.comp.unmodified conn.compWatch := by
  unfold runCompExec
  split <;> simp [*]

def perform (command : Command) (s : Servers) (conn : Conn) :
    Servers × Conn × command.Reply :=
  match command with
  | .watch keys => (s, { conn with macWatch := conn.macWatch ++ s.mac.watch keys }, ())
  | .get key => (s, conn, (s.mac.value key).map Entry.value)
  | .expire key seconds => ({ s with mac := expireKey s.mac key seconds }, conn, ())
  | .exec queue => runExec queue s conn
  | .incrBy key delta => ({ s with comp := incrCounter s.comp key delta }, conn, ())
  | .compWatch keys => (s, { conn with compWatch := conn.compWatch ++ s.comp.watch keys }, ())
  | .compGet key => (s, conn, s.comp.value key)
  | .compExec queue => runCompExec queue s conn

def redis : Server Command Command.Reply Servers Conn := ⟨perform⟩

abbrev RedisProg := Prog Command Command.Reply
abbrev RedisClient (α : Type) := Client Command Command.Reply Conn α

def watch (keys : List String) : RedisProg Unit := .command (Command.watch keys)
def get (key : String) : RedisProg (Option String) := .command (Command.get key)
def expire (key : String) (seconds : Nat) : RedisProg Unit :=
  .command (Command.expire key seconds)
def exec (queue : List Write) : RedisProg Bool := .command (Command.exec queue)
def incrBy (key : String) (delta : Int) : RedisProg Unit := .command (Command.incrBy key delta)
def decr (key : String) : RedisProg Unit := incrBy key (-1)
def compWatch (keys : List String) : RedisProg Unit := .command (Command.compWatch keys)
def compGet (key : String) : RedisProg (Option Int) := .command (Command.compGet key)
def compExec (queue : List (String × Int)) : RedisProg Bool := .command (Command.compExec queue)

/-! ### Effect of the session commands on single keys -/

@[simp] theorem expireKey_value_self (db : Keyspace) (key : String) (seconds : Nat) :
    (expireKey db key seconds).value key =
      (db.value key).map fun entry => { entry with ttl := some seconds } := by
  unfold expireKey
  cases present : db.value key <;> simp [present]

theorem expireKey_value_ne (db : Keyspace) {key other : String} (seconds : Nat)
    (different : other ≠ key) : (expireKey db key seconds).value other = db.value other := by
  unfold expireKey
  split
  · exact db.write_value_ne _ different
  · rfl

theorem expireKey_version_ne (db : Keyspace) {key other : String} (seconds : Nat)
    (different : other ≠ key) : (expireKey db key seconds).version other = db.version other := by
  unfold expireKey
  split
  · exact db.write_version_ne _ different
  · rfl

@[simp] theorem delKey_value_self (db : Keyspace) (key : String) :
    (delKey db key).value key = none := by
  unfold delKey
  cases present : db.value key <;> simp [present]

theorem delKey_value_ne (db : Keyspace) {key other : String} (different : other ≠ key) :
    (delKey db key).value other = db.value other := by
  unfold delKey
  split
  · exact db.write_value_ne _ different
  · rfl

theorem delKey_version_ne (db : Keyspace) {key other : String} (different : other ≠ key) :
    (delKey db key).version other = db.version other := by
  unfold delKey
  split
  · exact db.write_version_ne _ different
  · rfl

/-- Deleting a missing key is no modification. -/
theorem delKey_of_none {db : Keyspace} {key : String} (absent : db.value key = none) :
    delKey db key = db := by
  simp [delKey, absent]

theorem expireKey_of_none {db : Keyspace} {key : String} (absent : db.value key = none)
    (seconds : Nat) : expireKey db key seconds = db := by
  simp [expireKey, absent]

theorem evolves_expireKey (db : Keyspace) (key : String) (seconds : Nat) :
    Store.Evolves Entry.Timed db (expireKey db key seconds) := by
  unfold expireKey
  split
  · exact .write _ _ _
  · exact .refl _

theorem evolves_delKey (db : Keyspace) (key : String) :
    Store.Evolves Entry.Timed db (delKey db key) := by
  unfold delKey
  split
  · exact .write _ _ _
  · exact .refl _

theorem evolves_apply (db : Keyspace) (write : Write) :
    Store.Evolves Entry.Timed db (write.apply db) := by
  cases write with
  | set key value => exact .write _ _ _
  | expire key seconds => exact evolves_expireKey db key seconds
  | del key => exact evolves_delKey db key

theorem evolves_queue (queue : List Write) (db : Keyspace) :
    Store.Evolves Entry.Timed db (queue.foldl Write.apply db) := by
  induction queue generalizing db with
  | nil => exact .refl _
  | cons write rest ih => exact (evolves_apply db write).trans (ih _)

end GitvTime.Source.Realtime
