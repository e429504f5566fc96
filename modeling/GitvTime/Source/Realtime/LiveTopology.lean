import GitvTime.Source.Realtime.TriggerTask
import GitvTime.Source.Realtime.UserCount

/-!
# The live topology around the two servers

Any number of `Mac2Redis` executions and of `TriggerTask`s run at once, each
doing one Redis command at a time; expired markers are notified and each
notification is handed to a new `TriggerTask`; the tuples on the user-count
stream wait in flight until some `UserCount` task takes them; a tick starts a
flush, which sends its INCRBYs one at a time while its task takes no tuple.
Nothing fails and no tuple or notification is lost.

An expiry may or may not count as a modification of the marker (it does not
before Redis 6.0.9); a run may do either. The tuples of the an-record stream go
to a third server and are dropped here, like the log lines.
-/
namespace GitvTime.Source.Realtime
open GitvTime.Support GitvTime.Source.StringHandle

/-- A tuple that reaches the session machine: `execute` has parsed its address
as a hexadecimal number, and the columns of a log line are separator-free. -/
structure PlayEvent extends Live.Tuple where
  mac_free : BarFree mac
  channelCode_free : BarFree channelCode
  partner_free : BarFree partner

inductive Owner where
  | mac2Redis (event : PlayEvent)
  | triggerTask (mac : String)

structure Process where
  owner : Owner
  client : RedisClient (List Output)

def Process.ofEvent (event : PlayEvent) : Process :=
  ⟨.mac2Redis event, Conn.fresh, Live.checkMacAndHandle event.toTuple⟩

def Process.ofNotification (mac : String) : Process :=
  ⟨.triggerTask mac, Conn.fresh, TriggerTask.run mac⟩

/-- A `UserCount` task: its cache and, during `SecondsToRedis`, the rest of the
loop. -/
structure CountTask where
  cacheMap : CacheMap
  flush : Option (RedisProg Unit)

structure State where
  servers : Servers
  expired : List String
  running : List Process
  inFlight : List (Option String × Option String)
  tasks : List CountTask

inductive Action where
  /-- a tuple reaches `Mac2Redis` -/
  | event (event : PlayEvent)
  /-- a key with a time to live expires and is notified -/
  | expire (key : String) (modifies : Bool)
  /-- `onPMessage` hands a notification to a new `TriggerTask` -/
  | deliver (index : Nat)
  /-- a running program does its next Redis command -/
  | run (index : Nat)
  /-- a `UserCount` task takes a tuple -/
  | tuple (index task : Nat)
  /-- a tick starts `SecondsToRedis` in the given iteration order -/
  | tick (task : Nat) (order : List (String × Int32))
  /-- the flush of a task does its next INCRBY -/
  | push (task : Nat)

/-- The user-count tuples among what a program sent. -/
def userCountTuples (outputs : List Output) : List (Option String × Option String) :=
  outputs.filterMap fun
    | .userCount ADD DEC => some (ADD, DEC)
    | _ => none

/-- After a command of process `index`: a finished program has sent its tuples
and is gone. -/
def State.settle (s : State) (index : Nat) (owner : Owner) (servers : Servers)
    (client : RedisClient (List Output)) : State :=
  match client.prog with
  | .done outputs =>
    { s with servers, running := s.running.eraseIdx index,
             inFlight := s.inFlight ++ userCountTuples outputs }
  | .call _ _ => { s with servers, running := s.running.set index ⟨owner, client⟩ }

/-- After an INCRBY of a flush; the map is cleared at the end of the loop. -/
def CountTask.settle (cacheMap : CacheMap) (rest : RedisProg Unit) : CountTask :=
  match rest with
  | .done _ => ⟨∅, none⟩
  | .call _ _ => ⟨cacheMap, some rest⟩

/-- One action, `none` when it is not possible. -/
def State.step (s : State) : Action → Option State
  | .event event => some { s with running := s.running ++ [Process.ofEvent event] }
  | .expire key modifies =>
    match s.servers.mac.value key with
    | some ⟨_, some _⟩ =>
      some { s with servers := { s.servers with mac := s.servers.mac.lapse key modifies },
                    expired := s.expired ++ [key] }
    | _ => none
  | .deliver index =>
    match s.expired[index]? with
    | some mac => some { s with expired := s.expired.eraseIdx index,
                                running := s.running ++ [Process.ofNotification mac] }
    | none => none
  | .run index =>
    match s.running[index]? with
    | some process =>
      let outcome := redis.advance s.servers process.client
      some (s.settle index process.owner outcome.1 outcome.2)
    | none => none
  | .tuple index task =>
    match s.inFlight[index]?, s.tasks[task]? with
    | some (ADD, DEC), some ⟨cacheMap, none⟩ =>
      match UserCount.mainTain cacheMap ADD DEC with
      | (cacheMap, .ack) => some { s with inFlight := s.inFlight.eraseIdx index,
                                          tasks := s.tasks.set task ⟨cacheMap, none⟩ }
      | (_, .fail) => none
    | _, _ => none
  | .tick task order =>
    match s.tasks[task]? with
    | some ⟨cacheMap, none⟩ =>
      if order.Perm (UserCount.entrySet cacheMap) then
        some { s with tasks := s.tasks.set task
                                  (CountTask.settle cacheMap (UserCount.secondsToRedis order)) }
      else none
    | _ => none
  | .push task =>
    match s.tasks[task]? with
    | some ⟨cacheMap, some flush⟩ =>
      let outcome := redis.advance s.servers ⟨Conn.fresh, flush⟩
      some { s with servers := outcome.1,
                    tasks := s.tasks.set task (CountTask.settle cacheMap outcome.2.prog) }
    | _ => none

/-- Empty servers and idle tasks. -/
def State.init (tasks : Nat) : State :=
  ⟨⟨Store.empty, Store.empty⟩, [], [], [], List.replicate tasks ⟨∅, none⟩⟩

end GitvTime.Source.Realtime
