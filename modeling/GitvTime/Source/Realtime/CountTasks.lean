import GitvTime.Source.Realtime.LiveTopology

/-!
# The `UserCount` tasks on their own

The stream is seen from its receiving end: each tuple has been assigned to a
task, as the fields grouping does in one of many ways. A task is one thread, so
it takes a tuple or a tick only between two calls of `execute`; the INCRBYs of
different tasks interleave. `State` has any number of tasks and a server that
answers every call; `TaskState` is one task whose `incrBy` may throw.
-/
namespace GitvTime.Source.Realtime
open GitvTime.Support GitvTime.Source.StringHandle

/-- A channel and a partner as they stand in a log line. -/
structure Viewer where
  channel : String
  partner : String
  channel_free : BarFree channel
  partner_free : BarFree partner

/-- The text that `Mac2Redis` sends for them. -/
def Viewer.value (viewer : Viewer) : String := strJoin₂ viewer.channel viewer.partner

/-- A tuple of the user-count stream; a field is null when nobody comes or goes. -/
structure CountTuple where
  ADD : Option Viewer
  DEC : Option Viewer

namespace CountTasks

structure State where
  servers : Servers
  tasks : List CountTask

inductive Action where
  /-- a task takes a tuple -/
  | tuple (task : Nat) (input : CountTuple)
  /-- a tick starts `SecondsToRedis` in the given iteration order -/
  | tick (task : Nat) (order : List (String × Int32))
  /-- the flush of a task does its next INCRBY -/
  | push (task : Nat)

/-- One action, `none` when it is not possible. -/
def State.step (s : State) : Action → Option State
  | .tuple task input =>
    match s.tasks[task]? with
    | some ⟨cacheMap, none⟩ =>
      let booked := UserCount.mainTain cacheMap (input.ADD.map Viewer.value)
        (input.DEC.map Viewer.value)
      some { s with tasks := s.tasks.set task ⟨booked.1, none⟩ }
    | _ => none
  | .tick task order =>
    match s.tasks[task]? with
    | some ⟨cacheMap, none⟩ =>
      if order.Perm (UserCount.entrySet cacheMap) then
        some { s with tasks := s.tasks.set task
                                  (CountTask.settle cacheMap (UserCount.secondsToRedis order)) }
      else none
    | _ => none
  | .push task =>
    match s.tasks[task]? with
    | some ⟨cacheMap, some flush⟩ =>
      let outcome := redis.advance s.servers ⟨Conn.fresh, flush⟩
      some { s with servers := outcome.1,
                    tasks := s.tasks.set task (CountTask.settle cacheMap outcome.2.prog) }
    | _ => none

/-- Idle tasks with empty caches. -/
def State.start (servers : Servers) (tasks : Nat) : State :=
  ⟨servers, List.replicate tasks ⟨∅, none⟩⟩

/-- The tuples of a run, in the order in which they are taken. -/
def tuples (actions : List Action) : List CountTuple :=
  actions.filterMap fun
    | .tuple _ input => some input
    | _ => none

end CountTasks

/-! ### One task whose INCRBY may throw -/

namespace UserCount

/-- The loop of `SecondsToRedis` when the call of `incrBy` with the number
`throwsAt` throws, if there are that many: the calls that returned, and how the
loop ends. -/
def pushEntries (throwsAt : Option Nat) : Nat → List (String × Int32) →
    List (String × Int32) × Answer
  | _, [] => ([], .ack)
  | call, entry :: rest =>
    if throwsAt = some call then ([], .fail)
    else
      let later := pushEntries throwsAt (call + 1) rest
      (entry :: later.1, later.2)

/-- One task and the counters. `pushed` are the INCRBYs that the server has done
for the task, the first one first. -/
structure TaskState where
  comp : Counters
  cacheMap : CacheMap
  pushed : List (String × Int32)

/-- What reaches `execute`. -/
inductive Input where
  | tuple (ADD DEC : Option String)
  | tick (order : List (String × Int32)) (throwsAt : Option Nat)

/-- `execute`: the state after it and the answer, `none` for an iteration order
that the map does not have. The map is cleared only when the loop has ended. -/
def TaskState.execute (s : TaskState) : Input → Option (TaskState × Answer)
  | .tuple ADD DEC =>
    let booked := mainTain s.cacheMap ADD DEC
    some ({ s with cacheMap := booked.1 }, booked.2)
  | .tick order throwsAt =>
    if order.Perm (entrySet s.cacheMap) then
      let calls := pushEntries throwsAt 0 order
      some ({ comp := calls.1.foldl (fun db entry => incrCounter db entry.1 entry.2.toInt) s.comp
              cacheMap := if calls.2 = .ack then ∅ else s.cacheMap
              pushed := s.pushed ++ calls.1 }, calls.2)
    else none

end UserCount

end GitvTime.Source.Realtime
