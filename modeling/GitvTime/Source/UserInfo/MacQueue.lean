import GitvTime.Support.BoundedQueue
import GitvTime.Support.Runs

/-!
# The mac queue of one partner

`Start_up` gives each partner a `LinkedBlockingQueue` of 5000, two timers that
move macs from the partner's RabbitMQ queue into it, and a consumer. Each timer
runs its task on a thread of its own, one run after the other. Between two calls
of RabbitMQ or of the queue a thread touches nothing that is shared, so a step is
one such call. `messageCount` answers any number: messages may come and go before
the loop gets to them. Messages are taken with automatic acknowledgement.

A call of RabbitMQ may throw, which ends the run of the task. Nothing interrupts
a thread that waits.
-/
namespace GitvTime.Source.UserInfo.MacQueue
open GitvTime.Support

def CAPACITY : Nat := 5000
def LIMIT_NUM : Int := 500

/-- The two timer tasks. -/
inductive Task where
  | timeCondition
  | numCondition
  deriving DecidableEq, Repr

/-- `NumConditionTask` works on more than `LIMIT_NUM` messages, `TimeConditionTask`
on any. -/
def Task.starts (num : Int) : Task → Bool
  | .timeCondition => num != 0
  | .numCondition => decide (LIMIT_NUM < num)

/-- Where a timer thread is in `run`. -/
inductive Thread where
  /-- before `messageCount`, or waiting for its next run -/
  | idle
  /-- at the head of the loop -/
  | loop (i num : Int)
  /-- with a message, before `offer` -/
  | offering (mac : String) (i num : Int)
  /-- in the blocking `put` after a refused offer -/
  | putting (mac : String)
  deriving DecidableEq, Repr

/-- The mac in the thread's hand. -/
def Thread.inHand : Thread → Option String
  | .idle | .loop _ _ => none
  | .offering mac _ _ | .putting mac => some mac

/-- `i++` on an `int`. -/
def increment (i : Int) : Int := (i + 1).bmod (2 ^ 32)

structure State where
  /-- the messages in the RabbitMQ queue -/
  rabbit : List String
  syncQueue : BoundedQueue String CAPACITY
  timeThread : Thread
  numThread : Thread
  /-- the mac the consumer works on -/
  consuming : Option String
  /-- what has been published, taken from RabbitMQ and handed to the consumer -/
  published : List String
  taken : List String
  handed : List String

def State.thread (s : State) : Task → Thread
  | .timeCondition => s.timeThread
  | .numCondition => s.numThread

def State.setThread (s : State) (thread : Thread) : Task → State
  | .timeCondition => { s with timeThread := thread }
  | .numCondition => { s with numThread := thread }

inductive Action where
  /-- somebody publishes a mac -/
  | publish (mac : String)
  /-- `channel.messageCount` answers a number -/
  | messageCount (task : Task) (num : Int)
  /-- the loop test and `channel.basicGet` -/
  | basicGet (task : Task)
  /-- `basicGet` throws -/
  | basicGetThrows (task : Task)
  | offer (task : Task)
  | put (task : Task)
  /-- the consumer polls -/
  | poll
  /-- the consumer is done with its mac, in whatever way -/
  | consumed

/-- One action, `none` when the thread is elsewhere or has to wait. -/
def State.step (s : State) : Action → Option State
  | .publish mac => some { s with rabbit := s.rabbit ++ [mac], published := s.published ++ [mac] }
  | .messageCount task num =>
    match s.thread task with
    | .idle => some (s.setThread (if task.starts num then .loop 0 num else .idle) task)
    | _ => none
  | .basicGet task =>
    match s.thread task with
    | .loop i num =>
      if i < num then
        match s.rabbit with
        | [] => some (s.setThread .idle task)
        | content :: rest =>
          some ({ s with rabbit := rest, taken := s.taken ++ [content] }.setThread
            (.offering content i num) task)
      else some (s.setThread .idle task)
    | _ => none
  | .basicGetThrows task =>
    match s.thread task with
    | .loop _ _ => some (s.setThread .idle task)
    | _ => none
  | .offer task =>
    match s.thread task with
    | .offering content i num =>
      match s.syncQueue.offer content with
      | some syncQueue =>
        some ({ s with syncQueue := syncQueue }.setThread (.loop (increment i) num) task)
      | none => some (s.setThread (.putting content) task)
    | _ => none
  | .put task =>
    match s.thread task with
    | .putting content =>
      (s.syncQueue.offer content).map fun syncQueue =>
        { s with syncQueue := syncQueue }.setThread .idle task
    | _ => none
  | .poll =>
    match s.consuming with
    | some _ => none
    | none =>
      match s.syncQueue.poll with
      | some (mac, syncQueue) =>
        some { s with syncQueue := syncQueue, consuming := some mac, handed := s.handed ++ [mac] }
      | none => some s
  | .consumed => s.consuming.map fun _ => { s with consuming := none }

/-- The start, with messages waiting in RabbitMQ. -/
def State.start (messages : List String) : State where
  rabbit := messages
  syncQueue := .empty
  timeThread := .idle
  numThread := .idle
  consuming := none
  published := messages
  taken := []
  handed := []

end GitvTime.Source.UserInfo.MacQueue
