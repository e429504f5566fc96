import GitvTime.Source.UserInfo.MacQueue
import GitvTime.Source.UserInfo.MysqlSync
import GitvTime.Source.UserInfo.PartnerList

/-!
# `Start_up.main` of userinfo-consumer-mysql

For each enabled partner `main` starts two timers on the partner's RabbitMQ queue
and submits a `QueueConsumer`, whose constructor asks `SynFactory` for the partner's
implementation. An exception of the constructor ends `main`; the threads of the
timers are no daemons and go on. The constructor's `session.prepare` is taken to
return.
-/
namespace GitvTime.Source.UserInfo.StartUp
open GitvTime.Source.UserInfo.MacQueue (Task)
open GitvTime.Source.RmConsumer (Partner)

/-- `ZkObserverUtils` reads the enabled partners as `RabbitMQ_Bolt` does: an
exception ends the loop, and what is in the list by then is returned. -/
def getCanUsePartnerList (content : Children) : List String :=
  (initLoop content content.keys []).1

/-- `SynFactory.factory`. -/
def factory (routingKey : String) : Option Partner :=
  [Partner.ahCmcc, .jsCmcc, .jsCmccCp].find? fun partner => partner.routingKey = routingKey

def getSynInstance (routingKey : String) : Except String Partner :=
  match factory routingKey with
  | none => .error "no this Partner imp!"
  | some synData => .ok synData

/-- A timer of its own with a task at a fixed rate. -/
structure TimerThread where
  task : Task
  queueName : String
  delay : Nat
  period : Nat

structure QueueConsumer where
  routingKey : String
  synInstance : Partner

/-- What runs in the process: the timers, and the tasks of the executor in the order
in which they were submitted. -/
structure Process where
  timers : List TimerThread
  submitted : List QueueConsumer

def Process.start : Process := ⟨[], []⟩

def DELAY_TIME : Nat := 10 * 60 * 1000
def PERIOD_TIME : Nat := 10 * 60 * 1000

/-- `Executors.newFixedThreadPool(3)`. -/
def THREADS : Nat := 3

/-- The consumers that have a thread: `run` never returns, so the first ones keep theirs. -/
def Process.consumers (process : Process) : List QueueConsumer := process.submitted.take THREADS

def Process.scheduleAtFixedRate (process : Process) (timer : TimerThread) : Process :=
  { process with timers := process.timers ++ [timer] }

def Process.submit (process : Process) (consumer : QueueConsumer) : Process :=
  { process with submitted := process.submitted ++ [consumer] }

/-- The constructor of `QueueConsumer`. -/
def newQueueConsumer (routingKey : String) : Except String QueueConsumer := do
  let synInstance ← getSynInstance routingKey
  return ⟨routingKey, synInstance⟩

/-- The two timers of a turn of the loop. -/
def Process.startTimers (process : Process) (routingKey : String) : Process :=
  (process.scheduleAtFixedRate ⟨.timeCondition, routingKey, DELAY_TIME, PERIOD_TIME⟩)
    |>.scheduleAtFixedRate ⟨.numCondition, routingKey, 0, 1000⟩

/-- The loop of `main`, with the exception that ended it. -/
def mainLoop (process : Process) : List String → Process × Option String
  | [] => (process, none)
  | routingKey :: rest =>
    let process := process.startTimers routingKey
    match newQueueConsumer routingKey with
    | .ok consumer => mainLoop (process.submit consumer) rest
    | .error exception => (process, some exception)

def main (content : Children) : Process × Option String :=
  mainLoop .start (getCanUsePartnerList content)

end GitvTime.Source.UserInfo.StartUp
