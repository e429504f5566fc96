import Mathlib.Algebra.Ring.Int.Defs
import Mathlib.Algebra.Ring.Nat
import Mathlib.Data.List.Basic

/-!
# The thread pool of the RPC server

`RpcCustomizedThreadPool.getCustomizedExecutor`, a `ThreadPoolExecutor` of as many core
threads as it has at most, with the queue of `createBlockingQueue` and the policies of
`thpool/policyimp`. It is not shut down while it serves, and no task is a
`RejectedRunnable`.
-/
namespace GitvTime.Source.Rpc

inductive WorkQueueType where
  | linkedBlockingQueue
  | arrayBlockingQueue
  | synchronousQueue
deriving DecidableEq

inductive RejectedPolicyType where
  | abortPolicy
  | wait4Policy
  | callerRunsPolicy
  | discardedPolicy
  | buyTicketPolicy
deriving DecidableEq

/-- `createBlockingQueue`: how many tasks the queue holds, `none` where its constructor
throws. `parallel` is `RpcSystemConfig.PARALLEL`. -/
def createBlockingQueue (queueType : WorkQueueType) (parallel : Nat) (queues : Int) :
    Option Nat :=
  match queueType with
  | .linkedBlockingQueue => some (2 ^ 31 - 1)
  | .arrayBlockingQueue =>
    if parallel * queues < 1 then none else some (parallel * queues).toNat
  | .synchronousQueue => some 0

/-- What `getCustomizedExecutor` sets. -/
structure PoolSettings where
  poolSize : Nat
  queueType : WorkQueueType
  capacity : Nat
  policy : RejectedPolicyType

/-- The tasks that workers run, the queue, how many workers are behind a task, how many are
inside `take`, and the tasks that wait in `put`, each of them in a thread of its own. -/
structure Pool (τ : Type) where
  running : List τ
  queue : List τ
  returning : Nat
  waiting : Nat
  putting : List τ

/-- How `execute` ends. -/
inductive Verdict where
  | goesOn
  | throws
  | callerRuns
deriving DecidableEq

namespace Pool

variable {τ : Type} (settings : PoolSettings)

def create : Pool τ := ⟨[], [], 0, 0, []⟩

def workers (p : Pool τ) : Nat := p.running.length + p.returning + p.waiting

/-- All tasks of the pool. -/
def tasks (p : Pool τ) : List τ := p.running ++ p.queue ++ p.putting

/-- `offer`; a `SynchronousQueue` needs a worker inside `take`. -/
def offer (task : τ) (p : Pool τ) : Option (Pool τ) :=
  if settings.queueType = .synchronousQueue then
    if 0 < p.waiting then
      some { p with running := p.running ++ [task], waiting := p.waiting - 1 }
    else none
  else if p.queue.length < settings.capacity then some { p with queue := p.queue ++ [task] }
  else none

/-- `put`, which waits where `offer` fails. -/
def put (task : τ) (p : Pool τ) : Pool τ :=
  (p.offer settings task).getD { p with putting := p.putting ++ [task] }

/-- `poll`, `queue.size() >> 1` times. -/
def discard (p : Pool τ) : Pool τ := { p with queue := p.queue.drop (p.queue.length / 2) }

def rejectedExecution (task : τ) (p : Pool τ) : Pool τ × Verdict :=
  match settings.policy with
  | .abortPolicy => (p, .throws)
  | .wait4Policy => (p.put settings task, .goesOn)
  | .callerRunsPolicy => (p, .callerRuns)
  | .discardedPolicy => ((p.discard.offer settings task).getD p.discard, .goesOn)
  | .buyTicketPolicy => (p.discard.put settings task, .goesOn)

/-- `ThreadPoolExecutor.execute`. -/
def execute (task : τ) (p : Pool τ) : Pool τ × Verdict :=
  if p.workers < settings.poolSize then ({ p with running := p.running ++ [task] }, .goesOn)
  else
    match p.offer settings task with
    | some accepted => (accepted, .goesOn)
    | none => p.rejectedExecution settings task

end Pool

/-- What the workers do: one of them takes a task from the queue or from a `put`, waits, or
is done; a `put` finds room. -/
inductive Work where
  | take (waiting : Bool)
  | handOff (index : Nat)
  | await
  | finish (index : Nat)
  | enqueue (index : Nat)
deriving DecidableEq

namespace Pool

variable {τ : Type}

/-- A step of the pool, and the task that is done. -/
def work (settings : PoolSettings) (p : Pool τ) : Work → Option (Pool τ × Option τ)
  | .take waiting =>
    match p.queue with
    | [] => none
    | task :: rest =>
      if waiting then
        if 0 < p.waiting then
          some ({ p with
            running := p.running ++ [task], queue := rest, waiting := p.waiting - 1 }, none)
        else none
      else if 0 < p.returning then
        some ({ p with
          running := p.running ++ [task], queue := rest, returning := p.returning - 1 }, none)
      else none
  | .handOff index =>
    if settings.queueType = .synchronousQueue ∧ 0 < p.returning then
      p.putting[index]?.map fun task => ({ p with
        running := p.running ++ [task]
        putting := p.putting.eraseIdx index
        returning := p.returning - 1 }, none)
    else none
  | .await =>
    if 0 < p.returning ∧ p.queue = [] ∧
        (settings.queueType = .synchronousQueue → p.putting = []) then
      some ({ p with returning := p.returning - 1, waiting := p.waiting + 1 }, none)
    else none
  | .finish index =>
    p.running[index]?.map fun task => ({ p with
      running := p.running.eraseIdx index, returning := p.returning + 1 }, some task)
  | .enqueue index =>
    if settings.queueType ≠ .synchronousQueue ∧ p.queue.length < settings.capacity then
      p.putting[index]?.map fun task => ({ p with
        queue := p.queue ++ [task], putting := p.putting.eraseIdx index }, none)
    else none

end Pool

end GitvTime.Source.Rpc
