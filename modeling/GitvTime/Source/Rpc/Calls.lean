import GitvTime.Source.Rpc.MessageDecoder
import GitvTime.Source.Rpc.ThreadPool
import GitvTime.Support.LinkedMap

/-!
# Remote calls

A client of the RPC and its server: `MessageSendProxy`, `MessageSendHandler` and
`MessageCallBack` on one side, `MessageRecHandler`, `MessageRecExecutor.submit` and
`MessageRecInitializeTask` on the other, one channel between them. The threads take turns
in any order. Other clients share the thread pool; a task of theirs is `none`. What a
service answers, and when a caller stops to wait, is open.
-/
namespace GitvTime.Source.Rpc
open GitvTime.Support

/-- `ν` are the objects other than `null`. -/
structure MessageRequest (ν : Type) where
  messageId : String
  className : String
  methodName : String
  typeParameters : List String
  parametersVal : List (Option ν)
deriving DecidableEq

structure MessageResponse (ν : Type) where
  messageId : String
  error : Option String
  resultDesc : Option ν
deriving DecidableEq

/-- A `MessageCallBack`, and what its `start` returned, once it has. -/
structure MessageCallBack (ν : Type) where
  request : MessageRequest ν
  response : Option (MessageResponse ν)
  returned : Option (Option ν)

/-- What `reflect` comes to: a result or what it throws, as text. -/
abbrev Outcome (ν : Type) := Except String (Option ν)

/-- `MessageRecInitializeTask.call`. -/
def MessageRequest.call {ν : Type} (request : MessageRequest ν) : Outcome ν → MessageResponse ν
  | .ok result => ⟨request.messageId, none, result⟩
  | .error thrown => ⟨request.messageId, some thrown, none⟩

/-- `channel.writeAndFlush`, which fails with the message if it cannot be encoded. -/
def writeAndFlush {μ : Type} (util : MessageCodecUtil μ) (message : μ) (c : Channel UInt8 μ) :
    Channel UInt8 μ :=
  match util.encode message with
  | some bytes => c.write bytes
  | none => c

/-- The configuration of both sides; `randomUUID` is the id of the n-th call. -/
structure RpcSettings (ν : Type) where
  queueType : WorkQueueType
  policy : RejectedPolicyType
  parallel : Nat
  requests : MessageCodecUtil (MessageRequest ν)
  responses : MessageCodecUtil (MessageResponse ν)
  randomUUID : Nat → String

def threadNums : Nat := 16

def queueNums : Int := -1

/-- The callbacks in the order of the calls, `mapCallBack` with their numbers, the requests
that wait for their `writeAndFlush`, the pool once there is one, and all executions. -/
structure World (ν : Type) where
  callBacks : List (MessageCallBack ν)
  mapCallBack : LinkedMap String Nat
  unwritten : List (MessageRequest ν)
  toServer : Channel UInt8 (MessageRequest ν)
  pool : Option (Pool (Option (MessageRequest ν)))
  toClient : Channel UInt8 (MessageResponse ν)
  executed : List (MessageRequest ν × Outcome ν)

namespace World

variable {ν : Type} (settings : RpcSettings ν)

def init : World ν := ⟨[], .empty, [], .create, none, .create, []⟩

/-- `handleInvocation` up to the `put` of `sendRequest`. -/
def sendRequest (className methodName : String) (typeParameters : List String)
    (args : List (Option ν)) (w : World ν) : World ν :=
  let request : MessageRequest ν :=
    ⟨settings.randomUUID w.callBacks.length, className, methodName, typeParameters, args⟩
  { w with
    callBacks := w.callBacks ++ [⟨request, none, none⟩]
    mapCallBack := w.mapCallBack.put request.messageId w.callBacks.length
    unwritten := w.unwritten ++ [request] }

/-- The `writeAndFlush` of `sendRequest`. -/
def writeRequest (index : Nat) (w : World ν) : Option (World ν) :=
  w.unwritten[index]?.map fun request =>
    { w with
      unwritten := w.unwritten.eraseIdx index
      toServer :=
        if w.toClient.kept.isSome then writeAndFlush settings.requests request w.toServer
        else w.toServer }

/-- A task runs; `onSuccess` writes its response. -/
def run (task : Option (MessageRequest ν)) (outcome : Outcome ν) (w : World ν) : World ν :=
  match task with
  | none => w
  | some request =>
    { w with
      executed := w.executed ++ [(request, outcome)]
      toClient :=
        if w.toServer.kept.isSome then
          writeAndFlush settings.responses (request.call outcome) w.toClient
        else w.toClient }

/-- `MessageRecExecutor.submit`, which may have to create the pool first; what it throws
closes the channel of the task. -/
def submit (task : Option (MessageRequest ν)) (outcome : Outcome ν) (w : World ν) : World ν :=
  let closes (w : World ν) : World ν :=
    if task.isSome then { w with toServer := w.toServer.close } else w
  match createBlockingQueue settings.queueType settings.parallel queueNums with
  | none => closes w
  | some capacity =>
    match (w.pool.getD .create).execute ⟨threadNums, settings.queueType, capacity,
        settings.policy⟩ task with
    | (pool, .goesOn) => { w with pool := some pool }
    | (pool, .throws) => closes { w with pool := some pool }
    | (pool, .callerRuns) => run settings task outcome { w with pool := some pool }

/-- `MessageRecHandler.channelRead`, as long as the event loop is not inside a `put`. -/
def handleRequest (outcome : Outcome ν) (w : World ν) : Option (World ν) :=
  if ∀ pool ∈ w.pool, ∀ task ∈ pool.putting, task.isNone then
    match w.toServer.inbox with
    | [] => none
    | request :: rest =>
      some (submit settings (some request) outcome
        { w with toServer := { w.toServer with inbox := rest } })
  else none

/-- A step of the workers. -/
def work (action : Work) (outcome : Outcome ν) (w : World ν) : Option (World ν) := do
  let pool ← w.pool
  let capacity ← createBlockingQueue settings.queueType settings.parallel queueNums
  let (pool, finished) ← pool.work ⟨threadNums, settings.queueType, capacity,
    settings.policy⟩ action
  some (run settings finished.join outcome { w with pool := some pool })

/-- `MessageSendHandler.channelRead`, with `MessageCallBack.over`. -/
def handleResponse (w : World ν) : Option (World ν) :=
  match w.toClient.inbox with
  | [] => none
  | response :: rest =>
    let read := { w with toClient := { w.toClient with inbox := rest } }
    match w.mapCallBack.get? response.messageId with
    | none => some read
    | some number => some { read with
        mapCallBack := w.mapCallBack.remove response.messageId
        callBacks := w.callBacks.modify number fun callBack =>
          { callBack with response := some response } }

/-- The await of `start` is over: by a signal, the time, or for no reason. -/
def start (number : Nat) (w : World ν) : Option (World ν) :=
  match w.callBacks[number]? with
  | some ⟨request, response, none⟩ =>
    if request.messageId ∈ w.unwritten.map MessageRequest.messageId then none
    else some { w with
      callBacks := w.callBacks.set number
        ⟨request, response, some (response.bind MessageResponse.resultDesc)⟩ }
  | _ => none

end World

inductive Turn (ν : Type) where
  | sendRequest (className methodName : String) (typeParameters : List String)
      (args : List (Option ν))
  | writeRequest (index : Nat)
  | deliverRequests (count : Nat)
  | handleRequest (outcome : Outcome ν)
  | otherClient
  | work (action : Work) (outcome : Outcome ν)
  | deliverResponses (count : Nat)
  | handleResponse
  | start (number : Nat)
  | closeClient
  | closeServer

def World.step {ν : Type} (settings : RpcSettings ν) (w : World ν) : Turn ν → Option (World ν)
  | .sendRequest className methodName typeParameters args =>
    some (w.sendRequest settings className methodName typeParameters args)
  | .writeRequest index => w.writeRequest settings index
  | .deliverRequests count =>
    some { w with toServer := w.toServer.deliver settings.requests.messageDecoder count }
  | .handleRequest outcome => w.handleRequest settings outcome
  | .otherClient => some (w.submit settings none (.ok none))
  | .work action outcome => w.work settings action outcome
  | .deliverResponses count =>
    some { w with toClient := w.toClient.deliver settings.responses.messageDecoder count }
  | .handleResponse => w.handleResponse
  | .start number => w.start number
  | .closeClient => some { w with toClient := w.toClient.close }
  | .closeServer => some { w with toServer := w.toServer.close }

end GitvTime.Source.Rpc
