import GitvTime.Source.Numbers
import GitvTime.Source.SplitText

/-!
# The loader of the RPC client

`RpcServerLoader`, whose `lock` makes each piece between two awaits one step. A `load`
starts a connect and a callback: the connect sets the handler when it succeeds, and the
callback waits until one is set and wakes those that wait for it. A signal wakes the
thread that has waited longest.
-/
namespace GitvTime.Source.Rpc
open GitvTime.Source.Numbers

/-- The callback of a `load`: before `onSuccess`, in `handlerStatus.await`, woken from it,
or through. -/
inductive CallbackStage where
  | pending
  | waiting
  | signalled
  | finished
deriving DecidableEq

/-- A `getMessageSendHandler`: in `connectStatus.await`, woken from it, or back. -/
inductive Getter where
  | waiting
  | signalled
  | returned (handler : Option Nat)
deriving DecidableEq

/-- Of each `load` whether its connect is done, and its callback. The handler is known by
the number of its `load`. -/
structure RpcServerLoader where
  connected : List Bool
  callbacks : List CallbackStage
  messageSendHandler : Option Nat
  handlerStatus : List Nat
  getters : List Getter
deriving DecidableEq

namespace RpcServerLoader

def create : RpcServerLoader := ⟨[], [], none, [], []⟩

/-- `connectStatus.signalAll`. -/
def signalAll (l : RpcServerLoader) : RpcServerLoader :=
  { l with getters := l.getters.map fun getter =>
      if getter = .waiting then .signalled else getter }

def setCallback (number : Nat) (stage : CallbackStage) (l : RpcServerLoader) : RpcServerLoader :=
  { l with callbacks := l.callbacks.set number stage }

/-- `load`; an address with no host and port starts nothing. -/
def load (digits : CharacterDigit) (serverAddress : String) (l : RpcServerLoader) :
    RpcServerLoader :=
  match SplitText.split ':' serverAddress with
  | [_, port] =>
    match parseInt digits port with
    | none => l
    | some port =>
      if 0 ≤ port ∧ port ≤ 65535 then
        { l with connected := l.connected ++ [false], callbacks := l.callbacks ++ [.pending] }
      else l
  | _ => l

/-- `setMessageSendHandler`. -/
def setMessageSendHandler (number : Nat) (l : RpcServerLoader) : RpcServerLoader :=
  match l.handlerStatus with
  | [] => { l with messageSendHandler := some number }
  | first :: rest =>
    { l with messageSendHandler := some number, handlerStatus := rest }.setCallback first .signalled

/-- `operationComplete` of the connect. -/
def operationComplete (number : Nat) (isSuccess : Bool) (l : RpcServerLoader) :
    Option RpcServerLoader :=
  if l.connected[number]? = some false then
    let done := { l with connected := l.connected.set number true }
    some (if isSuccess then done.setMessageSendHandler number else done)
  else none

/-- `onSuccess` behind its await. -/
def wakeGetters (number : Nat) (l : RpcServerLoader) : RpcServerLoader :=
  (if l.messageSendHandler.isSome then l.signalAll else l).setCallback number .finished

/-- `onSuccess` up to its await, if it comes to that. -/
def onSuccess (number : Nat) (l : RpcServerLoader) : Option RpcServerLoader :=
  if l.callbacks[number]? = some .pending then
    some (if l.messageSendHandler.isNone then
      { l with handlerStatus := l.handlerStatus ++ [number] }.setCallback number .waiting
    else l.wakeGetters number)
  else none

/-- The callback has the lock again, by a signal or for no reason. -/
def callbackWakes (number : Nat) (spurious : Bool) (l : RpcServerLoader) :
    Option RpcServerLoader :=
  if l.callbacks[number]? = some (if spurious then .waiting else .signalled) then
    some ({ l with handlerStatus := l.handlerStatus.filter (· ≠ number) }.wakeGetters number)
  else none

/-- `getMessageSendHandler` up to its await, if it comes to that. -/
def getMessageSendHandler (l : RpcServerLoader) : RpcServerLoader :=
  { l with getters := l.getters ++
      [if l.messageSendHandler.isNone then .waiting else .returned l.messageSendHandler] }

/-- The getter has the lock again. -/
def getterWakes (number : Nat) (spurious : Bool) (l : RpcServerLoader) :
    Option RpcServerLoader :=
  if l.getters[number]? = some (if spurious then .waiting else .signalled) then
    some { l with getters := l.getters.set number (.returned l.messageSendHandler) }
  else none

end RpcServerLoader

inductive LoaderTurn where
  | load (serverAddress : String)
  | operationComplete (number : Nat) (isSuccess : Bool)
  | onSuccess (number : Nat)
  | callbackWakes (number : Nat) (spurious : Bool)
  | getMessageSendHandler
  | getterWakes (number : Nat) (spurious : Bool)
deriving DecidableEq

def RpcServerLoader.step (digits : CharacterDigit) (l : RpcServerLoader) :
    LoaderTurn → Option RpcServerLoader
  | .load serverAddress => some (l.load digits serverAddress)
  | .operationComplete number isSuccess => l.operationComplete number isSuccess
  | .onSuccess number => l.onSuccess number
  | .callbackWakes number spurious => l.callbackWakes number spurious
  | .getMessageSendHandler => some l.getMessageSendHandler
  | .getterWakes number spurious => l.getterWakes number spurious

end GitvTime.Source.Rpc
