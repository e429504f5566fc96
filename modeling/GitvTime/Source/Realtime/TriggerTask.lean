import GitvTime.Source.Realtime.Mac2Redis

/-!
# `TriggerTask.run`, the handler of one expiry notification

The task deletes `mac|cp` under a watch of both keys of the device and then pays
one decrement of the total and one of the partner counter for the value it had
read. An aborted transaction ends the task; so does an exception, which is only
logged (`cpList.get(1)` on a value without a separator).
-/
namespace GitvTime.Source.Realtime
open GitvTime.Source.StringHandle

namespace TriggerTask

/-- What follows a committed delete. -/
def pay (channelPartner : Option String) : RedisProg (List Output) :=
  match channelPartner with
  | none => pure []
  | some value =>
    match strSplit value with
    | channel :: partner :: _ => do
      decr ("total|" ++ channel)
      decr ("partner|" ++ partner ++ "|" ++ channel)
      pure []
    | _ => pure []

def reclaim (mac : String) (channelPartner : Option String) : RedisProg (List Output) := do
  let committed ← exec [.del (mac ++ "|cp")]
  if committed then pay channelPartner
  else pure [.warn ("transaction is disturbed,and mac is " ++ mac)]

def run (mac : String) : RedisProg (List Output) := do
  watch [mac, mac ++ "|cp"]
  let channelPartner ← get (mac ++ "|cp")
  reclaim mac channelPartner

end TriggerTask

end GitvTime.Source.Realtime
