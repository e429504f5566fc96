import GitvTime.Source.StormBolt

/-!
# `RabbitMQ_Bolt.execute`

A device of a partner in `partnerList` is published on the partner's queue. The
bolt emits nothing.
-/
namespace GitvTime.Source.UserInfo.RabbitMQBolt
open GitvTime.Support GitvTime.Source.StormBolt

variable (partnerList : List String) (publishes : Bool)

/-- `channel.basicPublish`, which returns or throws. -/
def basicPublish : Execution Empty Unit := if publishes then pure () else Logged.throw

/-- The body of the try block; `getBytes` of a null address throws. -/
def tryBody (macField partnerField : Field) : Execution Empty Unit := do
  let mac ← getStringByField macField
  let partner ← getStringByField partnerField
  if partner.any (fun partner => partnerList.contains partner) = true then
    let _ ← Logged.ofOption mac
    basicPublish publishes

/-- `catch` fails the tuple, `finally` acks it. -/
def executeCalls (macField partnerField : Field) : Execution Empty Unit :=
  Logged.tryFinally
    (Logged.tryCatch (tryBody partnerList publishes macField partnerField) fail) ack

end GitvTime.Source.UserInfo.RabbitMQBolt
