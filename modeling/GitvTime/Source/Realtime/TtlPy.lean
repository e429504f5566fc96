import GitvTime.Source.Realtime.Redis
import GitvTime.Source.StringHandle

/-!
# `ttl.py`, the Python handler of expiry notifications

It deletes `mac|cp` in one transaction on the session server and then takes both
counters down in a second one on the counter server. Both `except` branches end
the handling of the notification, so a refused EXEC (`WatchError`) or a value
without a second piece (`IndexError`) leads nowhere.
-/
namespace GitvTime.Source.Realtime
open GitvTime.Source.StringHandle

namespace TtlPy

/-- `comp`. A missing counter is `None` and `None > 0` is false; a stored one is
a string, and in Python 2 every string is greater than every number. -/
def comp (channel_partner : String) : RedisProg Unit :=
  match strSplit channel_partner with
  | channel :: partner :: _ => do
    let total_key := "total|" ++ channel
    let partner_key := "partner|" ++ partner ++ "|" ++ channel
    compWatch [total_key, partner_key]
    let total ← compGet total_key
    if total.isSome = true then do
      let partners ← compGet partner_key
      if partners.isSome = true then do
        let _ ← compExec [(total_key, -1), (partner_key, -1)]
        pure ()
      else pure ()
    else pure ()
  | _ => pure ()

/-- The body of the main loop for the expired key `mac`. -/
def handle (mac : String) : RedisProg Unit := do
  watch [mac, mac ++ "|cp"]
  let channel_partner ← get (mac ++ "|cp")
  match channel_partner with
  | some value =>
    if value = "" then pure ()
    else do
      let committed ← exec [.del (mac ++ "|cp")]
      if committed then comp value else pure ()
  | none => pure ()

end TtlPy

end GitvTime.Source.Realtime
