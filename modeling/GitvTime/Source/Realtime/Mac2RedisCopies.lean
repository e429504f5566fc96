import GitvTime.Source.Realtime.Mac2Redis

/-!
# The two copies of `checkMacAndHandle`, statement by statement

The live and the on-demand method as they stand in their files, branch after
branch; `SessionBolt` is what they have in common.
-/
namespace GitvTime.Source.Realtime
open GitvTime.Support GitvTime.Source.StringHandle

namespace Live

/-- `checkMacAndHandle` of `realtime-user-count-liv`. -/
def checkMacAndHandleText (input : Tuple) : RedisProg (List Output) := do
  let macCopy := strJoin₂ input.mac "cp"
  let channelPartner := strJoin₂ input.channelCode input.partner
  watch [input.mac, macCopy]
  if input.pt = "0" then
    let anFlag := if input.vt = "3" then AN_USE else AN_PASS
    let macCopyV0 ← get macCopy
    if isBlank macCopyV0 = false then
      let oldChannel := piece0 (macCopyV0.getD "")
      let result ← exec
        [.set input.mac "0", .expire input.mac TIME_TTL, .set macCopy channelPartner]
      if result = false then
        return [.warn ("transaction is disturbed,and mac is " ++ input.mac ++ ",try again...")]
      let ADD := strJoin₂ input.channelCode input.partner
      let DEC := strJoin₂ oldChannel input.partner
      let NEW := strJoin [input.channelCode, input.an, anFlag, input.partner]
      let OLD := strJoin [oldChannel, input.an, AN_PASS, input.partner]
      return [.userCount (some ADD) (some DEC), .anRecord (some NEW) (some OLD)]
    else
      let result ← exec
        [.set input.mac "0", .expire input.mac TIME_TTL, .set macCopy channelPartner]
      if result = false then
        return [.warn ("transaction is disturbed,and mac is " ++ input.mac)]
      let ADD := strJoin₂ input.channelCode input.partner
      let NEW := strJoin [input.channelCode, input.an, anFlag, input.partner]
      return [.userCount (some ADD) none, .anRecord (some NEW) none]
  else if input.pt = "1" ∨ input.pt = "2" then
    let macCopyV1 ← get macCopy
    if isBlank macCopyV1 = true then
      return []
    else
      let oldChannel := piece0 (macCopyV1.getD "")
      let result ← exec [.del macCopy, .del input.mac]
      if result = false then
        return [.warn ("transaction is disturbed,and mac is " ++ input.mac)]
      let DEC := strJoin₂ oldChannel input.partner
      let OLD := strJoin [oldChannel, input.an, AN_PASS, input.partner]
      return [.userCount none (some DEC), .anRecord none (some OLD)]
  else if input.pt = "5" then
    let macCopyV5 ← get macCopy
    if isBlank macCopyV5 = false then
      expire input.mac TIME_TTL
      return []
    else
      let result ← exec
        [.set input.mac "0", .expire input.mac TIME_TTL, .set macCopy channelPartner]
      if result = false then
        return [.warn ("transaction is disturbed,and mac is " ++ input.mac)]
      let ADD := strJoin₂ input.channelCode input.partner
      let NEW := strJoin [input.channelCode, input.an, AN_PASS, input.partner]
      return [.userCount (some ADD) none, .anRecord (some NEW) none]
  else
    return []

end Live

namespace Vod

/-- `checkMacAndHandle` of `realtime-user-count-vod`. -/
def checkMacAndHandleText (input : Tuple) : RedisProg (List Output) := do
  let macCopy := strJoin₂ input.mac "cp"
  let channelPartner := strJoin₂ input.channelName input.partner
  watch [input.mac, macCopy]
  if input.pt = "0" then
    let macCopyV0 ← get macCopy
    if isBlank macCopyV0 = false then
      let oldChannel := piece0 (macCopyV0.getD "")
      let result ← exec
        [.set input.mac "0", .expire input.mac TIME_TTL, .set macCopy channelPartner]
      if result = false then
        return [.warn ("transaction is disturbed,and mac is " ++ input.mac)]
      let ADD := strJoin₂ input.channelName input.partner
      let DEC := strJoin₂ oldChannel input.partner
      return [.userCount (some ADD) (some DEC)]
    else
      let result ← exec
        [.set input.mac "0", .expire input.mac TIME_TTL, .set macCopy channelPartner]
      if result = false then
        return [.warn ("transaction is disturbed,and mac is " ++ input.mac)]
      let ADD := strJoin₂ input.channelName input.partner
      return [.userCount (some ADD) none]
  else if input.pt = "1" ∨ input.pt = "2" then
    let macCopyV1 ← get macCopy
    if isBlank macCopyV1 = true then
      return []
    else
      let oldChannel := piece0 (macCopyV1.getD "")
      let result ← exec [.del macCopy, .del input.mac]
      if result = false then
        return [.warn ("transaction is disturbed,and mac is " ++ input.mac)]
      let DEC := strJoin₂ oldChannel input.partner
      return [.userCount none (some DEC)]
  else if input.pt = "5" then
    let macCopyV5 ← get macCopy
    if isBlank macCopyV5 = false then
      expire input.mac TIME_TTL
      return []
    else
      let result ← exec
        [.set input.mac "0", .expire input.mac TIME_TTL, .set macCopy channelPartner]
      if result = false then
        return [.warn ("transaction is disturbed,and mac is " ++ input.mac)]
      let ADD := strJoin₂ input.channelName input.partner
      return [.userCount (some ADD) none]
  else
    return []

end Vod

/-! ### Both are the session machine -/

/-- Programs that agree after a good and after a refused EXEC. -/
theorem exec_congr {α : Type} {queue : List Write} {f g : Bool → RedisProg α}
    (refused : f false = g false) (done : f true = g true) :
    (exec queue >>= f) = (exec queue >>= g) := by
  refine Prog.bind_congr_reply fun result => ?_
  cases result with
  | false => exact refused
  | true => exact done

theorem Live.text_eq (input : Live.Tuple) :
    Live.checkMacAndHandleText input = Live.checkMacAndHandle input := by
  unfold Live.checkMacAndHandleText Live.checkMacAndHandle SessionBolt.checkMacAndHandle
  refine Prog.bind_congr_reply fun _ => ?_
  unfold SessionBolt.handle
  refine ite_congr rfl (fun _ => ?_) fun _ =>
    ite_congr rfl (fun _ => ?_) fun _ => ite_congr rfl (fun _ => ?_) fun _ => rfl
  · refine Prog.bind_congr_reply fun macCopyV0 => ?_
    unfold SessionBolt.play
    refine ite_congr rfl (fun _ => ?_) fun _ => ?_
    · exact exec_congr rfl rfl
    · exact exec_congr rfl rfl
  · refine Prog.bind_congr_reply fun macCopyV1 => ?_
    unfold SessionBolt.stop
    refine ite_congr rfl (fun _ => rfl) fun _ => ?_
    exact exec_congr rfl rfl
  · refine Prog.bind_congr_reply fun macCopyV5 => ?_
    unfold SessionBolt.heartbeat
    refine ite_congr rfl (fun _ => rfl) fun _ => ?_
    exact exec_congr rfl rfl

theorem Vod.text_eq (input : Vod.Tuple) :
    Vod.checkMacAndHandleText input = Vod.checkMacAndHandle input := by
  unfold Vod.checkMacAndHandleText Vod.checkMacAndHandle SessionBolt.checkMacAndHandle
  refine Prog.bind_congr_reply fun _ => ?_
  unfold SessionBolt.handle
  refine ite_congr rfl (fun _ => ?_) fun _ =>
    ite_congr rfl (fun _ => ?_) fun _ => ite_congr rfl (fun _ => ?_) fun _ => rfl
  · refine Prog.bind_congr_reply fun macCopyV0 => ?_
    unfold SessionBolt.play
    refine ite_congr rfl (fun _ => ?_) fun _ => ?_
    · exact exec_congr rfl rfl
    · exact exec_congr rfl rfl
  · refine Prog.bind_congr_reply fun macCopyV1 => ?_
    unfold SessionBolt.stop
    refine ite_congr rfl (fun _ => rfl) fun _ => ?_
    exact exec_congr rfl rfl
  · refine Prog.bind_congr_reply fun macCopyV5 => ?_
    unfold SessionBolt.heartbeat
    refine ite_congr rfl (fun _ => rfl) fun _ => ?_
    exact exec_congr rfl rfl

end GitvTime.Source.Realtime
