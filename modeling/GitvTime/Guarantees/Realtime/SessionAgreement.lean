import GitvTime.Guarantees.Realtime.SessionMoves
import GitvTime.Source.Realtime.LiveTopology
import GitvTime.Source.Realtime.Mac2RedisCopies

/-!
# The live and the on-demand session machines agree

Both copies issue the same commands in the same order, whatever the server
answers, and end with the same user-count tuples. So any run of the one is a run
of the other, with other clients on the server or without.
-/
namespace GitvTime.Guarantees.Realtime
open GitvTime.Support GitvTime.Source.StringHandle GitvTime.Source.Realtime

/-- The event of the live tuple, as the on-demand topology would see it. -/
def onDemand (input : Live.Tuple) : Vod.Tuple where
  partner := input.partner
  mac := input.mac
  pt := input.pt
  channelName := input.channelCode

/-- Two settings of the session machine that differ in what `view` does not show. -/
structure SameView {β : Type} (view : List Output → β) (bolt bolt' : SessionBolt) :
    Prop where
  mac : bolt.mac = bolt'.mac
  pt : bolt.pt = bolt'.pt
  channelPartner : bolt.channelPartner = bolt'.channelPartner
  onPlay : ∀ oldChannel, view (bolt.onPlay oldChannel) = view (bolt'.onPlay oldChannel)
  onStop : ∀ oldChannel, view (bolt.onStop oldChannel) = view (bolt'.onStop oldChannel)
  onRevive : view bolt.onRevive = view bolt'.onRevive
  warn : ∀ message message', view [.warn message] = view [.warn message']

namespace SameView

variable {β : Type} {view : List Output → β} {bolt bolt' : SessionBolt}

theorem macCopy (same : SameView view bolt bolt') : bolt.macCopy = bolt'.macCopy := by
  rw [SessionBolt.macCopy, SessionBolt.macCopy, same.mac]

theorem setSession (same : SameView view bolt bolt') : bolt.setSession = bolt'.setSession := by
  rw [SessionBolt.setSession, SessionBolt.setSession, same.mac,
    same.macCopy, same.channelPartner]

theorem delSession (same : SameView view bolt bolt') : bolt.delSession = bolt'.delSession := by
  rw [SessionBolt.delSession, SessionBolt.delSession, same.mac,
    same.macCopy]

/-- A transaction and what is sent or logged after it. -/
theorem transaction (same : SameView view bolt bolt') {sent sent' : List Output}
    (agree : view sent = view sent') (queue : List Write) (message message' : String) :
    view <$> (exec queue >>= fun committed =>
        (pure (if committed = true then sent else [.warn message]) : RedisProg (List Output))) =
      view <$> (exec queue >>= fun committed =>
        (pure (if committed = true then sent' else [.warn message']) : RedisProg (List Output))) := by
  rw [Prog.map_bind_eq, Prog.map_bind_eq]
  refine Prog.bind_congr_reply fun committed => ?_
  cases committed with
  | true => exact congrArg Prog.done agree
  | false => exact congrArg Prog.done (same.warn message message')

theorem play (same : SameView view bolt bolt') (macCopyV0 : Option String) :
    view <$> bolt.play macCopyV0 = view <$> bolt'.play macCopyV0 := by
  unfold SessionBolt.play
  rw [same.setSession]
  split
  · exact same.transaction (same.onPlay _) _ _ _
  · exact same.transaction (same.onPlay _) _ _ _

theorem stop (same : SameView view bolt bolt') (macCopyV1 : Option String) :
    view <$> bolt.stop macCopyV1 = view <$> bolt'.stop macCopyV1 := by
  unfold SessionBolt.stop
  rw [same.delSession]
  split
  · rfl
  · exact same.transaction (same.onStop _) _ _ _

theorem heartbeat (same : SameView view bolt bolt') (macCopyV5 : Option String) :
    view <$> bolt.heartbeat macCopyV5 = view <$> bolt'.heartbeat macCopyV5 := by
  unfold SessionBolt.heartbeat
  rw [same.setSession, same.mac]
  split
  · rfl
  · exact same.transaction same.onRevive _ _ _

/-- The machines issue the same commands and end with the same view. -/
theorem checkMacAndHandle (same : SameView view bolt bolt') :
    view <$> bolt.checkMacAndHandle = view <$> bolt'.checkMacAndHandle := by
  unfold SessionBolt.checkMacAndHandle SessionBolt.handle
  rw [same.mac, same.pt, same.macCopy, Prog.map_bind_eq, Prog.map_bind_eq]
  refine Prog.bind_congr_reply fun _ => ?_
  split
  · rw [Prog.map_bind_eq, Prog.map_bind_eq]
    exact Prog.bind_congr_reply same.play
  · split
    · rw [Prog.map_bind_eq, Prog.map_bind_eq]
      exact Prog.bind_congr_reply same.stop
    · split
      · rw [Prog.map_bind_eq, Prog.map_bind_eq]
        exact Prog.bind_congr_reply same.heartbeat
      · rfl

end SameView

/-- The live copy, seen on the user-count stream, is the on-demand copy. -/
theorem copies_same_view (input : Live.Tuple) :
    SameView userCountTuples (Live.sessionBolt input)
      (Vod.sessionBolt (onDemand input)) where
  mac := rfl
  pt := rfl
  channelPartner := rfl
  onPlay oldChannel := by cases oldChannel <;> rfl
  onStop _ := rfl
  onRevive := rfl
  warn _ _ := rfl

theorem programs_agree (input : Live.Tuple) :
    userCountTuples <$> Live.checkMacAndHandleText input =
      userCountTuples <$> Vod.checkMacAndHandleText (onDemand input) := by
  rw [Live.text_eq, Vod.text_eq]
  exact (copies_same_view input).checkMacAndHandle

/-! ### Runs -/

/-- What the other clients do before each command of an execution. A transaction
aborts when they modify a key of the device between its WATCH and its EXEC. -/
abbrev Interference := Nat → Servers → Servers

/-- Executions one after the other, and everything they send and log. -/
def runEvents {Input : Type} (execute : Input → RedisProg (List Output)) (s : Servers) :
    List (Input × Interference) → Servers × List Output
  | [] => (s, [])
  | (input, others) :: rest =>
    let ran := redis.runAmid others 0 s Conn.fresh (execute input)
    let later := runEvents execute ran.1 rest
    (later.1, ran.2.2 ++ later.2)

theorem userCountTuples_append (first later : List Output) :
    userCountTuples (first ++ later) = userCountTuples first ++ userCountTuples later :=
  List.filterMap_append

/-- From the same servers, with the same events and the same other clients, both
topologies leave the same servers and send the same ADD and DEC values. -/
theorem session_machines_agree (events : List (Live.Tuple × Interference)) (s : Servers) :
    (runEvents Live.checkMacAndHandleText s events).1 =
        (runEvents Vod.checkMacAndHandleText s (events.map (Prod.map onDemand id))).1 ∧
      userCountTuples (runEvents Live.checkMacAndHandleText s events).2 =
        userCountTuples
          (runEvents Vod.checkMacAndHandleText s (events.map (Prod.map onDemand id))).2 := by
  induction events generalizing s with
  | nil => exact ⟨rfl, rfl⟩
  | cons event rest ih =>
    obtain ⟨input, others⟩ := event
    have live := redis.runAmid_map others userCountTuples 0 s Conn.fresh
      (Live.checkMacAndHandleText input)
    have vod := redis.runAmid_map others userCountTuples 0 s Conn.fresh
      (Vod.checkMacAndHandleText (onDemand input))
    rw [programs_agree, vod] at live
    obtain ⟨servers, live⟩ := Prod.mk.inj live
    obtain ⟨_, sent⟩ := Prod.mk.inj live
    simp only [List.map_cons, Prod.map, id_eq, runEvents, userCountTuples_append]
    rw [servers, sent]
    exact ⟨(ih _).1, congrArg _ (ih _).2⟩

end GitvTime.Guarantees.Realtime
