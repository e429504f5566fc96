import GitvTime.Guarantees.Realtime.LiveCounters
import GitvTime.Guarantees.Realtime.SoloRuns
import GitvTime.Source.Realtime.VodTopology

/-!
# What replays restore on demand

A device watches a channel or none; an event moves it to `channelAfter`. The
session store follows this in every attempt, so a failed attempt has moved the
device already: its delta is lost and the replay books the move from where the
device is now. The counters are right after a run exactly when the moves of the
failed attempts and the cached deltas that leave 32 bits cancel out.
-/
namespace GitvTime.Guarantees.Realtime
open GitvTime.Support GitvTime.Source.StringHandle GitvTime.Source.Realtime

/-! ### The moves of a device -/

/-- The channel a device watches. -/
def watched (db : Keyspace) (mac : String) : Option String := (storedValue db mac).map piece0

/-- Where an event moves a device that watches `channel`. -/
def channelAfter (input : Vod.Tuple) (channel : Option String) : Option String :=
  if input.pt = "0" then some input.channelName
  else if input.pt = "1" ∨ input.pt = "2" then none
  else if input.pt = "5" then channel.or (some input.channelName)
  else channel

/-- The change of the users of `channel` by a move. -/
def moved (channel : String) (before after : Option String) : Int :=
  (if after = some channel then 1 else 0) - (if before = some channel then 1 else 0)

structure TupleFree (input : Vod.Tuple) : Prop where
  partner_free : BarFree input.partner
  mac_free : BarFree input.mac
  channelName_free : BarFree input.channelName

theorem emitLegal_some {log : Vod.PlayLog} {input : Vod.Tuple}
    (emitted : Vod.emitLegal log = some input) :
    log.partner = some input.partner ∧ log.mac = some input.mac ∧
      log.chnName = some input.channelName := by
  unfold Vod.emitLegal at emitted
  simp only at emitted
  split at emitted
  · split at emitted
    · rename_i partner mac channelName hp hm hc
      cases emitted
      exact ⟨hp, hm, hc⟩
    · cases emitted
  · cases emitted

theorem filterAll_free {transforms : Vod.Transforms} (columns : transforms.Columns) {log : String}
    {input : Vod.Tuple} (emitted : Vod.filterAll transforms log = some input) : TupleFree input := by
  have decoded : ∀ {playLog}, transforms.decodeV1 log = some playLog ∨
      transforms.decodeV2 log = some playLog → Vod.emitLegal playLog = some input →
        TupleFree input := by
    intro playLog decoded legal
    obtain ⟨hp, hm, hc⟩ := emitLegal_some legal
    exact ⟨columns.partner_free _ _ _ decoded hp, columns.mac_free _ _ _ decoded hm,
      columns.chnName_free _ _ _ decoded hc⟩
  unfold Vod.filterAll at emitted
  split at emitted
  · cases emitted
  · split at emitted
    · split at emitted
      · split at emitted
        · obtain ⟨playLog, decodes, legal⟩ := Option.bind_eq_some_iff.mp emitted
          exact decoded (.inl decodes) legal
        · obtain ⟨playLog, decodes, legal⟩ := Option.bind_eq_some_iff.mp emitted
          exact decoded (.inr decodes) legal
        · cases emitted
        · cases emitted
      · cases emitted
    · cases emitted

/-! ### One attempt at the session server -/

/-- The value is one that `UserCount` can book. -/
def Bookable (value : Option String) : Prop :=
  ∀ text, value = some text → ∃ channel partner rest, strSplit text = channel :: partner :: rest

theorem book_acks (change : CacheMap → String → CacheMap) (cacheMap : CacheMap)
    {value : Option String} (bookable : Bookable value) :
    ∃ cacheMap', UserCount.book change cacheMap value = (cacheMap', .ack) := by
  cases value with
  | none => exact ⟨_, rfl⟩
  | some text =>
    obtain ⟨channel, partner, rest, pieces⟩ := bookable text rfl
    refine ⟨change (change cacheMap (totalKey channel)) (partnerKey partner channel), ?_⟩
    simp only [UserCount.book, pieces]

theorem mainTain_acks (cacheMap : CacheMap) {ADD DEC : Option String} (add : Bookable ADD)
    (dec : Bookable DEC) : ∃ cacheMap', UserCount.mainTain cacheMap ADD DEC = (cacheMap', .ack) := by
  obtain ⟨added, first⟩ := book_acks UserCount.cacheInMapAdd cacheMap add
  obtain ⟨booked, second⟩ := book_acks UserCount.cacheInMapDec added dec
  exact ⟨booked, by simp only [UserCount.mainTain, first, second]⟩

theorem bookable_pair {channel : String} (hc : BarFree channel) (partner : String) :
    Bookable (some (strJoin₂ channel partner)) := by
  rintro text ⟨⟩
  rw [strSplit_strJoin₂ hc]
  cases pieces : strSplit partner with
  | nil => exact absurd pieces (strSplit_ne_nil partner)
  | cons head tail => exact ⟨channel, head, tail, rfl⟩

theorem bookable_none : Bookable none := fun _ h => nomatch h

/-- What one execution of the on-demand bolt does and sends. -/
structure VodMove (input : Vod.Tuple) (s s' : Servers) (outputs : List Output) : Prop where
  wf : WellFormed s'.mac
  comp_same : s'.comp = s.comp
  others : ∀ mac, mac ≠ input.mac → storedValue s'.mac mac = storedValue s.mac mac
  follows : watched s'.mac input.mac = channelAfter input (watched s.mac input.mac)
  emits : outputs = [] ∨ ∃ ADD DEC, outputs = [.userCount ADD DEC] ∧ Bookable ADD ∧ Bookable DEC
  delta : ∀ channel, ((userCountTuples outputs).map (tupleDelta (totalKey channel))).sum =
    moved channel (watched s.mac input.mac) (channelAfter input (watched s.mac input.mac))

theorem watched_none {db : Keyspace} {mac : String} (absent : storedValue db mac = none) :
    watched db mac = none := by
  rw [watched, absent]
  rfl

theorem watched_pair {db : Keyspace} {mac channel : String} (partner : String) (hc : BarFree channel)
    (stored : storedValue db mac = some (strJoin₂ channel partner)) :
    watched db mac = some channel := by
  rw [watched, stored, Option.map_some, piece0_pair hc]

theorem tupleDelta_total (channel : String) (add dec : Option String) {partner partner' : String}
    (ha : ∀ c, add = some c → BarFree c) (hd : ∀ c, dec = some c → BarFree c)
    (hp : BarFree partner) (hp' : BarFree partner') :
    tupleDelta (totalKey channel)
        (add.map fun c => strJoin₂ c partner, dec.map fun c => strJoin₂ c partner') =
      moved channel dec add := by
  cases add with
  | none =>
    cases dec with
    | none => simp [tupleDelta, moved]
    | some c' =>
      simp only [tupleDelta, Option.map_none, Option.map_some, bookDelta_none, moved,
        bookDelta_total channel (hd c' rfl) hp', Option.some.injEq, reduceCtorEq, if_false]
  | some c =>
    cases dec with
    | none =>
      simp only [tupleDelta, Option.map_none, Option.map_some, bookDelta_none, moved,
        bookDelta_total channel (ha c rfl) hp, Option.some.injEq, reduceCtorEq, if_false]
    | some c' =>
      simp only [tupleDelta, Option.map_some, moved, bookDelta_total channel (ha c rfl) hp,
        bookDelta_total channel (hd c' rfl) hp', Option.some.injEq]

/-- A start, a switch or a revival. -/
theorem vodMove_set {input : Vod.Tuple} (free : TupleFree input) {s s' : Servers}
    (wf : WellFormed s.mac) (comp_same : s'.comp = s.comp)
    (after_eq : s'.mac = (Vod.sessionBolt input).setSession.foldl Write.apply s.mac)
    (dec : Option String) (before : dec = watched s.mac input.mac)
    (moves : channelAfter input (watched s.mac input.mac) = some input.channelName) :
    VodMove input s s' [.userCount (some (strJoin₂ input.channelName input.partner))
      (dec.map fun c => strJoin₂ c input.partner)] := by
  have dec_free : ∀ c, dec = some c → BarFree c := by
    rintro c rfl
    obtain ⟨value, stored, rfl⟩ := Option.map_eq_some_iff.mp before.symm
    obtain ⟨channel, partner, hc, _, rfl⟩ := wf.stored_pair _ _ stored
    rwa [piece0_pair hc]
  refine ⟨?_, comp_same, fun mac different => ?_, ?_, .inr ⟨_, _, rfl, ?_, ?_⟩, fun channel => ?_⟩
  · rw [after_eq]
    exact wf.setSession free.mac_free free.channelName_free free.partner_free rfl
  · rw [after_eq, setSession_stored free.mac_free]
    exact if_neg different
  · rw [moves]
    refine watched_pair input.partner free.channelName_free ?_
    rw [after_eq, setSession_stored free.mac_free]
    exact if_pos rfl
  · exact bookable_pair free.channelName_free _
  · cases dec with
    | none => exact bookable_none
    | some c => exact bookable_pair (dec_free c rfl) _
  · rw [moves, ← before]
    have counted := tupleDelta_total channel (some input.channelName) dec
      (by rintro c ⟨⟩; exact free.channelName_free) dec_free free.partner_free free.partner_free
    simpa [userCountTuples] using counted

/-- A stop of a session. -/
theorem vodMove_del {input : Vod.Tuple} (free : TupleFree input) {s s' : Servers}
    (wf : WellFormed s.mac) (comp_same : s'.comp = s.comp)
    (after_eq : s'.mac = (Vod.sessionBolt input).delSession.foldl Write.apply s.mac)
    {old : String} (before : watched s.mac input.mac = some old)
    (moves : channelAfter input (watched s.mac input.mac) = none) :
    VodMove input s s' [.userCount none (some (strJoin₂ old input.partner))] := by
  have old_free : BarFree old := by
    obtain ⟨value, stored, rfl⟩ := Option.map_eq_some_iff.mp before
    obtain ⟨channel, partner, hc, _, rfl⟩ := wf.stored_pair _ _ stored
    rwa [piece0_pair hc]
  refine ⟨?_, comp_same, fun mac different => ?_, ?_,
    .inr ⟨_, _, rfl, bookable_none, bookable_pair old_free _⟩, fun channel => ?_⟩
  · rw [after_eq]
    exact wf.delSession _
  · rw [after_eq, delSession_stored free.mac_free]
    exact if_neg different
  · rw [moves]
    refine watched_none ?_
    rw [after_eq, delSession_stored free.mac_free]
    exact if_pos rfl
  · rw [moves, before]
    have counted := tupleDelta_total channel none (some old)
      (fun _ h => nomatch h) (by rintro c ⟨⟩; exact old_free) free.partner_free free.partner_free
    simpa [userCountTuples] using counted

/-- Nothing is sent when the device stays where it is. -/
theorem vodMove_stay {input : Vod.Tuple} {s s' : Servers} (wf : WellFormed s'.mac)
    (comp_same : s'.comp = s.comp)
    (same : ∀ mac, storedValue s'.mac mac = storedValue s.mac mac)
    (stays : channelAfter input (watched s.mac input.mac) = watched s.mac input.mac) :
    VodMove input s s' [] := by
  refine ⟨wf, comp_same, fun mac _ => same mac, ?_, .inl rfl, fun channel => ?_⟩
  · rw [stays, watched, same]
    rfl
  · rw [stays]
    simp [userCountTuples, moved]

theorem leaving_eq_watched {db : Keyspace} (wf : WellFormed db) (mac : String) :
    leaving (storedValue db mac) = watched db mac := by
  cases stored : storedValue db mac with
  | none => simp [leaving, watched, stored]
  | some value => simp [leaving, watched, stored, wf.not_blank stored]

/-- One execution of the on-demand bolt. -/
theorem vod_move {input : Vod.Tuple} (free : TupleFree input) {s : Servers}
    (wf : WellFormed s.mac) :
    let ran := redis.runAlone s Conn.fresh (Vod.checkMacAndHandle input)
    VodMove input s ran.1 ran.2.2 := by
  intro ran
  obtain ⟨mac_eq, out_eq, comp_same⟩ := event_alone (Vod.sessionBolt input) s
  have mac_eq' : ran.1.mac = _ := mac_eq
  have out_eq' : ran.2.2 = _ := out_eq
  have comp_same' : ran.1.comp = s.comp := comp_same
  rw [Vod.sessionBolt_mac] at mac_eq' out_eq'
  rw [out_eq']
  have left := leaving_eq_watched wf input.mac
  by_cases play : input.pt = "0"
  · have moves : channelAfter input (watched s.mac input.mac) = some input.channelName := by
      rw [channelAfter, if_pos play]
    rw [answered_play play] at mac_eq' ⊢
    rw [left]
    have set := vodMove_set free wf comp_same' mac_eq' _ rfl moves
    cases old : watched s.mac input.mac <;> (rw [old] at set; exact set)
  · by_cases stop : input.pt = "1" ∨ input.pt = "2"
    · have moves : channelAfter input (watched s.mac input.mac) = none := by
        rw [channelAfter, if_neg play, if_pos stop]
      cases stored : storedValue s.mac input.mac with
      | none =>
        rw [stored, answered_stop_none play stop] at mac_eq'
        rw [answered_stop_none play stop]
        refine vodMove_stay ?_ comp_same' (fun mac => by rw [mac_eq']) ?_
        · rwa [mac_eq']
        · rw [moves, watched_none stored]
      | some value =>
        have full := wf.not_blank stored
        rw [stored, answered_stop_some play stop full] at mac_eq'
        rw [answered_stop_some play stop full]
        refine vodMove_del free wf comp_same' mac_eq' ?_ moves
        rw [watched, stored]
        rfl
    · by_cases beat : input.pt = "5"
      · have moves : channelAfter input (watched s.mac input.mac) =
            (watched s.mac input.mac).or (some input.channelName) := by
          rw [channelAfter, if_neg play, if_neg stop, if_pos beat]
        cases stored : storedValue s.mac input.mac with
        | none =>
          rw [stored, answered_beat_none play stop beat] at mac_eq'
          rw [answered_beat_none play stop beat]
          refine vodMove_set free wf comp_same' mac_eq' none (watched_none stored).symm ?_
          rw [moves, watched_none stored]
          rfl
        | some value =>
          have full := wf.not_blank stored
          rw [stored, answered_beat_some play stop beat full] at mac_eq'
          rw [answered_beat_some play stop beat full]
          have same : ∀ mac, storedValue ran.1.mac mac = storedValue s.mac mac := fun mac => by
            rw [mac_eq']
            exact expireKey_stored free.mac_free _ _ _
          refine vodMove_stay ?_ comp_same' same ?_
          · rw [mac_eq']
            exact wf.expireKey free.mac_free _
          · rw [moves, watched, stored]
            rfl
      · rw [answered_other play stop beat] at mac_eq' ⊢
        refine vodMove_stay ?_ comp_same' (fun mac => by rw [mac_eq']) ?_
        · rwa [mac_eq']
        · rw [channelAfter, if_neg play, if_neg stop, if_neg beat]

/-! ### One step of the topology -/

structure VodInv (s : Vod.State) : Prop where
  wf : WellFormed s.servers.mac
  finite : {mac | (storedValue s.servers.mac mac).isSome = true}.Finite

/-- What the `UserCount` tasks hold back of a counter. -/
def heldBack (key : String) (s : Vod.State) : Int :=
  (s.tasks.map (cachedAt key)).sum

noncomputable def vodImbalance (key : String) (s : Vod.State) : Int :=
  counter key s.servers + heldBack key s - (sessions key s.servers.mac).ncard

/-- The users of `channel` that an attempt at a log moves and does not book: the
move when its tuple fails, else what the cached delta loses by leaving 32 bits. -/
def attemptLoss (transforms : Vod.Transforms) (channel : String) (s : Vod.State) (log : String)
    (task : Nat) (fails : Bool) : Int :=
  match Vod.filterAll transforms log with
  | none => 0
  | some input =>
    if (Vod.macLong transforms input.mac).isSome = true then
      let before := watched s.servers.mac input.mac
      let move := moved channel before (channelAfter input before)
      if fails = true then move
      else
        match s.tasks[task]? with
        | some cacheMap => overflow (2 ^ 32) (cachedAt (totalKey channel) cacheMap + move)
        | none => 0
    else 0

/-- The users of `channel` that are lost in a step. -/
def lostIn (transforms : Vod.Transforms) (channel : String) (s : Vod.State) : Vod.Action → Int
  | .play log task fails => attemptLoss transforms channel s log task fails
  | .replay index task fails =>
    match s.failed[index]? with
    | some log => attemptLoss transforms channel s log task fails
    | none => 0
  | .tick _ _ => 0

theorem bookDelta_watched {db : Keyspace} (wf : WellFormed db) (mac channel : String) :
    bookDelta (totalKey channel) (storedValue db mac) =
      if watched db mac = some channel then 1 else 0 := by
  cases stored : storedValue db mac with
  | none =>
    rw [watched_none stored]
    rfl
  | some value =>
    obtain ⟨channel', partner, hc, hp, rfl⟩ := wf.stored_pair mac value stored
    rw [watched_pair _ hc stored, bookDelta_total channel hc hp]
    simp

/-- The sessions of a channel change by the move of the device. -/
theorem VodMove.sessions_moved {input : Vod.Tuple} {s s' : Servers} {outputs : List Output}
    (move : VodMove input s s' outputs) (wf : WellFormed s.mac)
    (finite : {mac | (storedValue s.mac mac).isSome = true}.Finite) (channel : String) :
    ((sessions (totalKey channel) s'.mac).ncard : Int) - (sessions (totalKey channel) s.mac).ncard =
      moved channel (watched s.mac input.mac) (channelAfter input (watched s.mac input.mac)) := by
  rw [sessions_change (totalKey channel) _ input.mac finite move.others, bookDelta_watched move.wf,
    bookDelta_watched wf, move.follows]
  rfl

theorem heldBack_set (key : String) {s : Vod.State} {task : Nat} {old : CacheMap}
    (found : s.tasks[task]? = some old) (new : CacheMap) (servers : Servers) (failed : List String) :
    heldBack key ⟨servers, s.tasks.set task new, failed⟩ =
      heldBack key s + cachedAt key new - cachedAt key old := by
  obtain ⟨front, back, before, _, after⟩ := split_at_index found
  simp only [heldBack, after new]
  rw [before]
  simp only [List.map_append, List.sum_append, List.map_cons, List.sum_cons]
  omega

/-- An attempt that moves its device nowhere loses nothing. -/
theorem nothing_lost {transforms : Vod.Transforms} {channel : String} {s : Vod.State} {log : String}
    {input : Vod.Tuple} (emitted : Vod.filterAll transforms log = some input)
    (stays : moved channel (watched s.servers.mac input.mac)
      (channelAfter input (watched s.servers.mac input.mac)) = 0) (task : Nat) (fails : Bool) :
    attemptLoss transforms channel s log task fails = 0 := by
  simp only [attemptLoss, emitted, stays, Int.add_zero]
  split
  · split
    · rfl
    · split
      · rw [overflow, cachedAt_kept, Int.sub_self]
      · rfl
  · rfl

/-- What a step does to the caches. -/
def Books (s s' : Vod.State) : Prop :=
  s'.tasks = s.tasks ∨ ∃ (task : Nat) (cacheMap cacheMap' : CacheMap), s.tasks[task]? = some cacheMap ∧
    (cacheMap' = ∅ ∨ ∃ ADD DEC, UserCount.mainTain cacheMap ADD DEC = (cacheMap', .ack)) ∧
      s'.tasks = s.tasks.set task cacheMap'

/-- A step that loses some of its users. -/
structure Lowers (loss : String → Int) (s s' : Vod.State) : Prop where
  inv : VodInv s'
  books : Books s s'
  lowers : ∀ channel, vodImbalance (totalKey channel) s' =
    vodImbalance (totalKey channel) s - loss channel

/-- One attempt loses what `attemptLoss` says. -/
theorem attempt_lowers {transforms : Vod.Transforms} (columns : transforms.Columns)
    {s s' : Vod.State} {log : String} {task : Nat} {fails : Bool} (inv : VodInv s)
    (taken : s.attempt transforms log task fails = some s') :
    Lowers (fun channel => attemptLoss transforms channel s log task fails) s s' := by
  unfold Vod.State.attempt at taken
  split at taken
  · rename_i dropped
    cases taken
    exact ⟨inv, .inl rfl, fun channel => by simp [attemptLoss, dropped]⟩
  · rename_i input emitted
    split at taken
    · rename_i unparsed
      cases taken
      refine ⟨⟨inv.wf, inv.finite⟩, .inl rfl, fun channel => ?_⟩
      simp only [attemptLoss, emitted, unparsed, Option.isSome_none, Bool.false_eq_true, if_false,
        Int.sub_zero]
      rfl
    · rename_i mac parsed
      have move := vod_move (filterAll_free columns emitted) inv.wf
      simp only at move taken
      generalize redis.runAlone s.servers Conn.fresh (Vod.checkMacAndHandle input) = ran
        at move taken
      have kept : ∀ tasks failed, VodInv ⟨ran.1, tasks, failed⟩ :=
        fun tasks failed => ⟨move.wf, stored_finite _ inv.finite move.others⟩
      have counters : ∀ key, counter key ran.1 = counter key s.servers := fun key => by
        rw [counter, move.comp_same]
        rfl
      have parses : (Vod.macLong transforms input.mac).isSome = true := by rw [parsed]; rfl
      rcases move.emits with silent | ⟨ADD, DEC, out, add, dec⟩
      · rw [silent] at taken
        cases taken
        refine ⟨kept _ _, .inl rfl, fun channel => ?_⟩
        have still := move.delta channel
        have sessions_same := move.sessions_moved inv.wf inv.finite channel
        rw [silent] at still
        simp only [userCountTuples, List.filterMap_nil, List.map_nil, List.sum_nil] at still
        rw [nothing_lost emitted still.symm]
        simp only [vodImbalance, counters, heldBack]
        omega
      · rw [out] at taken
        simp only at taken
        have booked := move.delta
        rw [out] at booked
        simp only [userCountTuples, List.filterMap_cons, List.filterMap_nil, List.map_cons,
          List.map_nil, List.sum_cons, List.sum_nil, Int.add_zero] at booked
        split at taken
        · rename_i lost
          cases taken
          refine ⟨kept _ _, .inl rfl, fun channel => ?_⟩
          have change := move.sessions_moved inv.wf inv.finite channel
          simp only [attemptLoss, emitted, if_pos parses, if_pos lost, vodImbalance, counters,
            heldBack]
          omega
        · rename_i acked
          split at taken
          · rename_i cacheMap found
            obtain ⟨cacheMap', acks⟩ := mainTain_acks cacheMap add dec
            rw [acks] at taken
            cases taken
            refine ⟨kept _ _, .inr ⟨task, _, _, found, .inr ⟨ADD, DEC, acks⟩, rfl⟩,
              fun channel => ?_⟩
            have change := move.sessions_moved inv.wf inv.finite channel
            have cached := mainTain_cachedAt (totalKey channel) acks
            rw [booked channel, bmod_eq_sub_overflow] at cached
            simp only [attemptLoss, emitted, if_pos parses, if_neg acked, found, vodImbalance,
              counters, heldBack_set _ found]
            omega
          · cases taken

/-- One step loses what `lostIn` says. -/
theorem vod_step_lowers {transforms : Vod.Transforms} (columns : transforms.Columns)
    {s s' : Vod.State} {action : Vod.Action} (inv : VodInv s)
    (taken : s.step transforms action = some s') :
    Lowers (fun channel => lostIn transforms channel s action) s s' := by
  cases action with
  | play log task fails =>
    simp only [Vod.State.step] at taken
    split at taken
    · exact attempt_lowers columns inv taken
    · cases taken
  | replay index task fails =>
    simp only [Vod.State.step] at taken
    split at taken
    · rename_i log found
      have lowered := attempt_lowers columns (s := { s with failed := s.failed.eraseIdx index })
        ⟨inv.wf, inv.finite⟩ taken
      simp only [lostIn, found]
      exact ⟨lowered.inv, lowered.books, lowered.lowers⟩
    · cases taken
  | tick task order =>
    simp only [Vod.State.step] at taken
    split at taken
    · rename_i cacheMap found
      split at taken
      · rename_i perm
        cases taken
        obtain ⟨same, flushed⟩ :=
          (secondsToRedis_onlyIncrements order).runAlone s.servers Conn.fresh
        refine ⟨⟨by rw [same]; exact inv.wf, by rw [same]; exact inv.finite⟩,
          .inr ⟨task, _, _, found, .inl rfl, rfl⟩, fun channel => ?_⟩
        have sent := flush_delta (totalKey channel) perm
        simp only [vodImbalance, lostIn, heldBack_set _ found, same, flushed, sent]
        simp
      · cases taken
    · cases taken

/-! ### Whole runs -/

/-- Every total counter is the number of devices whose `mac|cp` names its channel. -/
def CountsSessions (s : Vod.State) : Prop :=
  ∀ channel,
    {mac | (storedValue s.servers.mac mac).map piece0 = some channel}.Finite ∧
      counter (totalKey channel) s.servers =
        {mac | (storedValue s.servers.mac mac).map piece0 = some channel}.ncard

theorem VodInv.init (tasks : Nat) : VodInv (Vod.State.init tasks) := by
  refine ⟨⟨?_, ?_⟩, ?_⟩
  · intro key entry present
    cases present
  · intro mac value stored
    cases stored
  · simp [Vod.State.init, storedValue, Store.empty]

theorem vodImbalance_init (key : String) (tasks : Nat) :
    vodImbalance key (Vod.State.init tasks) = 0 := by
  have none_stored : sessions key (Vod.State.init tasks).servers.mac = ∅ := by
    ext mac
    simp [sessions, Vod.State.init, storedValue, Store.empty, bookDelta]
  rw [vodImbalance, none_stored]
  simp [heldBack, counter, Vod.State.init, Store.empty]

/-- After the final flush only the counters count. -/
theorem countsSessions_iff {s : Vod.State} (inv : VodInv s)
    (flushed : ∀ cacheMap ∈ s.tasks, cacheMap = ∅) :
    CountsSessions s ↔ ∀ channel, vodImbalance (totalKey channel) s = 0 := by
  refine forall_congr' fun channel => ?_
  have nothing_held : heldBack (totalKey channel) s = 0 := by
    unfold heldBack
    refine List.sum_eq_zero fun value member => ?_
    obtain ⟨cacheMap, here, rfl⟩ := List.mem_map.mp member
    rw [flushed cacheMap here]
    rfl
  have finite := sessions_finite (totalKey channel) inv.finite
  rw [← sessions_total inv.wf channel]
  simp only [vodImbalance, nothing_held, finite, true_and]
  omega

/-- After the final flush the counters are right exactly when, channel by
channel, the moves of the failed attempts and the deltas that leave 32 bits
cancel out. -/
theorem replay_restores_iff (transforms : Vod.Transforms) (columns : transforms.Columns)
    (tasks : Nat) (actions : List Vod.Action) (last : Vod.State)
    (ran : runSteps (Vod.State.step transforms) (Vod.State.init tasks) actions = some last)
    (flushed : ∀ cacheMap ∈ last.tasks, cacheMap = ∅) :
    CountsSessions last ↔ ∀ channel,
      sumAlong (Vod.State.step transforms) (lostIn transforms channel) (Vod.State.init tasks)
        actions = 0 := by
  have lowered := fun channel => lowered_along VodInv
    (vodImbalance (totalKey channel)) (lostIn transforms channel)
    (fun _ _ _ inv taken => (vod_step_lowers columns inv taken).inv)
    (fun _ _ _ inv taken => (vod_step_lowers columns inv taken).lowers channel)
    actions (.init tasks) ran
  rw [countsSessions_iff (lowered "").1 flushed]
  refine forall_congr' fun channel => ?_
  have after := (lowered channel).2
  rw [vodImbalance_init, Int.zero_sub] at after
  rw [after, Int.neg_eq_zero]

/-! ### Few attempts -/

/-- The users of `channel` that a failed attempt at a log moves and does not book. -/
def failedMove (transforms : Vod.Transforms) (channel : String) (s : Vod.State) (log : String)
    (fails : Bool) : Int :=
  if fails = true then attemptLoss transforms channel s log 0 true else 0

/-- The users of `channel` that a step moves in vain. -/
def failedIn (transforms : Vod.Transforms) (channel : String) (s : Vod.State) : Vod.Action → Int
  | .play log _ fails => failedMove transforms channel s log fails
  | .replay index _ fails =>
    match s.failed[index]? with
    | some log => failedMove transforms channel s log fails
    | none => 0
  | .tick _ _ => 0

/-- The caches of all tasks. -/
def CachesWithin (bound : Nat) (s : Vod.State) : Prop :=
  ∀ cacheMap ∈ s.tasks, CacheWithin bound cacheMap

theorem CachesWithin.step {bound : Nat} {s s' : Vod.State} (within : CachesWithin bound s)
    (few : bound + 1 < 2 ^ 31) (books : Books s s') : CachesWithin (bound + 1) s' := by
  have wider : CachesWithin (bound + 1) s := fun cacheMap member key =>
    Nat.le_succ_of_le (within cacheMap member key)
  rcases books with same | ⟨task, cacheMap, cacheMap', found, changed, updated⟩
  · intro cacheMap member
    exact wider cacheMap (same ▸ member)
  · obtain ⟨before, after, split, _, set⟩ := split_at_index found
    intro other member
    rw [updated, set] at member
    refine forall_mem_replace split wider ?_ other member
    rcases changed with rfl | ⟨ADD, DEC, booked⟩
    · exact cacheWithin_empty _
    · exact (within cacheMap (List.mem_of_getElem? found)).mainTain few booked

theorem moved_within (channel : String) (before after : Option String) :
    -1 ≤ moved channel before after ∧ moved channel before after ≤ 1 := by
  unfold moved
  split <;> split <;> omega

theorem attemptLoss_of_few {transforms : Vod.Transforms} (channel : String) {bound : Nat}
    {s : Vod.State} (within : CachesWithin bound s) (few : bound + 1 < 2 ^ 31) (log : String)
    (task : Nat) (fails : Bool) :
    attemptLoss transforms channel s log task fails = failedMove transforms channel s log fails := by
  cases fails with
  | true => rfl
  | false =>
    simp only [attemptLoss, failedMove, Bool.false_eq_true, if_false]
    split
    · rfl
    · rename_i input emitted
      split
      · split
        · rename_i cacheMap found
          have held := within cacheMap (List.mem_of_getElem? found) (totalKey channel)
          have move := moved_within channel (watched s.servers.mac input.mac)
            (channelAfter input (watched s.servers.mac input.mac))
          exact overflow_int_iff.mpr (by omega)
        · rfl
      · rfl

/-- In fewer than `2 ^ 31` steps only the moves of failed attempts are lost. -/
theorem lost_of_few {transforms : Vod.Transforms} (columns : transforms.Columns) (channel : String)
    (actions : List Vod.Action) {bound : Nat} {s last : Vod.State} (inv : VodInv s)
    (within : CachesWithin bound s) (few : bound + actions.length < 2 ^ 31)
    (reached : runSteps (Vod.State.step transforms) s actions = some last) :
    sumAlong (Vod.State.step transforms) (lostIn transforms channel) s actions =
      sumAlong (Vod.State.step transforms) (failedIn transforms channel) s actions := by
  induction actions generalizing s bound with
  | nil => rfl
  | cons action rest ih =>
    obtain ⟨next, taken, reached⟩ := Option.bind_eq_some_iff.mp reached
    rw [List.length_cons] at few
    have step := vod_step_lowers columns inv taken
    have later := ih step.inv (within.step (by omega) step.books) (by omega) reached
    have here : lostIn transforms channel s action = failedIn transforms channel s action := by
      cases action with
      | play log task fails => exact attemptLoss_of_few channel within (by omega) log task fails
      | replay index task fails =>
        simp only [lostIn, failedIn]
        split
        · exact attemptLoss_of_few channel within (by omega) _ task fails
        · rfl
      | tick task order => rfl
    simp only [sumAlong, taken, Option.map_some, Option.getD_some, here, later]

/-! ### Runs of one device -/

/-- Parsers of lines `type|version|partner|mac|channel|pt`. -/
def columnTransforms : Vod.Transforms where
  hex := GitvTime.Source.Numbers.asciiHexDigit
  getPingbackVersion version := if version = "V1_0" then some .V1_0 else some .other
  decodeV1 line :=
    match strSplit line with
    | [_, _, partner, mac, chnName, playType] =>
      some ⟨some partner, some mac, some chnName, if playType = "0" then 0 else 5⟩
    | _ => none
  decodeV2 _ := none

theorem columnTransforms_columns : columnTransforms.Columns := by
  have pieces : ∀ {line log}, columnTransforms.decodeV1 line = some log ∨
      columnTransforms.decodeV2 line = some log → ∀ {piece},
        log.partner = some piece ∨ log.mac = some piece ∨ log.chnName = some piece →
          piece ∈ strSplit line := by
    intro line log decoded piece field
    rcases decoded with decoded | decoded
    · simp only [columnTransforms] at decoded
      split at decoded
      · rename_i split_eq
        cases decoded
        rw [split_eq]
        rcases field with h | h | h <;> cases h <;> simp
      · cases decoded
    · cases decoded
  exact ⟨fun _ _ _ decoded h => barFree_of_mem_strSplit (pieces decoded (.inl h)),
    fun _ _ _ decoded h => barFree_of_mem_strSplit (pieces decoded (.inr (.inl h))),
    fun _ _ _ decoded h => barFree_of_mem_strSplit (pieces decoded (.inr (.inr h)))⟩

def startLog : String := "V1_VOD|V1_0|p1|AABB|c1|0"

/-- A second start of the channel a device watches fails and is replayed. -/
def restartRun : List Vod.Action :=
  [.play startLog 0 false, .play startLog 0 true, .replay 0 0 false,
    .tick 0 [("partner|p1|c1", 1), ("total|c1", 1)]]

theorem restart_restored : ∃ last,
    runSteps (Vod.State.step columnTransforms) (Vod.State.init 1) restartRun = some last ∧
      CountsSessions last := by
  obtain ⟨last, ran, flushed⟩ : ∃ last,
      runSteps (Vod.State.step columnTransforms) (Vod.State.init 1) restartRun = some last ∧
        last.tasks = [∅] := ⟨_, rfl, rfl⟩
  refine ⟨last, ran, (replay_restores_iff columnTransforms columnTransforms_columns 1 restartRun
    last ran ?_).mpr fun channel => ?_⟩
  · simp [flushed]
  · have within : CachesWithin 0 (Vod.State.init 1) := fun cacheMap member => by
      rw [List.eq_of_mem_replicate member]
      exact cacheWithin_empty 0
    rw [lost_of_few columnTransforms_columns channel restartRun (.init 1) within (by decide) ran]
    change (0 : Int) + (moved channel (some "c1") (some "c1") + (0 + (0 + 0))) = 0
    simp [moved]

/-- The start of a device fails and is replayed. -/
def startRun : List Vod.Action :=
  [.play startLog 0 true, .replay 0 0 false,
    .tick 0 [("partner|p1|c1", 0), ("total|c1", 0)]]

theorem replay_does_not_restore :
    ¬ ∀ (transforms : Vod.Transforms) (tasks : Nat) (actions : List Vod.Action) (last : Vod.State),
      transforms.Columns →
        runSteps (Vod.State.step transforms) (Vod.State.init tasks) actions = some last →
          last.failed = [] → (∀ cacheMap ∈ last.tasks, cacheMap = ∅) → CountsSessions last := by
  intro restores
  obtain ⟨last, ran, settled, flushed, uncounted, watching⟩ : ∃ last,
      runSteps (Vod.State.step columnTransforms) (Vod.State.init 1) startRun = some last ∧
        last.failed = [] ∧ last.tasks = [∅] ∧ counter (totalKey "c1") last.servers = 0 ∧
          (storedValue last.servers.mac "AABB").map piece0 = some "c1" :=
    ⟨_, rfl, rfl, rfl, by decide, by decide⟩
  obtain ⟨finite, counted⟩ :=
    restores _ _ _ last columnTransforms_columns ran settled (by simp [flushed]) "c1"
  rw [uncounted] at counted
  have nobody := (Set.ncard_eq_zero finite).mp (by omega)
  exact Set.notMem_empty "AABB" (nobody ▸ watching)

end GitvTime.Guarantees.Realtime
