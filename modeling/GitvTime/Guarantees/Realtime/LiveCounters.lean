import GitvTime.Guarantees.Realtime.SoloRuns

/-!
# The user counters over whole runs

Totals are conserved exactly in the runs in which no cached delta of a total
leaves the 32 bits of its `Integer`. For partner counters, moreover, no
`Mac2Redis` commit may replace or end a session of another partner: the switch
and the stop book the old user out with the stored channel and the partner of
the new event, while `TriggerTask` uses the stored partner.
-/
namespace GitvTime.Guarantees.Realtime
open GitvTime.Support GitvTime.Source.StringHandle GitvTime.Source.Realtime

/-! ### Deltas in 32 bits -/

/-- A tuple that a `UserCount` task takes leaves the delta cached there for the
key within the range of an `Integer`. -/
def FitsCache (key : String) (s : State) : Action → Prop
  | .tuple index task => ∀ tuple cacheMap, s.inFlight[index]? = some tuple →
      s.tasks[task]? = some ⟨cacheMap, none⟩ →
        -2 ^ 31 ≤ cachedAt key cacheMap + tupleDelta key tuple ∧
          cachedAt key cacheMap + tupleDelta key tuple < 2 ^ 31
  | _ => True

theorem slip_tuple (key : String) (s : State) (index task : Nat) :
    slip key s (.tuple index task) = 0 ↔ FitsCache key s (.tuple index task) := by
  simp only [slip, FitsCache]
  split
  · rename_i tuple cacheMap sent idle
    rw [Int.neg_eq_zero, overflow_int_iff, sent, idle]
    constructor
    · rintro within tuple' cacheMap' ⟨⟩ ⟨⟩
      exact within
    · intro within
      exact within tuple cacheMap rfl rfl
  · rename_i impossible
    refine iff_of_true rfl fun tuple cacheMap sent idle => ?_
    exact absurd idle (impossible tuple cacheMap sent)

/-! ### Totals -/

/-- Every total counter, with what is cached, in flight and owed, is the number
of devices whose stored session names its channel. -/
def TotalsBalance (s : State) : Prop :=
  ∀ channel,
    {mac | (storedValue s.servers.mac mac).map piece0 = some channel}.Finite ∧
      ledger (totalKey channel) s =
        {mac | (storedValue s.servers.mac mac).map piece0 = some channel}.ncard

theorem piece0_pair {channel : String} (hc : BarFree channel) (partner : String) :
    piece0 (strJoin₂ channel partner) = channel := by
  simp [piece0, strSplit_strJoin₂ hc]

theorem totalKey_eq_iff (channel other : String) :
    totalKey channel = totalKey other ↔ channel = other := by
  constructor
  · intro same
    exact (strJoin₂_inj (by decide) (by decide) same).2
  · rintro rfl
    rfl

theorem bookDelta_total (channel : String) {channel' partner : String} (hc : BarFree channel')
    (hp : BarFree partner) :
    bookDelta (totalKey channel) (some (strJoin₂ channel' partner)) =
      if channel' = channel then 1 else 0 := by
  rw [bookDelta_pair _ hc hp, if_neg (total_ne_partner channel channel' partner).symm]
  simp [totalKey_eq_iff]

theorem sessions_total {db : Keyspace} (wf : WellFormed db) (channel : String) :
    sessions (totalKey channel) db =
      {mac | (storedValue db mac).map piece0 = some channel} := by
  ext mac
  simp only [sessions, Set.mem_ofPred_eq]
  cases stored : storedValue db mac with
  | none => simp [bookDelta]
  | some value =>
    obtain ⟨channel', partner, hc, hp, rfl⟩ := wf.stored_pair mac value stored
    rw [bookDelta_total channel hc hp]
    simp [piece0_pair hc]

/-- Booking out with another partner is the same for the total. -/
theorem slipOver_total {db : Keyspace} (wf : WellFormed db) (mac channel : String)
    {partner : String} (hp : BarFree partner) :
    slipOver (totalKey channel) partner (storedValue db mac) = 0 := by
  cases stored : storedValue db mac with
  | none => rfl
  | some value =>
    obtain ⟨channel', partner', hc, hp', rfl⟩ := wf.stored_pair mac value stored
    simp only [slipOver, piece0_pair hc]
    rw [bookDelta_total channel hc hp', bookDelta_total channel hc hp]
    omega

theorem slip_total {s : State} (inv : Inv s) (channel : String) (action : Action) :
    slip (totalKey channel) s action = 0 ↔ FitsCache (totalKey channel) s action := by
  cases action with
  | run index =>
    refine iff_of_true ?_ trivial
    simp only [slip]
    split
    · split
      · exact slipOver_total inv.wf _ _ (PlayEvent.partner_free _)
      · rfl
    · rfl
  | tuple index task => exact slip_tuple _ s index task
  | _ => exact iff_of_true rfl trivial

theorem totalsBalance_iff {s : State} (inv : Inv s) :
    TotalsBalance s ↔ ∀ channel, imbalance (totalKey channel) s = 0 := by
  refine forall_congr' fun channel => ?_
  have finite := sessions_finite (totalKey channel) inv.finite
  rw [← sessions_total inv.wf channel]
  simp only [imbalance, finite, true_and]
  omega

/-- The total counters are conserved throughout a run exactly when every tuple
leaves the cached deltas of the totals within 32 bits. -/
theorem total_counters_conserved_iff (tasks : Nat) (actions : List Action) :
    AllStates State.step TotalsBalance (State.init tasks) actions ↔
      AllSteps State.step (fun s action => ∀ channel, FitsCache (totalKey channel) s action)
        (State.init tasks) actions := by
  refine AllStates.iff_allSteps Inv (fun s action s' inv taken => inv.step taken) ?_ actions
    (.init tasks) ((totalsBalance_iff (.init tasks)).mpr fun _ => imbalance_init _ tasks)
  intro s action s' inv balanced taken
  rw [totalsBalance_iff inv] at balanced
  rw [totalsBalance_iff (inv.step taken)]
  refine forall_congr' fun channel => ?_
  rw [imbalance_step _ inv taken, balanced channel, Int.zero_add]
  exact slip_total inv channel action

/-! ### More users than an `Integer` counts -/

/-- A program that runs alone in the topology ends, and has sent its tuples. -/
theorem run_to_end (s : State) (owner : Owner) (conn : Conn) (prog : RedisProg (List Output)) :
    ∃ actions, runSteps State.step { s with running := [⟨owner, conn, prog⟩] } actions =
      some { s with servers := (redis.runAlone s.servers conn prog).1, running := []
                    inFlight := s.inFlight ++
                      userCountTuples (redis.runAlone s.servers conn prog).2.2 } := by
  induction prog generalizing s conn with
  | done outputs => exact ⟨[.run 0], rfl⟩
  | call command next ih =>
    let outcome := redis.perform command s.servers conn
    rw [Server.runAlone_call]
    rcases rest : next outcome.2.2 with outputs | ⟨command', next'⟩
    · refine ⟨[.run 0], ?_⟩
      simp [runSteps, State.step, State.settle, rest, outcome]
    · obtain ⟨actions, reached⟩ := ih outcome.2.2 { s with servers := outcome.1 } outcome.2.1
      rw [rest] at reached
      refine ⟨.run 0 :: actions, Eq.trans ?_ reached⟩
      simp [runSteps, State.step, State.settle, rest, outcome]

/-- An event when nothing else runs. -/
theorem event_to_end {s : State} (alone : s.running = []) (event : PlayEvent) :
    let ran := redis.runAlone s.servers Conn.fresh (Live.checkMacAndHandle event.toTuple)
    ∃ actions, runSteps State.step s actions =
      some { s with servers := ran.1, inFlight := s.inFlight ++ userCountTuples ran.2.2 } := by
  obtain ⟨servers, expired, running, inFlight, tasks⟩ := s
  cases alone
  obtain ⟨actions, reached⟩ := run_to_end ⟨servers, expired, [], inFlight, tasks⟩
    (.mac2Redis event) Conn.fresh (Live.checkMacAndHandle event.toTuple)
  exact ⟨.event event :: actions, reached⟩

/-- The device of `startEvent` stops. -/
def stopEvent : PlayEvent :=
  ⟨⟨"p1", "AABB", "", "1", "1", "c1"⟩, by decide, by decide, by decide⟩

/-- Nothing runs, the device is not watching, and the only task is idle. -/
structure Stopped (s : State) (cacheMap : CacheMap) : Prop where
  alone : s.running = []
  away : storedValue s.servers.mac "AABB" = none
  idle : s.tasks = [⟨cacheMap, none⟩]

/-- The device starts: its ADD is in flight. -/
theorem start_to_end {s : State} {cacheMap : CacheMap} (stopped : Stopped s cacheMap) :
    ∃ actions started, runSteps State.step s actions = some started ∧
      started.inFlight = s.inFlight ++ [(some (strJoin₂ "c1" "p1"), none)] ∧
        started.running = [] ∧ started.tasks = [⟨cacheMap, none⟩] ∧
          storedValue started.servers.mac "AABB" = some (strJoin₂ "c1" "p1") := by
  obtain ⟨actions, reached⟩ := event_to_end stopped.alone startEvent
  obtain ⟨mac_eq, out, _⟩ := event_alone (Live.sessionBolt startEvent.toTuple) s.servers
  rw [answered_play rfl] at mac_eq out
  have away : storedValue s.servers.mac (Live.sessionBolt startEvent.toTuple).mac = none :=
    stopped.away
  rw [away] at out
  refine ⟨actions, _, reached, ?_, stopped.alone, stopped.idle, ?_⟩
  · exact congrArg (s.inFlight ++ userCountTuples ·) out
  · refine (congrArg (storedValue · "AABB") mac_eq).trans ?_
    rw [setSession_stored startEvent.mac_free]
    rfl

/-- The device stops: its DEC is in flight, and stays there. -/
theorem stop_to_end {s : State} {cacheMap : CacheMap} (alone : s.running = [])
    (idle : s.tasks = [⟨cacheMap, none⟩])
    (watching : storedValue s.servers.mac "AABB" = some (strJoin₂ "c1" "p1")) :
    ∃ actions stopped, runSteps State.step s actions = some stopped ∧ Stopped stopped cacheMap := by
  obtain ⟨actions, reached⟩ := event_to_end alone stopEvent
  obtain ⟨mac_eq, _, _⟩ := event_alone (Live.sessionBolt stopEvent.toTuple) s.servers
  have stored : storedValue s.servers.mac (Live.sessionBolt stopEvent.toTuple).mac =
    some (strJoin₂ "c1" "p1") := watching
  rw [stored, answered_stop_some (by decide) (.inl rfl) (by decide)] at mac_eq
  refine ⟨actions, _, reached, alone, ?_, idle⟩
  refine (congrArg (storedValue · "AABB") mac_eq).trans ?_
  rw [delSession_stored stopEvent.mac_free]
  rfl

/-- The task books the newest tuple when it is the ADD of the device. -/
theorem add_taken {started : State} {cacheMap : CacheMap} {front : List (Option String × Option String)}
    (flying : started.inFlight = front ++ [(some (strJoin₂ "c1" "p1"), none)])
    (idle : started.tasks = [⟨cacheMap, none⟩]) :
    ∃ cacheMap', started.step (.tuple front.length 0) =
        some { started with inFlight := front, tasks := [⟨cacheMap', none⟩] } ∧
      cachedAt (totalKey "c1") cacheMap' =
        (cachedAt (totalKey "c1") cacheMap + 1).bmod (2 ^ 32) := by
  obtain ⟨cacheMap', acked⟩ : ∃ cacheMap',
      UserCount.mainTain cacheMap (some (strJoin₂ "c1" "p1")) none = (cacheMap', .ack) := ⟨_, rfl⟩
  have booked := mainTain_cachedAt (totalKey "c1") acked
  have one : tupleDelta (totalKey "c1") (some (strJoin₂ "c1" "p1"), none) = 1 := by decide
  rw [one] at booked
  have kept : (front ++ [(some (strJoin₂ "c1" "p1"), (none : Option String))]).eraseIdx
      front.length = front := by
    rw [List.eraseIdx_append_of_length_le (Nat.le_refl _)]
    simp
  refine ⟨cacheMap', ?_, booked⟩
  simp [State.step, flying, idle, acked, kept]

/-- The device starts, the task takes the ADD, and the device stops. -/
theorem one_more {s : State} {cacheMap : CacheMap} (stopped : Stopped s cacheMap) :
    ∃ actions stopped' cacheMap', runSteps State.step s actions = some stopped' ∧
      Stopped stopped' cacheMap' ∧ cachedAt (totalKey "c1") cacheMap' =
        (cachedAt (totalKey "c1") cacheMap + 1).bmod (2 ^ 32) := by
  obtain ⟨starting, started, to_started, flying, alone, idle, watching⟩ := start_to_end stopped
  obtain ⟨cacheMap', taken, booked⟩ := add_taken flying idle
  obtain ⟨stopping, last, to_last, stopped'⟩ := stop_to_end
    (s := { started with inFlight := s.inFlight, tasks := [⟨cacheMap', none⟩] }) alone rfl watching
  exact ⟨_, last, cacheMap', runSteps_append (runSteps_snoc to_started taken) to_last,
    stopped', booked⟩

/-- The task can be brought to any delta an `Integer` holds. -/
theorem caches_up_to (users : Nat) (fits : users < 2 ^ 31) :
    ∃ actions s cacheMap, runSteps State.step (State.init 1) actions = some s ∧
      Stopped s cacheMap ∧ cachedAt (totalKey "c1") cacheMap = users := by
  induction users with
  | zero => exact ⟨[], State.init 1, ∅, rfl, ⟨rfl, rfl, rfl⟩, rfl⟩
  | succ users ih =>
    obtain ⟨actions, s, cacheMap, reached, stopped, cached⟩ := ih (by omega)
    obtain ⟨more, s', cacheMap', reached', stopped', booked⟩ := one_more stopped
    refine ⟨_, s', cacheMap', runSteps_append reached reached', stopped', ?_⟩
    rw [booked, cached, Int.bmod_eq_of_le (by omega) (by omega)]
    rfl

/-- After `2 ^ 31` starts of a channel that one task takes before it flushes, the
cached total is negative. -/
theorem total_counters_not_conserved :
    ¬ ∀ tasks actions, AllStates State.step TotalsBalance (State.init tasks) actions := by
  intro conserved
  obtain ⟨filling, s, cacheMap, full, stopped, cached⟩ := caches_up_to (2 ^ 31 - 1) (by omega)
  obtain ⟨starting, started, to_started, flying, _, idle, _⟩ := start_to_end stopped
  obtain ⟨cacheMap', taken, _⟩ := add_taken flying idle
  have steps := (total_counters_conserved_iff 1 _).mp
    (conserved 1 (filling ++ starting ++ [.tuple s.inFlight.length 0]))
  have within := steps.at_end (runSteps_append full to_started) taken "c1"
    (some (strJoin₂ "c1" "p1"), none) cacheMap (by simp [flying]) (by simp [idle])
  have one : tupleDelta (totalKey "c1") (some (strJoin₂ "c1" "p1"), none) = 1 := by decide
  rw [cached, one] at within
  omega

/-! ### Partner counters -/

/-- Every partner counter, with what is cached, in flight and owed, is the number
of devices whose stored session is of its channel and partner. -/
def PartnersBalance (s : State) : Prop :=
  ∀ partner channel,
    {mac | storedValue s.servers.mac mac = some (strJoin₂ channel partner)}.Finite ∧
      ledger (partnerKey partner channel) s =
        {mac | storedValue s.servers.mac mac = some (strJoin₂ channel partner)}.ncard

/-- A `Mac2Redis` EXEC that is about to go through over a stored session comes
from an event of the stored partner. -/
def PartnerKept (s : State) : Action → Prop
  | .run index => ∀ event client, s.running[index]? = some ⟨.mac2Redis event, client⟩ →
      commits s.servers.mac client = true → ∀ value,
        storedValue s.servers.mac event.mac = some value →
          (strSplit value)[1]? = some event.partner
  | _ => True

theorem partnerKey_eq_iff {channel partner : String} (hc : BarFree channel) (hp : BarFree partner)
    (channel' partner' : String) :
    partnerKey partner channel = partnerKey partner' channel' ↔
      channel = channel' ∧ partner = partner' := by
  constructor
  · intro same
    unfold partnerKey at same
    rw [strJoin_triple, strJoin_triple] at same
    obtain ⟨_, same⟩ := strJoin₂_inj (by decide) (by decide) same
    obtain ⟨partners, channels⟩ := strJoin₂_inj_of_free hp hc same
    exact ⟨channels, partners⟩
  · rintro ⟨rfl, rfl⟩
    rfl

theorem bookDelta_partner (partner channel : String) {channel' partner' : String}
    (hc : BarFree channel') (hp : BarFree partner') :
    bookDelta (partnerKey partner channel) (some (strJoin₂ channel' partner')) =
      if channel' = channel ∧ partner' = partner then 1 else 0 := by
  rw [bookDelta_pair _ hc hp, if_neg (total_ne_partner channel' channel partner)]
  simp [partnerKey_eq_iff hc hp]

theorem sessions_partner {db : Keyspace} (wf : WellFormed db) (partner channel : String) :
    sessions (partnerKey partner channel) db =
      {mac | storedValue db mac = some (strJoin₂ channel partner)} := by
  ext mac
  simp only [sessions, Set.mem_ofPred_eq]
  cases stored : storedValue db mac with
  | none => simp [bookDelta]
  | some value =>
    obtain ⟨channel', partner', hc, hp, rfl⟩ := wf.stored_pair mac value stored
    rw [bookDelta_partner partner channel hc hp]
    constructor
    · intro counted
      split at counted
      · rename_i same
        rw [same.1, same.2]
      · cases counted
    · intro same
      rw [if_pos (strJoin₂_inj_of_free hc hp (Option.some.inj same))]

theorem partnersBalance_iff {s : State} (inv : Inv s) :
    PartnersBalance s ↔ ∀ partner channel, imbalance (partnerKey partner channel) s = 0 := by
  refine forall_congr' fun partner => forall_congr' fun channel => ?_
  have finite := sessions_finite (partnerKey partner channel) inv.finite
  rw [← sessions_partner inv.wf partner channel]
  simp only [imbalance, finite, true_and]
  omega

/-- A commit over a stored session books every partner counter right exactly
when the partner is the stored one. -/
theorem slipOver_partner {channel partner : String} (hc : BarFree channel) (hp : BarFree partner)
    {newPartner : String} (hn : BarFree newPartner) :
    (∀ p c, slipOver (partnerKey p c) newPartner (some (strJoin₂ channel partner)) = 0) ↔
      partner = newPartner := by
  constructor
  · intro exact_everywhere
    have here := exact_everywhere partner channel
    simp only [slipOver, piece0_pair hc] at here
    rw [bookDelta_partner _ _ hc hp, bookDelta_partner _ _ hc hn, if_pos ⟨rfl, rfl⟩] at here
    by_contra different
    rw [if_neg fun same => different same.2.symm] at here
    omega
  · rintro rfl p c
    simp only [slipOver, piece0_pair hc]
    omega

theorem slip_partner {s : State} (inv : Inv s) (action : Action) :
    (∀ p c, slip (partnerKey p c) s action = 0) ↔
      PartnerKept s action ∧ ∀ p c, FitsCache (partnerKey p c) s action := by
  cases action with
  | tuple index task => simp only [slip_tuple, PartnerKept, true_and]
  | run index =>
    simp only [slip, PartnerKept, FitsCache, implies_true, and_true]
    split
    · rename_i event client found
      by_cases commit : commits s.servers.mac client = true
      · simp only [if_pos commit]
        constructor
        · rintro exact_everywhere event' client' owned _ value stored
          rw [found] at owned
          cases owned
          obtain ⟨channel, partner, hc, hp, rfl⟩ := inv.wf.stored_pair _ value stored
          rw [stored, slipOver_partner hc hp event.partner_free] at exact_everywhere
          rw [strSplit_pair hc hp, exact_everywhere]
          rfl
        · intro kept
          cases stored : storedValue s.servers.mac event.mac with
          | none => exact fun _ _ => rfl
          | some value =>
            have same := kept event client found commit value stored
            obtain ⟨channel, partner, hc, hp, rfl⟩ := inv.wf.stored_pair _ value stored
            rw [slipOver_partner hc hp event.partner_free]
            simpa [strSplit_pair hc hp] using same
      · simp only [if_neg commit, implies_true, true_iff]
        intro event' client' owned commit'
        rw [found] at owned
        cases owned
        exact absurd commit' commit
    · rename_i other
      simp only [implies_true, true_iff]
      intro event client found
      exact absurd found (other event client)
  | _ => simp [slip, PartnerKept, FitsCache]

/-- The partner counters are conserved throughout a run exactly when every
`Mac2Redis` commit over a stored session has the stored partner and every tuple
leaves the cached deltas of the partners within 32 bits. -/
theorem partner_counters_conserved_iff (tasks : Nat) (actions : List Action) :
    AllStates State.step PartnersBalance (State.init tasks) actions ↔
      AllSteps State.step
        (fun s action => PartnerKept s action ∧ ∀ p c, FitsCache (partnerKey p c) s action)
        (State.init tasks) actions := by
  refine AllStates.iff_allSteps Inv (fun s action s' inv taken => inv.step taken) ?_ actions
    (.init tasks) ((partnersBalance_iff (.init tasks)).mpr fun _ _ => imbalance_init _ tasks)
  intro s action s' inv balanced taken
  rw [partnersBalance_iff inv] at balanced
  rw [partnersBalance_iff (inv.step taken), ← slip_partner inv action]
  refine forall_congr' fun partner => forall_congr' fun channel => ?_
  rw [imbalance_step _ inv taken, balanced partner channel]
  omega

/-- One device starts a channel under partner `p1` and stops it with an event of
partner `p2`. -/
def partnerChangeRun : List Action :=
  [.event startEvent, .run 0, .run 0, .run 0,
    .event ⟨⟨"p2", "AABB", "", "1", "1", "c1"⟩, by decide, by decide, by decide⟩,
    .run 0, .run 0, .run 0]

/-- After this run `partner|p2|c1` is owed one user less than none. -/
theorem partner_counters_not_conserved :
    ¬ ∀ tasks actions, AllStates State.step PartnersBalance (State.init tasks) actions := by
  intro conserved
  obtain ⟨last, reached, negative⟩ : ∃ last,
      runSteps State.step (State.init 0) partnerChangeRun = some last ∧
        ledger (partnerKey "p2" "c1") last = -1 := ⟨_, rfl, by decide⟩
  have balanced := ((conserved 0 partnerChangeRun).last reached "p2" "c1").2
  omega

end GitvTime.Guarantees.Realtime
