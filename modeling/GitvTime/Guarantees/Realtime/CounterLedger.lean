import GitvTime.Guarantees.Realtime.LiveInvariant
import GitvTime.Support.Counting
import GitvTime.Support.Wrapping

/-!
# Where a counted user can be

A user of a channel is counted in the Redis counter, in the cache of a
`UserCount` task, in a tuple on its way there, or, negatively, in a decrement
that a `TriggerTask` still owes. `ledger` adds these up for one counter key and
`sessions` are the devices the counter should count. One step changes the
difference of the two by `slip`, which is zero except for a `Mac2Redis` commit
over a stored session and for a tuple that takes a cached delta out of 32 bits.
-/
namespace GitvTime.Guarantees.Realtime
open GitvTime.Support GitvTime.Source.StringHandle GitvTime.Source.Realtime

/-! ### Booking a value under its two keys -/

/-- What one user with the value `channel|partner` adds to a counter key. -/
def bookDelta (key : String) : Option String → Int
  | none => 0
  | some value =>
    match strSplit value with
    | channel :: partner :: _ =>
      (if totalKey channel = key then 1 else 0) + (if partnerKey partner channel = key then 1 else 0)
    | _ => 0

@[simp] theorem bookDelta_none (key : String) : bookDelta key none = 0 := rfl

theorem bookDelta_of_split (key : String) {value channel partner : String} {rest : List String}
    (pieces : strSplit value = channel :: partner :: rest) :
    bookDelta key (some value) =
      (if totalKey channel = key then 1 else 0) +
        (if partnerKey partner channel = key then 1 else 0) := by
  simp only [bookDelta, pieces]

theorem bookDelta_of_single (key : String) {value only : String} (pieces : strSplit value = [only]) :
    bookDelta key (some value) = 0 := by
  simp only [bookDelta, pieces]

/-- The key texts of the expiry handlers. -/
theorem total_text (channel : String) : "total|" ++ channel = totalKey channel := by
  rw [← String.toList_inj]
  simp [totalKey, strJoin₂, String.toList_append]

theorem partner_text (partner channel : String) :
    "partner|" ++ partner ++ "|" ++ channel = partnerKey partner channel := by
  rw [partnerKey, strJoin_triple, ← String.toList_inj]
  simp [strJoin₂, String.toList_append]

theorem bookDelta_pair (key : String) {channel partner : String} (hc : BarFree channel)
    (hp : BarFree partner) :
    bookDelta key (some (strJoin₂ channel partner)) =
      (if totalKey channel = key then 1 else 0) +
        (if partnerKey partner channel = key then 1 else 0) :=
  bookDelta_of_split key (strSplit_pair hc hp)

theorem total_ne_partner (channel channel' partner : String) :
    totalKey channel ≠ partnerKey partner channel' := by
  intro same
  unfold totalKey partnerKey at same
  rw [strJoin_triple] at same
  have := (strJoin₂_inj (by decide) (by decide) same).1
  exact absurd this (by decide)

/-- A value is counted at most once under a key. -/
theorem bookDelta_cases (key : String) (read : Option String) :
    bookDelta key read = 0 ∨ bookDelta key read = 1 := by
  cases read with
  | none => exact .inl rfl
  | some value =>
    rcases strSplit_cases value with ⟨channel, partner, rest, pieces⟩ | ⟨only, pieces⟩
    · rw [bookDelta_of_split key pieces]
      have distinct := total_ne_partner channel channel partner
      by_cases total : totalKey channel = key
      · rw [if_pos total, if_neg fun h => distinct (total.trans h.symm)]
        exact .inr rfl
      · rw [if_neg total]
        split
        · exact .inr rfl
        · exact .inl rfl
    · exact .inl (bookDelta_of_single key pieces)

/-- The devices that a counter key should count. -/
def sessions (key : String) (db : Keyspace) : Set String :=
  {mac | bookDelta key (storedValue db mac) = 1}

theorem sessions_finite (key : String) {db : Keyspace}
    (finite : {mac | (storedValue db mac).isSome = true}.Finite) : (sessions key db).Finite := by
  refine finite.subset fun mac member => ?_
  cases stored : storedValue db mac with
  | none =>
    rw [sessions, Set.mem_ofPred_eq, stored] at member
    cases member
  | some value => simp [stored]

open Classical in
theorem sessions_indicator (key : String) (db : Keyspace) (mac : String) :
    (if mac ∈ sessions key db then (1 : Int) else 0) = bookDelta key (storedValue db mac) := by
  rcases bookDelta_cases key (storedValue db mac) with zero | one
  · rw [zero, if_neg]
    simp [sessions, zero]
  · rw [one, if_pos]
    exact one

/-- Writing the session of one device changes the number of sessions by the
difference at that device. -/
theorem sessions_change (key : String) {db : Keyspace} (db' : Keyspace) (device : String)
    (finite : {mac | (storedValue db mac).isSome = true}.Finite)
    (others : ∀ mac, mac ≠ device → storedValue db' mac = storedValue db mac) :
    ((sessions key db').ncard : Int) - (sessions key db).ncard =
      bookDelta key (storedValue db' device) - bookDelta key (storedValue db device) := by
  have counted := ncard_change_at (sessions key db') device (sessions_finite key finite)
    fun mac different => by simp [sessions, others mac different]
  rw [sessions_indicator, sessions_indicator] at counted
  omega

/-- The number of sessions depends on the stored values only. -/
theorem sessions_congr (key : String) {db db' : Keyspace}
    (same : ∀ mac, storedValue db' mac = storedValue db mac) :
    sessions key db' = sessions key db := by
  simp [sessions, same]

/-! ### The ledger of a counter key -/

def counter (key : String) (s : Servers) : Int := (s.comp.value key).getD 0

/-- What a tuple on the user-count stream will book. -/
def tupleDelta (key : String) (tuple : Option String × Option String) : Int :=
  bookDelta key tuple.1 - bookDelta key tuple.2

/-- The INCRBYs of a key that a program is about to issue. -/
def pendingDelta {α : Type} (key : String) : RedisProg α → Int
  | .done _ => 0
  | .call (.incrBy other delta) next =>
    (if other = key then delta else 0) + pendingDelta key (next ())
  | .call _ _ => 0

/-- The delta that a cache holds for a key. -/
def cachedAt (key : String) (cacheMap : CacheMap) : Int := ((cacheMap.lookup key).getD 0).toInt

@[simp] theorem cachedAt_empty (key : String) : cachedAt key ∅ = 0 := rfl

/-- The delta a `UserCount` task has cached and not sent yet. -/
def cachedDelta (key : String) (task : CountTask) : Int :=
  match task.flush with
  | none => cachedAt key task.cacheMap
  | some rest => pendingDelta key rest

/-- The decrements a program still owes: only a `TriggerTask` past its EXEC has any. -/
def owed (key : String) (process : Process) : Int := -pendingDelta key process.client.prog

def ledger (key : String) (s : State) : Int :=
  counter key s.servers + (s.tasks.map (cachedDelta key)).sum +
    (s.inFlight.map (tupleDelta key)).sum - (s.running.map (owed key)).sum

noncomputable def imbalance (key : String) (s : State) : Int :=
  ledger key s - (sessions key s.servers.mac).ncard

theorem imbalance_init (key : String) (tasks : Nat) : imbalance key (State.init tasks) = 0 := by
  have none_stored : sessions key (State.init tasks).servers.mac = ∅ := by
    ext mac
    simp [sessions, State.init, storedValue, Store.empty, bookDelta]
  rw [imbalance, none_stored]
  simp [ledger, counter, State.init, Store.empty, cachedDelta]

/-! ### `UserCount`: booking and flushing conserve -/

/-- A cached delta fits its 32 bits. -/
theorem cachedAt_kept (key : String) (cacheMap : CacheMap) :
    (cachedAt key cacheMap).bmod (2 ^ 32) = cachedAt key cacheMap :=
  Int32.toInt_bmod _

theorem cachedAt_insert (key other : String) (value : Int32) (cacheMap : CacheMap) :
    cachedAt key (cacheMap.insert other value) =
      if other = key then value.toInt else cachedAt key cacheMap := by
  unfold cachedAt
  by_cases same : other = key
  · subst same
    simp
  · rw [AList.lookup_insert_ne fun h => same h.symm, if_neg same]

theorem cachedAt_of_lookup {key : String} {cacheMap : CacheMap} {value : Option Int32}
    (found : cacheMap.lookup key = value) : cachedAt key cacheMap = (value.getD 0).toInt := by
  rw [cachedAt, found]

theorem cachedAt_cacheInMapAdd (key : String) (cacheMap : CacheMap) (other : String) :
    cachedAt key (UserCount.cacheInMapAdd cacheMap other) =
      (cachedAt key cacheMap + if other = key then 1 else 0).bmod (2 ^ 32) := by
  unfold UserCount.cacheInMapAdd
  by_cases same : other = key
  · subst same
    split <;> rename_i found <;> rw [cachedAt_insert, cachedAt_of_lookup found] <;> simp
  · split <;> rw [cachedAt_insert, if_neg same, if_neg same, Int.add_zero, cachedAt_kept]

theorem cachedAt_cacheInMapDec (key : String) (cacheMap : CacheMap) (other : String) :
    cachedAt key (UserCount.cacheInMapDec cacheMap other) =
      (cachedAt key cacheMap + if other = key then -1 else 0).bmod (2 ^ 32) := by
  unfold UserCount.cacheInMapDec
  by_cases same : other = key
  · subst same
    split <;> rename_i found <;> rw [cachedAt_insert, cachedAt_of_lookup found] <;>
      simp [Int.sub_eq_add_neg]
  · split <;> rw [cachedAt_insert, if_neg same, if_neg same, Int.add_zero, cachedAt_kept]

theorem book_cachedAt {change : CacheMap → String → CacheMap} {key : String} {unit : Int}
    (changes : ∀ cacheMap other, cachedAt key (change cacheMap other) =
      (cachedAt key cacheMap + if other = key then unit else 0).bmod (2 ^ 32))
    {cacheMap cacheMap' : CacheMap} {value : Option String}
    (booked : UserCount.book change cacheMap value = (cacheMap', .ack)) :
    cachedAt key cacheMap' = (cachedAt key cacheMap + unit * bookDelta key value).bmod (2 ^ 32) := by
  cases value with
  | none =>
    cases booked
    rw [bookDelta_none, Int.mul_zero, Int.add_zero, cachedAt_kept]
  | some value =>
    rcases strSplit_cases value with ⟨channel, partner, rest, pieces⟩ | ⟨only, pieces⟩
    · simp only [UserCount.book, pieces] at booked
      cases booked
      rw [bookDelta_of_split key pieces, changes, changes, Int.bmod_add_bmod]
      simp only [Int.mul_add, mul_ite, mul_one, mul_zero, Int.add_assoc]
    · simp [UserCount.book, pieces] at booked

/-- A tuple taken over by a task is cached there, in 32 bits. -/
theorem mainTain_cachedAt (key : String) {cacheMap cacheMap' : CacheMap} {ADD DEC : Option String}
    (booked : UserCount.mainTain cacheMap ADD DEC = (cacheMap', .ack)) :
    cachedAt key cacheMap' =
      (cachedAt key cacheMap + tupleDelta key (ADD, DEC)).bmod (2 ^ 32) := by
  unfold UserCount.mainTain at booked
  split at booked
  · cases booked
  · rename_i added first
    rw [book_cachedAt (cachedAt_cacheInMapDec key) booked,
      book_cachedAt (cachedAt_cacheInMapAdd key) first, Int.bmod_add_bmod]
    congr 1
    simp only [tupleDelta]
    omega

/-! ### Caches far from the bounds of an `Integer` -/

theorem overflow_int_iff {x : Int} : overflow (2 ^ 32) x = 0 ↔ -2 ^ 31 ≤ x ∧ x < 2 ^ 31 := by
  have range := overflow_eq_zero_iff (2 ^ 31) (by decide) (x := x)
  simpa using range

/-- A tuple moves a delta by one at most. -/
theorem tupleDelta_within (key : String) (tuple : Option String × Option String) :
    (tupleDelta key tuple).natAbs ≤ 1 := by
  have add := bookDelta_cases key tuple.1
  have dec := bookDelta_cases key tuple.2
  unfold tupleDelta
  omega

/-- Every delta of the cache lies within the bound. -/
def CacheWithin (bound : Nat) (cacheMap : CacheMap) : Prop :=
  ∀ key, (cachedAt key cacheMap).natAbs ≤ bound

theorem cacheWithin_empty (bound : Nat) : CacheWithin bound ∅ := by
  intro key
  rw [cachedAt_empty]
  exact Nat.zero_le _

section
variable {bound : Nat} {cacheMap : CacheMap}

theorem CacheWithin.fits (within : CacheWithin bound cacheMap) (few : bound + 1 < 2 ^ 31)
    (key : String) (tuple : Option String × Option String) :
    overflow (2 ^ 32) (cachedAt key cacheMap + tupleDelta key tuple) = 0 := by
  have held := within key
  have moved := tupleDelta_within key tuple
  exact overflow_int_iff.mpr (by omega)

theorem CacheWithin.mainTain {cacheMap' : CacheMap} {ADD DEC : Option String}
    (within : CacheWithin bound cacheMap) (few : bound + 1 < 2 ^ 31)
    (booked : UserCount.mainTain cacheMap ADD DEC = (cacheMap', .ack)) :
    CacheWithin (bound + 1) cacheMap' := by
  intro key
  have held := within key
  have moved := tupleDelta_within key (ADD, DEC)
  have fits := within.fits few key (ADD, DEC)
  rw [mainTain_cachedAt key booked, bmod_eq_sub_overflow, fits]
  omega

end

theorem pendingDelta_secondsToRedis (key : String) (order : List (String × Int32)) :
    pendingDelta key (UserCount.secondsToRedis order) =
      (order.map fun entry => if entry.1 = key then entry.2.toInt else 0).sum := by
  induction order with
  | nil => rfl
  | cons entry rest ih =>
    rw [List.map_cons, List.sum_cons, ← ih]
    rfl

theorem entries_sum (key : String) (entries : List (Sigma fun _ : String => Int32))
    (nodup : entries.NodupKeys) :
    (entries.map fun item => if item.1 = key then item.2.toInt else 0).sum =
      ((entries.dlookup key).getD 0).toInt := by
  induction entries with
  | nil => rfl
  | cons item rest ih =>
    obtain ⟨fresh, nodup⟩ := List.nodupKeys_cons.mp nodup
    rw [List.map_cons, List.sum_cons, ih nodup]
    by_cases same : item.1 = key
    · have absent : rest.dlookup key = none := List.dlookup_eq_none.mpr (same ▸ fresh)
      subst same
      rw [absent, if_pos rfl, List.dlookup_cons_eq]
      simp
    · rw [if_neg same, List.dlookup_cons_ne _ _ fun h => same h.symm]
      simp

/-- A flush sends what was cached. -/
theorem flush_delta (key : String) {cacheMap : CacheMap} {order : List (String × Int32)}
    (perm : order.Perm (UserCount.entrySet cacheMap)) :
    pendingDelta key (UserCount.secondsToRedis order) = cachedAt key cacheMap := by
  rw [pendingDelta_secondsToRedis, (perm.map _).sum_eq]
  have entries := entries_sum key cacheMap.entries cacheMap.nodupKeys
  simpa [UserCount.entrySet, Function.comp_def, AList.lookup, cachedAt] using entries

theorem cachedDelta_settle (key : String) (cacheMap : CacheMap) (rest : RedisProg Unit) :
    cachedDelta key (CountTask.settle cacheMap rest) = pendingDelta key rest := by
  cases rest <;> rfl

theorem counter_incr (key other : String) (delta : Int) (s : Servers) :
    counter key { s with comp := incrCounter s.comp other delta } =
      counter key s + if other = key then delta else 0 := by
  unfold counter incrCounter
  by_cases same : other = key
  · subst same
    simp
  · rw [Store.write_value_ne _ _ fun h => same h.symm, if_neg same]
    simp

/-- An INCRBY moves its delta from the program to the counter. -/
theorem increments_conserve (key : String) {α : Type} {Q : α → Prop} (client : RedisClient α)
    (increments : OnlyIncrements Q client.prog) (s : Servers) :
    counter key (redis.advance s client).1 + pendingDelta key (redis.advance s client).2.prog =
      counter key s + pendingDelta key client.prog := by
  obtain ⟨conn, prog⟩ := client
  cases prog with
  | done result => rfl
  | call command next =>
    cases command with
    | incrBy other delta =>
      have counted := counter_incr key other delta s
      simp only [Server.advance_call, redis, perform, pendingDelta]
      omega
    | _ => exact increments.elim

/-! ### Programs before their EXEC owe nothing -/

theorem MacPoint.owes_nothing (key : String) {db : Keyspace} {bolt : SessionBolt}
    {client : RedisClient (List Output)} (point : MacPoint db bolt client) :
    pendingDelta key client.prog = 0 := by
  cases point with
  | start => rfl
  | watched =>
    simp only [SessionBolt.handle]
    split
    · rfl
    · split
      · rfl
      · split <;> rfl
  | playing =>
    simp only [SessionBolt.play]
    split <;> rfl
  | stopping =>
    simp only [SessionBolt.stop]
    split <;> rfl
  | beating =>
    simp only [SessionBolt.heartbeat]
    split <;> rfl

theorem Waiting.owes_nothing (key : String) {db : Keyspace} {mac : String}
    {client : RedisClient (List Output)} (point : Waiting db mac client) :
    pendingDelta key client.prog = 0 := by
  cases point <;> rfl

/-- A committed `TriggerTask` owes one decrement of both counters of the session. -/
theorem pay_owes (key : String) (read : Option String) :
    pendingDelta key (TriggerTask.pay read) = -bookDelta key read := by
  cases read with
  | none => rfl
  | some value =>
    rcases strSplit_cases value with ⟨channel, partner, rest, pieces⟩ | ⟨only, pieces⟩
    · rw [bookDelta_of_split key pieces]
      simp only [TriggerTask.pay, pieces, total_text, partner_text, decr, incrBy, Prog.command_bind,
        pendingDelta, Prog.pure_eq]
      split <;> split <;> rfl
    · rw [bookDelta_of_single key pieces]
      simp only [TriggerTask.pay, pieces]
      rfl

/-! ### One step -/

/-- The error of a commit over the stored `read`: the user that leaves is booked
out with the stored channel but the partner of the event. -/
def slipOver (key partner : String) : Option String → Int
  | none => 0
  | some value =>
    bookDelta key (some value) - bookDelta key (some (strJoin₂ (piece0 value) partner))

/-- What a step adds to the imbalance. -/
def slip (key : String) (s : State) : Action → Int
  | .run index =>
    match s.running[index]? with
    | some ⟨.mac2Redis event, client⟩ =>
      if commits s.servers.mac client = true then
        slipOver key event.partner (storedValue s.servers.mac event.mac)
      else 0
    | _ => 0
  | .tuple index task =>
    match s.inFlight[index]?, s.tasks[task]? with
    | some tuple, some ⟨cacheMap, none⟩ =>
      -overflow (2 ^ 32) (cachedAt key cacheMap + tupleDelta key tuple)
    | _, _ => 0
  | _ => 0

/-- A move of the session machine sends what it changes, up to its slip. -/
theorem MacMove.sent_delta (key : String) {event : PlayEvent} {before after : Keyspace}
    {commit : Bool} {outputs : List Output} (wf : WellFormed before)
    (move : MacMove (Live.sessionBolt event.toTuple) before after commit outputs) :
    ((userCountTuples outputs).map (tupleDelta key)).sum =
      bookDelta key (storedValue after event.mac) - bookDelta key (storedValue before event.mac) +
        if commit = true then slipOver key event.partner (storedValue before event.mac) else 0 := by
  have set_self : storedValue ((Live.sessionBolt event.toTuple).setSession.foldl Write.apply before)
      event.mac = some (strJoin₂ event.channelCode event.partner) := by
    rw [setSession_stored event.mac_free]
    simp
  cases move with
  | idle same silent =>
    rw [same, silent]
    simp
  | refresh after_eq =>
    have same : storedValue after event.mac = storedValue before event.mac := by
      rw [after_eq]
      exact expireKey_stored event.mac_free _ _ _
    rw [same]
    simp [userCountTuples]
  | switch stored after_eq =>
    have held : storedValue before event.mac = some _ := stored
    rw [after_eq, set_self, held]
    simp only [Live.sessionBolt, userCountTuples, List.filterMap_cons, List.filterMap_nil,
      List.map_cons, List.map_nil, List.sum_cons, List.sum_nil, tupleDelta, slipOver, if_true]
    omega
  | begin blank after_eq sent =>
    have absent : storedValue before event.mac = none := (wf.blank_iff event.mac).mp blank
    rw [after_eq, set_self, absent]
    rcases sent with rfl | rfl <;>
      simp [Live.sessionBolt, userCountTuples, tupleDelta, slipOver, bookDelta]
  | stop stored after_eq =>
    have held : storedValue before event.mac = some _ := stored
    have gone : storedValue
        ((Live.sessionBolt event.toTuple).delSession.foldl Write.apply before) event.mac = none := by
      rw [delSession_stored event.mac_free]
      simp
    rw [after_eq, gone, held]
    simp only [Live.sessionBolt, userCountTuples, List.filterMap_cons, List.filterMap_nil,
      List.map_cons, List.map_nil, List.sum_cons, List.sum_nil, tupleDelta, slipOver, if_true,
      bookDelta]
    omega

theorem owed_kept (key : String) (owner : Owner) (client : RedisClient (List Output)) :
    ((kept owner client).map (owed key)).sum = -pendingDelta key client.prog := by
  obtain ⟨conn, prog⟩ := client
  cases prog with
  | done outputs => rfl
  | call command next => simp [kept, owed]

theorem sent_of_onlyIncrements {client : RedisClient (List Output)}
    (increments : OnlyIncrements (fun outputs => outputs = []) client.prog) : sent client = [] := by
  obtain ⟨conn, prog⟩ := client
  cases prog with
  | done outputs =>
    have empty : outputs = [] := increments
    subst empty
    rfl
  | call command next => rfl

/-- What one command of a program does to the counters, its debt, the stream and
the sessions. -/
structure Shift (key : String) (s s' : Servers) (client client' : RedisClient (List Output))
    (slip : Int) : Prop where
  shift : (counter key s' + pendingDelta key client'.prog +
      ((sent client').map (tupleDelta key)).sum) - (sessions key s'.mac).ncard =
    (counter key s + pendingDelta key client.prog) - (sessions key s.mac).ncard + slip

/-- One command of a running program. -/
theorem process_shift (key : String) {s : Servers} {process : Process} (wf : WellFormed s.mac)
    (finite : {mac | (storedValue s.mac mac).isSome = true}.Finite)
    (point : ProcessAt s.mac process) :
    Shift key s (redis.advance s process.client).1 process.client
      (redis.advance s process.client).2
      (match process.owner with
        | .mac2Redis event =>
          if commits s.mac process.client = true then
            slipOver key event.partner (storedValue s.mac event.mac)
          else 0
        | .triggerTask _ => 0) := by
  obtain ⟨owner, client⟩ := process
  cases owner with
  | mac2Redis event =>
    have before := MacPoint.owes_nothing key point
    rcases mac_advance point with ⟨same, point', running, reading⟩ | ⟨ended, comp_same, move⟩
    · constructor
      simp [same, sent_of_running running, point'.owes_nothing key, before, reading]
    · have change := sessions_change key _ event.mac finite
        fun mac different => move.stored_ne event.mac_free different
      have delta := move.sent_delta key wf
      constructor
      simp only [sent_of_done ended, ended, counter, comp_same, pendingDelta] at *
      omega
  | triggerTask mac =>
    obtain ⟨free, waiting | pays⟩ := point
    · have before := waiting.owes_nothing key
      rcases trigger_advance waiting with
        ⟨same, waiting', running, _, _⟩ | ⟨_, comp_same, after_eq, pays⟩ | ⟨_, same, _, ended⟩
      · constructor
        simp [same, sent_of_running running, waiting'.owes_nothing key, before]
      · have change := sessions_change key (redis.advance s client).1.mac mac finite
          fun other different => by rw [after_eq, delKey_stored, if_neg different]
        have gone : storedValue (redis.advance s client).1.mac mac = none := by
          rw [after_eq, delKey_stored, if_pos rfl]
        have increments : OnlyIncrements (fun outputs => outputs = [])
            (redis.advance s client).2.prog := by
          rw [pays]
          exact pay_onlyIncrements _
        have owes := pay_owes key (storedValue s.mac mac)
        rw [← pays] at owes
        rw [gone] at change
        constructor
        simp only [sent_of_onlyIncrements increments, counter, comp_same, bookDelta, List.map_nil,
          List.sum_nil] at *
        omega
      · constructor
        simp [same, sent_of_done ended, ended, userCountTuples, pendingDelta, before]
    · have conserved := increments_conserve key _ pays s
      obtain ⟨same, pays'⟩ := pays.advance _ s
      constructor
      simp only [sent_of_onlyIncrements pays', same, List.map_nil, List.sum_nil] at *
      omega

/-- One step changes the imbalance of a counter by its slip. -/
theorem imbalance_step (key : String) {s s' : State} {action : Action} (inv : Inv s)
    (taken : s.step action = some s') :
    imbalance key s' = imbalance key s + slip key s action := by
  cases step_cases taken with
  | event event =>
    have silent : owed key (Process.ofEvent event) = 0 := rfl
    simp [imbalance, ledger, slip, silent]
  | expire present timed =>
    rename_i device entry modifies
    have free := inv.wf.timed_free _ _ present timed
    have same := sessions_congr key fun mac => lapse_stored free s.servers.mac modifies mac
    simp only [imbalance, ledger, slip, counter, same]
    omega
  | deliver expired_eq =>
    rename_i index front back mac
    have silent : owed key (Process.ofNotification mac) = 0 := rfl
    simp [imbalance, ledger, slip, silent]
  | run found running_eq =>
    rename_i index front back process
    obtain ⟨shift⟩ := process_shift key inv.wf inv.finite (inv.points process (by simp [running_eq]))
    have at_index : slip key s (.run index) = (match process.owner with
        | .mac2Redis event =>
          if commits s.servers.mac process.client = true then
            slipOver key event.partner (storedValue s.servers.mac event.mac)
          else 0
        | .triggerTask _ => 0) := by
      obtain ⟨owner, client⟩ := process
      cases owner <;> simp [slip, found]
    rw [at_index]
    simp only [imbalance, ledger, ran, running_eq, List.map_append, List.sum_append, List.map_cons,
      List.sum_cons, owed_kept]
    have debt : owed key process = -pendingDelta key process.client.prog := rfl
    omega
  | tuple sent idle inFlight_eq tasks_eq booked =>
    rename_i index task front back ADD DEC before after cacheMap cacheMap'
    have cached := mainTain_cachedAt key booked
    rw [bmod_eq_sub_overflow] at cached
    have at_tuple : slip key s (.tuple index task) =
        -overflow (2 ^ 32) (cachedAt key cacheMap + tupleDelta key (ADD, DEC)) := by
      simp [slip, sent, idle]
    rw [at_tuple]
    simp only [imbalance, ledger, inFlight_eq, tasks_eq, List.map_append, List.sum_append,
      List.map_cons, List.sum_cons, cachedDelta]
    omega
  | tick tasks_eq perm =>
    have flushed := flush_delta key perm
    simp only [imbalance, ledger, slip, tasks_eq, List.map_append, List.sum_append,
      List.map_cons, List.sum_cons, cachedDelta_settle]
    simp only [cachedDelta]
    omega
  | push tasks_eq =>
    rename_i task before after cacheMap flush
    have increments := inv.flushes ⟨cacheMap, some flush⟩ (by simp [tasks_eq]) flush rfl
    have conserved :=
      increments_conserve key ⟨Conn.fresh, flush⟩ increments s.servers
    have debt : pendingDelta key (⟨Conn.fresh, flush⟩ : RedisClient Unit).prog =
      pendingDelta key flush := rfl
    obtain ⟨same, _⟩ := OnlyIncrements.advance ⟨Conn.fresh, flush⟩ increments s.servers
    simp only [imbalance, ledger, slip, tasks_eq, List.map_append, List.sum_append,
      List.map_cons, List.sum_cons, cachedDelta_settle, same]
    simp only [cachedDelta]
    omega

end GitvTime.Guarantees.Realtime
