import Mathlib.Data.Set.Finite.Basic
import GitvTime.Guarantees.Realtime.SessionMoves
import GitvTime.Support.Runs

/-!
# The invariant of the live topology

What the writes of one device do to the session server, the cases of one step of
the topology (`step_cases`), and the invariant every reachable state satisfies:
a well-formed session store and every running program at one of its points.
-/
namespace GitvTime.Guarantees.Realtime
open GitvTime.Support GitvTime.Source.StringHandle GitvTime.Source.Realtime

/-! ### Writes of one device -/

theorem cpKey_inj {mac other : String} (same : cpKey mac = cpKey other) : mac = other :=
  strJoin₂_right_inj same

theorem setSession_value (bolt : SessionBolt) (db : Keyspace) (key : String) :
    (bolt.setSession.foldl Write.apply db).value key =
      if key = bolt.macCopy then some ⟨bolt.channelPartner, none⟩
      else if key = bolt.mac then some ⟨"0", some TIME_TTL⟩ else db.value key := by
  simp only [SessionBolt.setSession, List.foldl_cons, List.foldl_nil, Write.apply]
  by_cases copy : key = bolt.macCopy
  · subst copy
    simp
  · rw [if_neg copy, Store.write_value_ne _ _ copy]
    by_cases marker : key = bolt.mac
    · subst marker
      simp
    · rw [if_neg marker, expireKey_value_ne _ _ marker, Store.write_value_ne _ _ marker]

theorem setSession_marker (bolt : SessionBolt) (db : Keyspace) :
    (bolt.setSession.foldl Write.apply db).value bolt.mac = some ⟨"0", some TIME_TTL⟩ := by
  have different : bolt.mac ≠ bolt.macCopy := mac_ne_cpKey bolt.mac
  rw [setSession_value, if_neg different, if_pos rfl]

theorem setSession_copy (bolt : SessionBolt) (db : Keyspace) :
    (bolt.setSession.foldl Write.apply db).value (cpKey bolt.mac) =
      some ⟨bolt.channelPartner, none⟩ := by
  rw [setSession_value]
  exact if_pos rfl

theorem setSession_version (bolt : SessionBolt) (db : Keyspace) {key : String}
    (marker : key ≠ bolt.mac) (copy : key ≠ bolt.macCopy) :
    (bolt.setSession.foldl Write.apply db).version key = db.version key := by
  simp only [SessionBolt.setSession, List.foldl_cons, List.foldl_nil, Write.apply]
  rw [Store.write_version_ne _ _ copy, expireKey_version_ne _ _ marker,
    Store.write_version_ne _ _ marker]

theorem delSession_value (bolt : SessionBolt) (db : Keyspace) (key : String) :
    (bolt.delSession.foldl Write.apply db).value key =
      if key = bolt.mac ∨ key = bolt.macCopy then none else db.value key := by
  simp only [SessionBolt.delSession, List.foldl_cons, List.foldl_nil, Write.apply]
  by_cases marker : key = bolt.mac
  · subst marker
    simp
  · rw [delKey_value_ne _ marker]
    by_cases copy : key = bolt.macCopy
    · subst copy
      simp
    · rw [delKey_value_ne _ copy, if_neg (not_or.mpr ⟨marker, copy⟩)]

theorem delSession_version (bolt : SessionBolt) (db : Keyspace) {key : String}
    (marker : key ≠ bolt.mac) (copy : key ≠ bolt.macCopy) :
    (bolt.delSession.foldl Write.apply db).version key = db.version key := by
  simp only [SessionBolt.delSession, List.foldl_cons, List.foldl_nil, Write.apply]
  rw [delKey_version_ne _ marker, delKey_version_ne _ copy]

/-- The stored sessions after a start, a switch or a revival. -/
theorem setSession_stored {bolt : SessionBolt} (free : BarFree bolt.mac) (db : Keyspace)
    (mac : String) :
    storedValue (bolt.setSession.foldl Write.apply db) mac =
      if mac = bolt.mac then some bolt.channelPartner else storedValue db mac := by
  unfold storedValue
  rw [setSession_value, if_neg (barFree_ne_strJoin₂ free mac "cp").symm]
  by_cases same : mac = bolt.mac
  · subst same
    simp [SessionBolt.macCopy]
  · rw [if_neg same, if_neg (show cpKey mac ≠ bolt.macCopy from fun h => same (cpKey_inj h))]

theorem delSession_stored {bolt : SessionBolt} (free : BarFree bolt.mac) (db : Keyspace)
    (mac : String) :
    storedValue (bolt.delSession.foldl Write.apply db) mac =
      if mac = bolt.mac then none else storedValue db mac := by
  unfold storedValue
  rw [delSession_value]
  by_cases same : mac = bolt.mac
  · subst same
    simp [SessionBolt.macCopy]
  · rw [if_neg same, if_neg]
    exact not_or.mpr
      ⟨(barFree_ne_strJoin₂ free mac "cp").symm, fun h => same (cpKey_inj h)⟩

theorem expireKey_stored {device : String} (free : BarFree device) (db : Keyspace) (seconds : Nat)
    (mac : String) : storedValue (expireKey db device seconds) mac = storedValue db mac := by
  unfold storedValue
  rw [expireKey_value_ne _ _ (barFree_ne_strJoin₂ free mac "cp").symm]

theorem lapse_stored {device : String} (free : BarFree device) (db : Keyspace) (counts : Bool)
    (mac : String) : storedValue (db.lapse device counts) mac = storedValue db mac := by
  unfold storedValue
  rw [Store.lapse_value_ne _ _ (barFree_ne_strJoin₂ free mac "cp").symm]

theorem delKey_stored (db : Keyspace) (device mac : String) :
    storedValue (delKey db (cpKey device)) mac =
      if mac = device then none else storedValue db mac := by
  unfold storedValue
  by_cases same : mac = device
  · subst same
    simp
  · rw [if_neg same, delKey_value_ne _ fun h => same (cpKey_inj h)]

/-- A store stays well formed when the entries that changed are. -/
theorem WellFormed.update {db db' : Keyspace} (wf : WellFormed db)
    (changed : ∀ key entry, db'.value key = some entry → db.value key = some entry ∨
      (entry.Timed → BarFree key) ∧ ∀ mac, key = cpKey mac →
        ∃ channel partner, BarFree channel ∧ BarFree partner ∧
          entry.value = strJoin₂ channel partner) : WellFormed db' := by
  constructor
  · intro key entry present timed
    rcases changed key entry present with kept | ⟨free, _⟩
    · exact wf.timed_free key entry kept timed
    · exact free timed
  · intro mac value stored
    obtain ⟨entry, present, rfl⟩ := Option.map_eq_some_iff.mp stored
    rcases changed _ entry present with kept | ⟨_, pair⟩
    · exact wf.stored_pair mac _ (by simp [storedValue, kept])
    · exact pair mac rfl

theorem WellFormed.setSession {db : Keyspace} (wf : WellFormed db) {bolt : SessionBolt}
    (free : BarFree bolt.mac) {channel partner : String} (hc : BarFree channel)
    (hp : BarFree partner) (pair : bolt.channelPartner = strJoin₂ channel partner) :
    WellFormed (bolt.setSession.foldl Write.apply db) := by
  refine wf.update fun key entry present => ?_
  rw [setSession_value] at present
  split at present
  · cases Option.some.inj present
    exact .inr ⟨fun timed => by simp [Entry.Timed] at timed, fun _ _ => ⟨channel, partner, hc, hp, pair⟩⟩
  · split at present
    · rename_i marker
      subst marker
      exact .inr ⟨fun _ => free, fun mac h => absurd h (barFree_ne_strJoin₂ free mac "cp")⟩
    · exact .inl present

theorem WellFormed.delSession {db : Keyspace} (wf : WellFormed db) (bolt : SessionBolt) :
    WellFormed (bolt.delSession.foldl Write.apply db) := by
  refine wf.update fun key entry present => .inl ?_
  rw [delSession_value] at present
  split at present
  · cases present
  · exact present

theorem WellFormed.delKey {db : Keyspace} (wf : WellFormed db) (device : String) :
    WellFormed (delKey db device) := by
  refine wf.update fun key entry present => .inl ?_
  by_cases same : key = device
  · subst same
    simp at present
  · rwa [delKey_value_ne _ same] at present

theorem WellFormed.lapse {db : Keyspace} (wf : WellFormed db) (device : String) (counts : Bool) :
    WellFormed (db.lapse device counts) := by
  refine wf.update fun key entry present => .inl ?_
  by_cases same : key = device
  · subst same
    simp at present
  · rwa [Store.lapse_value_ne _ _ same] at present

theorem WellFormed.expireKey {db : Keyspace} (wf : WellFormed db) {device : String}
    (free : BarFree device) (seconds : Nat) : WellFormed (expireKey db device seconds) := by
  refine wf.update fun key entry present => ?_
  by_cases same : key = device
  · subst same
    exact .inr ⟨fun _ => free, fun mac h => absurd h (barFree_ne_strJoin₂ free mac "cp")⟩
  · rw [expireKey_value_ne _ _ same] at present
    exact .inl present

/-- The session store of a live event after a move. -/
theorem MacMove.wellFormed {event : PlayEvent} {before after : Keyspace} {commit : Bool}
    {outputs : List Output} (wf : WellFormed before)
    (move : MacMove (Live.sessionBolt event.toTuple) before after commit outputs) :
    WellFormed after := by
  cases move with
  | idle same _ => rwa [same]
  | refresh after_eq =>
    rw [after_eq]
    exact wf.expireKey event.mac_free _
  | switch _ after_eq =>
    rw [after_eq]
    exact wf.setSession event.mac_free event.channelCode_free event.partner_free rfl
  | begin _ after_eq _ =>
    rw [after_eq]
    exact wf.setSession event.mac_free event.channelCode_free event.partner_free rfl
  | stop _ after_eq =>
    rw [after_eq]
    exact wf.delSession _

/-- A move is an evolution of the store. -/
theorem MacMove.evolves {bolt : SessionBolt} {before after : Keyspace} {commit : Bool}
    {outputs : List Output} (move : MacMove bolt before after commit outputs) :
    Store.Evolves Entry.Timed before after := by
  cases move with
  | idle same _ => rw [same]; exact .refl _
  | refresh after_eq => rw [after_eq]; exact evolves_expireKey _ _ _
  | switch _ after_eq => rw [after_eq]; exact evolves_queue _ _
  | begin _ after_eq _ => rw [after_eq]; exact evolves_queue _ _
  | stop _ after_eq => rw [after_eq]; exact evolves_queue _ _

/-- A move leaves the sessions of other devices alone. -/
theorem MacMove.stored_ne {bolt : SessionBolt} (free : BarFree bolt.mac) {before after : Keyspace}
    {commit : Bool} {outputs : List Output} (move : MacMove bolt before after commit outputs)
    {mac : String} (different : mac ≠ bolt.mac) :
    storedValue after mac = storedValue before mac := by
  cases move with
  | idle same _ => rw [same]
  | refresh after_eq => rw [after_eq, expireKey_stored free]
  | switch _ after_eq => rw [after_eq, setSession_stored free, if_neg different]
  | begin _ after_eq _ => rw [after_eq, setSession_stored free, if_neg different]
  | stop _ after_eq => rw [after_eq, delSession_stored free, if_neg different]

/-! ### One step of the topology -/

/-- A finished program is gone from the running ones. -/
def kept (owner : Owner) (client : RedisClient (List Output)) : List Process :=
  match client.prog with
  | .done _ => []
  | .call _ _ => [⟨owner, client⟩]

/-- The user-count tuples a program has sent by now. -/
def sent (client : RedisClient (List Output)) : List (Option String × Option String) :=
  match client.prog with
  | .done outputs => userCountTuples outputs
  | .call _ _ => []

theorem kept_sub (owner : Owner) (client : RedisClient (List Output)) :
    ∀ process ∈ kept owner client, process = ⟨owner, client⟩ := by
  unfold kept
  split <;> simp

theorem kept_of_running (owner : Owner) {client : RedisClient (List Output)}
    (running : client.prog.result? = none) : kept owner client = [⟨owner, client⟩] := by
  unfold kept
  split
  · rename_i ended
    simp [ended] at running
  · rfl

theorem kept_of_done (owner : Owner) {client : RedisClient (List Output)} {outputs : List Output}
    (ended : client.prog = .done outputs) : kept owner client = [] := by
  simp [kept, ended]

theorem sent_of_running {client : RedisClient (List Output)} (running : client.prog.result? = none) :
    sent client = [] := by
  unfold sent
  split
  · rename_i ended
    simp [ended] at running
  · rfl

theorem sent_of_done {client : RedisClient (List Output)} {outputs : List Output}
    (ended : client.prog = .done outputs) : sent client = userCountTuples outputs := by
  simp [sent, ended]

/-- The state after a command of the process between `front` and `back`. -/
def ran (s : State) (front : List Process) (process : Process) (back : List Process) : State :=
  { s with
    servers := (redis.advance s.servers process.client).1
    running := front ++ kept process.owner (redis.advance s.servers process.client).2 ++ back
    inFlight := s.inFlight ++ sent (redis.advance s.servers process.client).2 }

@[simp] theorem ran_servers (s : State) (front back : List Process) (process : Process) :
    (ran s front process back).servers = (redis.advance s.servers process.client).1 := rfl

@[simp] theorem ran_expired (s : State) (front back : List Process) (process : Process) :
    (ran s front process back).expired = s.expired := rfl

/-- The cases of one step, with what each of them requires. -/
inductive Change (s : State) : Action → State → Prop
  | event (event : PlayEvent) :
      Change s (.event event) { s with running := s.running ++ [Process.ofEvent event] }
  | expire {key : String} {entry : Entry} {modifies : Bool}
      (present : s.servers.mac.value key = some entry) (timed : entry.Timed) :
      Change s (.expire key modifies)
        { s with servers := { s.servers with mac := s.servers.mac.lapse key modifies },
                 expired := s.expired ++ [key] }
  | deliver {index : Nat} {front back : List String} {mac : String}
      (expired_eq : s.expired = front ++ mac :: back) :
      Change s (.deliver index)
        { s with expired := front ++ back, running := s.running ++ [Process.ofNotification mac] }
  | run {index : Nat} {front back : List Process} {process : Process}
      (found : s.running[index]? = some process) (running_eq : s.running = front ++ process :: back) :
      Change s (.run index) (ran s front process back)
  | tuple {index task : Nat} {front back : List (Option String × Option String)}
      {ADD DEC : Option String} {before after : List CountTask} {cacheMap cacheMap' : CacheMap}
      (sent : s.inFlight[index]? = some (ADD, DEC)) (idle : s.tasks[task]? = some ⟨cacheMap, none⟩)
      (inFlight_eq : s.inFlight = front ++ (ADD, DEC) :: back)
      (tasks_eq : s.tasks = before ++ ⟨cacheMap, none⟩ :: after)
      (booked : UserCount.mainTain cacheMap ADD DEC = (cacheMap', .ack)) :
      Change s (.tuple index task)
        { s with inFlight := front ++ back, tasks := before ++ ⟨cacheMap', none⟩ :: after }
  | tick {task : Nat} {order : List (String × Int32)} {before after : List CountTask}
      {cacheMap : CacheMap} (tasks_eq : s.tasks = before ++ ⟨cacheMap, none⟩ :: after)
      (perm : order.Perm (UserCount.entrySet cacheMap)) :
      Change s (.tick task order)
        { s with tasks := before ++
                   CountTask.settle cacheMap (UserCount.secondsToRedis order) :: after }
  | push {task : Nat} {before after : List CountTask} {cacheMap : CacheMap} {flush : RedisProg Unit}
      (tasks_eq : s.tasks = before ++ ⟨cacheMap, some flush⟩ :: after) :
      Change s (.push task)
        { s with servers := (redis.advance s.servers ⟨Conn.fresh, flush⟩).1
                 tasks := before ++ CountTask.settle cacheMap
                   (redis.advance s.servers ⟨Conn.fresh, flush⟩).2.prog :: after }

/-- `settle` puts what is left of the process in its place. -/
theorem settle_eq {s : State} {index : Nat} {front back : List Process} {process : Process}
    (erased : s.running.eraseIdx index = front ++ back)
    (updated : ∀ y, s.running.set index y = front ++ y :: back) (servers : Servers)
    (client : RedisClient (List Output)) :
    s.settle index process.owner servers client =
      { s with servers, running := front ++ kept process.owner client ++ back,
               inFlight := s.inFlight ++ sent client } := by
  unfold State.settle
  split
  · rename_i outputs ended
    rw [kept_of_done _ ended, sent_of_done ended, erased]
    simp
  · rename_i command next calls
    have running : client.prog.result? = none := by rw [calls]; rfl
    rw [kept_of_running _ running, sent_of_running running, updated]
    simp

theorem step_cases {s s' : State} {action : Action} (taken : s.step action = some s') :
    Change s action s' := by
  cases action with
  | event event =>
    cases taken
    exact .event event
  | expire key modifies =>
    simp only [State.step] at taken
    split at taken
    · rename_i present
      cases taken
      exact .expire present rfl
    · cases taken
  | deliver index =>
    simp only [State.step] at taken
    split at taken
    · rename_i mac found
      cases taken
      obtain ⟨front, back, split, erased, _⟩ := split_at_index found
      rw [erased]
      exact .deliver split
    · cases taken
  | run index =>
    simp only [State.step] at taken
    split at taken
    · rename_i process found
      cases taken
      obtain ⟨front, back, split, erased, updated⟩ := split_at_index found
      rw [settle_eq erased updated]
      exact .run found split
    · cases taken
  | tuple index task =>
    simp only [State.step] at taken
    split at taken
    · rename_i ADD DEC cacheMap inFlight_at task_at
      split at taken
      · rename_i cacheMap' booked
        cases taken
        obtain ⟨front, back, split, erased, _⟩ := split_at_index inFlight_at
        obtain ⟨before, after, split', _, updated⟩ := split_at_index task_at
        rw [erased, updated]
        exact .tuple inFlight_at task_at split split' booked
      · cases taken
    · cases taken
  | tick task order =>
    simp only [State.step] at taken
    split at taken
    · rename_i cacheMap task_at
      split at taken
      · rename_i perm
        cases taken
        obtain ⟨before, after, split, _, updated⟩ := split_at_index task_at
        rw [updated]
        exact .tick split perm
      · cases taken
    · cases taken
  | push task =>
    simp only [State.step] at taken
    split at taken
    · rename_i cacheMap flush task_at
      cases taken
      obtain ⟨before, after, split, _, updated⟩ := split_at_index task_at
      rw [updated]
      exact .push split
    · cases taken

/-! ### The invariant -/

/-- Every program is at one of its points. -/
def ProcessAt (db : Keyspace) (process : Process) : Prop :=
  match process.owner with
  | .mac2Redis event => MacPoint db (Live.sessionBolt event.toTuple) process.client
  | .triggerTask mac => BarFree mac ∧ TriggerPoint db mac process.client

theorem ProcessAt.evolve {db db' : Keyspace} {process : Process} (point : ProcessAt db process)
    (wf : WellFormed db) (step : Store.Evolves Entry.Timed db db') : ProcessAt db' process := by
  unfold ProcessAt at *
  split
  · rename_i owned
    rw [owned] at point
    exact point.evolve wf step
  · rename_i owned
    rw [owned] at point
    exact ⟨point.1, point.2.evolve wf step⟩

/-- What every reachable state satisfies. -/
structure Inv (s : State) : Prop where
  wf : WellFormed s.servers.mac
  finite : {mac | (storedValue s.servers.mac mac).isSome = true}.Finite
  expired_free : ∀ mac ∈ s.expired, BarFree mac
  points : ∀ process ∈ s.running, ProcessAt s.servers.mac process
  flushes : ∀ task ∈ s.tasks, ∀ flush, task.flush = some flush → OnlyIncrements (fun _ => True) flush

theorem Inv.init (tasks : Nat) : Inv (State.init tasks) := by
  refine ⟨⟨?_, ?_⟩, ?_, ?_, ?_, ?_⟩
  · intro key entry present
    cases present
  · intro mac value stored
    cases stored
  · simp [State.init, storedValue, Store.empty]
  · simp [State.init]
  · simp [State.init]
  · intro task member flush flushing
    cases List.eq_of_mem_replicate member
    cases flushing

/-- One INCRBY of a program that does nothing else. -/
theorem OnlyIncrements.advance {α : Type} {Q : α → Prop} (client : RedisClient α)
    (increments : OnlyIncrements Q client.prog) (s : Servers) :
    (redis.advance s client).1.mac = s.mac ∧
      OnlyIncrements Q (redis.advance s client).2.prog := by
  obtain ⟨conn, prog⟩ := client
  cases prog with
  | done result => exact ⟨rfl, increments⟩
  | call command next =>
    cases command with
    | incrBy key delta => exact ⟨rfl, increments⟩
    | _ => exact increments.elim

theorem pay_onlyIncrements (read : Option String) :
    OnlyIncrements (fun outputs => outputs = []) (TriggerTask.pay read) := by
  unfold TriggerTask.pay
  split
  · rfl
  · split <;> rfl

theorem secondsToRedis_onlyIncrements (order : List (String × Int32)) :
    OnlyIncrements (fun _ => True) (UserCount.secondsToRedis order) := by
  induction order with
  | nil => trivial
  | cons entry rest ih => exact ih

theorem settle_onlyIncrements {cacheMap : CacheMap} {rest flush : RedisProg Unit}
    (increments : OnlyIncrements (fun _ => True) rest)
    (flushing : (CountTask.settle cacheMap rest).flush = some flush) :
    OnlyIncrements (fun _ => True) flush := by
  unfold CountTask.settle at flushing
  split at flushing
  · cases flushing
  · cases flushing
    exact increments

/-- What one command of a running program leaves of the session server. -/
structure ServersAfter (s s' : Servers) : Prop where
  wf : WellFormed s'.mac
  evolves : Store.Evolves Entry.Timed s.mac s'.mac
  finite : {mac | (storedValue s'.mac mac).isSome = true}.Finite

theorem ServersAfter.same {s s' : Servers} (wf : WellFormed s.mac)
    (finite : {mac | (storedValue s.mac mac).isSome = true}.Finite) (same : s'.mac = s.mac) :
    ServersAfter s s' := by
  refine ⟨?_, ?_, ?_⟩
  · rwa [same]
  · rw [same]
    exact .refl _
  · rwa [same]

/-- One more device can have a session after a command. -/
theorem stored_finite {db db' : Keyspace} (device : String)
    (finite : {mac | (storedValue db mac).isSome = true}.Finite)
    (others : ∀ mac, mac ≠ device → storedValue db' mac = storedValue db mac) :
    {mac | (storedValue db' mac).isSome = true}.Finite := by
  refine (finite.insert device).subset fun mac stored => ?_
  by_cases same : mac = device
  · exact .inl same
  · rw [Set.mem_ofPred_eq, others mac same] at stored
    exact .inr stored

theorem process_advance {s : Servers} (process : Process) (wf : WellFormed s.mac)
    (finite : {mac | (storedValue s.mac mac).isSome = true}.Finite)
    (point : ProcessAt s.mac process) :
    ServersAfter s (redis.advance s process.client).1 ∧
      ∀ left ∈ kept process.owner (redis.advance s process.client).2,
        ProcessAt (redis.advance s process.client).1.mac left := by
  obtain ⟨owner, client⟩ := process
  cases owner with
  | mac2Redis event =>
    rcases mac_advance point with ⟨same, point', running, _⟩ | ⟨ended, _, move⟩
    · rw [same]
      refine ⟨.same wf finite rfl, fun left member => ?_⟩
      rw [kept_of_running _ running, List.mem_singleton] at member
      subst left
      exact point'
    · refine ⟨⟨move.wellFormed wf, move.evolves, ?_⟩, fun left member => ?_⟩
      · exact stored_finite event.mac finite fun mac different => move.stored_ne event.mac_free different
      · simp [kept_of_done _ ended] at member
  | triggerTask mac =>
    obtain ⟨free, waiting | pays⟩ := point
    · rcases trigger_advance waiting with
        ⟨same, waiting', running, _, _⟩ | ⟨_, _, after_eq, pays⟩ | ⟨_, same, _, ended⟩
      · rw [same]
        refine ⟨.same wf finite rfl, fun left member => ?_⟩
        rw [kept_of_running _ running, List.mem_singleton] at member
        subst left
        exact ⟨free, .inl waiting'⟩
      · refine ⟨⟨?_, ?_, ?_⟩, fun left member => ?_⟩
        · rw [after_eq]
          exact wf.delKey _
        · rw [after_eq]
          exact evolves_delKey _ _
        · refine stored_finite mac finite fun other different => ?_
          rw [after_eq, delKey_stored, if_neg different]
        · rw [kept_sub _ _ left member]
          refine ⟨free, .inr ?_⟩
          rw [pays]
          exact pay_onlyIncrements _
      · rw [same]
        refine ⟨.same wf finite rfl, fun left member => ?_⟩
        simp [kept_of_done _ ended] at member
    · obtain ⟨same, pays'⟩ := pays.advance _ s
      refine ⟨.same wf finite same, fun left member => ?_⟩
      rw [kept_sub _ _ left member]
      exact ⟨free, .inr pays'⟩

/-- Points survive a command of another program. -/
theorem Inv.points_evolve {s : State} (inv : Inv s) {db : Keyspace}
    (step : Store.Evolves Entry.Timed s.servers.mac db) :
    ∀ process ∈ s.running, ProcessAt db process :=
  fun process member => (inv.points process member).evolve inv.wf step

theorem Inv.step {s s' : State} {action : Action} (inv : Inv s)
    (taken : s.step action = some s') : Inv s' := by
  cases step_cases taken with
  | event event =>
    refine { inv with points := fun process member => ?_ }
    rcases List.mem_append.mp member with old | new
    · exact inv.points process old
    · rw [List.mem_singleton.mp new]
      exact MacPoint.start
  | expire present timed =>
    have free := inv.wf.timed_free _ _ present timed
    rename_i key entry modifies
    have step : Store.Evolves Entry.Timed s.servers.mac (s.servers.mac.lapse key modifies) := by
      refine .lapse _ _ fun value stored => ?_
      rw [present] at stored
      cases stored
      exact timed
    refine ⟨inv.wf.lapse _ _, ?_, ?_, inv.points_evolve step, inv.flushes⟩
    · exact stored_finite key inv.finite fun mac _ => lapse_stored free _ _ mac
    · intro mac member
      rcases List.mem_append.mp member with old | new
      · exact inv.expired_free mac old
      · rwa [List.mem_singleton.mp new]
  | deliver expired_eq =>
    rename_i index front back mac
    refine { inv with expired_free := fun other member => ?_, points := fun process member => ?_ }
    · refine inv.expired_free other ?_
      rw [expired_eq]
      simp only [List.mem_append, List.mem_cons] at member ⊢
      exact member.imp id .inr
    · rcases List.mem_append.mp member with old | new
      · exact inv.points process old
      · rw [List.mem_singleton.mp new]
        exact ⟨inv.expired_free mac (by simp [expired_eq]), .inl .start⟩
  | run found running_eq =>
    rename_i index front back process
    have point := inv.points process (by simp [running_eq])
    obtain ⟨after, left_at⟩ := process_advance _ inv.wf inv.finite point
    have points := inv.points_evolve after.evolves
    refine ⟨after.wf, after.finite, inv.expired_free, fun other member => ?_, inv.flushes⟩
    simp only [ran, List.mem_append] at member
    rcases member with (early | left) | late
    · exact points other (by simp [running_eq, early])
    · exact left_at other left
    · exact points other (by simp [running_eq, late])
  | tuple sent idle inFlight_eq tasks_eq booked =>
    exact { inv with flushes := forall_mem_replace tasks_eq inv.flushes fun _ h => nomatch h }
  | tick tasks_eq perm =>
    refine { inv with flushes := forall_mem_replace tasks_eq inv.flushes fun _ flushing => ?_ }
    exact settle_onlyIncrements (secondsToRedis_onlyIncrements _) flushing
  | push tasks_eq =>
    rename_i task before after cacheMap flush
    have increments := inv.flushes ⟨cacheMap, some flush⟩ (by simp [tasks_eq]) flush rfl
    obtain ⟨same, increments'⟩ :=
      OnlyIncrements.advance ⟨Conn.fresh, flush⟩ increments s.servers
    have after_servers := ServersAfter.same inv.wf inv.finite same
    refine ⟨after_servers.wf, after_servers.finite, inv.expired_free,
      inv.points_evolve after_servers.evolves,
      forall_mem_replace tasks_eq inv.flushes fun _ flushing => ?_⟩
    exact settle_onlyIncrements increments' flushing

/-- A device of partner `p1` starts `c1`. -/
def startEvent : PlayEvent :=
  ⟨⟨"p1", "AABB", "", "0", "1", "c1"⟩, by decide, by decide, by decide⟩

end GitvTime.Guarantees.Realtime
