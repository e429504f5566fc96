import GitvTime.Source.Realtime.LiveTopology

/-!
# What one Redis command of a program can do to the session server

A running program is at one of a few points: before its WATCH, before its GET,
or before its last session command with the value it read. A watch that is still
good at that command says that `mac|cp` holds what was read, so each program
acts on the session server at most once and as if atomically: a move. The cases
of one step are stated here once (`mac_advance`, `trigger_advance`).
-/
namespace GitvTime.Guarantees.Realtime
open GitvTime.Support GitvTime.Source.StringHandle GitvTime.Source.Realtime

/-- The key that holds the session of a device. -/
abbrev cpKey (mac : String) : String := strJoin₂ mac "cp"

/-- The value of `mac|cp`. -/
def storedValue (db : Keyspace) (mac : String) : Option String :=
  (db.value (cpKey mac)).map Entry.value

theorem trigger_key (mac : String) : mac ++ "|cp" = cpKey mac := by
  rw [← String.toList_inj]
  simp [cpKey, strJoin₂, String.toList_append]

theorem mac_ne_cpKey (mac : String) : mac ≠ cpKey mac := by
  intro h
  have := congrArg (fun s => s.toList.length) h
  simp [cpKey, strJoin₂, String.toList_append] at this

/-- The session values that `Mac2Redis` writes and `TriggerTask` reads are pairs
joined by the separator, and only markers have a time to live. -/
structure WellFormed (db : Keyspace) : Prop where
  timed_free : ∀ key entry, db.value key = some entry → entry.Timed → BarFree key
  stored_pair : ∀ mac value, storedValue db mac = some value →
    ∃ channel partner, BarFree channel ∧ BarFree partner ∧ value = strJoin₂ channel partner

theorem WellFormed.not_blank {db : Keyspace} (wf : WellFormed db) {mac value : String}
    (stored : storedValue db mac = some value) : isBlank (some value) = false := by
  obtain ⟨channel, partner, _, _, rfl⟩ := wf.stored_pair mac value stored
  exact isBlank_strJoin₂ _ _

theorem WellFormed.blank_iff {db : Keyspace} (wf : WellFormed db) (mac : String) :
    isBlank (storedValue db mac) = true ↔ storedValue db mac = none := by
  cases stored : storedValue db mac with
  | none => simp
  | some value => simp [wf.not_blank stored]

/-- A watch that recorded the counts of `keys`, now or earlier. -/
structure Watching (db : Keyspace) (keys : List String) (watch : Watch String) : Prop where
  keys_eq : watch.map Prod.fst = keys
  recorded : ∀ entry ∈ watch, entry.2 ≤ db.version entry.1

theorem Watching.now (db : Keyspace) (keys : List String) : Watching db keys (db.watch keys) := by
  constructor
  · simp [Store.watch, Function.comp_def]
  · intro entry member
    obtain ⟨key, _, rfl⟩ := List.mem_map.mp member
    exact Nat.le_refl _

theorem Watching.evolve {db db' : Keyspace} {keys : List String} {watch : Watch String}
    (watching : Watching db keys watch) (step : Store.Evolves Entry.Timed db db') :
    Watching db' keys watch :=
  ⟨watching.keys_eq, fun entry member =>
    Nat.le_trans (watching.recorded entry member) (step.counts entry.1)⟩

/-- While the watch of a device is good its session value stays what it was. -/
theorem Watching.stored_kept {db db' : Keyspace} {mac : String} {watch : Watch String}
    (watching : Watching db [mac, cpKey mac] watch) (wf : WellFormed db)
    (step : Store.Evolves Entry.Timed db db') (good : db'.unmodified watch = true) :
    storedValue db' mac = storedValue db mac := by
  obtain ⟨entry, member, key_eq⟩ : ∃ entry ∈ watch, entry.1 = cpKey mac := by
    have : cpKey mac ∈ watch.map Prod.fst := by rw [watching.keys_eq]; simp
    simpa using this
  have before := (Store.unmodified_iff _ _).mp
    (step.unmodified_before watching.recorded good) entry member
  have after := (Store.unmodified_iff _ _).mp good entry member
  rw [key_eq] at before after
  rcases step.values (cpKey mac) (after.trans before.symm) with kept | ⟨_, value, present, timed⟩
  · simp [storedValue, kept]
  · exact absurd (wf.timed_free _ _ present timed) (strJoin₂_not_barFree _ _)

/-! ### The points of the two programs -/

/-- The value read is current as long as the watch is good. -/
def Current (db : Keyspace) (mac : String) (watch : Watch String) (read : Option String) : Prop :=
  db.unmodified watch = true → storedValue db mac = read

/-- Where an execution of the session machine can be between two commands. -/
inductive MacPoint (db : Keyspace) (bolt : SessionBolt) : RedisClient (List Output) → Prop
  | start : MacPoint db bolt ⟨Conn.fresh, bolt.checkMacAndHandle⟩
  | watched {watch : Watch String} (watching : Watching db [bolt.mac, bolt.macCopy] watch) :
      MacPoint db bolt ⟨⟨watch, []⟩, bolt.handle⟩
  | playing {watch : Watch String} {read : Option String}
      (watching : Watching db [bolt.mac, bolt.macCopy] watch)
      (current : Current db bolt.mac watch read) :
      MacPoint db bolt ⟨⟨watch, []⟩, bolt.play read⟩
  | stopping {watch : Watch String} {read : Option String}
      (watching : Watching db [bolt.mac, bolt.macCopy] watch)
      (current : Current db bolt.mac watch read) :
      MacPoint db bolt ⟨⟨watch, []⟩, bolt.stop read⟩
  | beating {watch : Watch String} {read : Option String}
      (watching : Watching db [bolt.mac, bolt.macCopy] watch)
      (current : Current db bolt.mac watch read) :
      MacPoint db bolt ⟨⟨watch, []⟩, bolt.heartbeat read⟩

/-- Where a `TriggerTask` can be before it has done its EXEC. -/
inductive Waiting (db : Keyspace) (mac : String) : RedisClient (List Output) → Prop
  | start : Waiting db mac ⟨Conn.fresh, TriggerTask.run mac⟩
  | watched {watch : Watch String} (watching : Watching db [mac, cpKey mac] watch) :
      Waiting db mac ⟨⟨watch, []⟩, get (mac ++ "|cp") >>= TriggerTask.reclaim mac⟩
  | fetched {watch : Watch String} {read : Option String}
      (watching : Watching db [mac, cpKey mac] watch) (current : Current db mac watch read) :
      Waiting db mac ⟨⟨watch, []⟩, TriggerTask.reclaim mac read⟩

/-- A program that only increments counters from here on, and what it returns. -/
def OnlyIncrements {α : Type} (Q : α → Prop) : RedisProg α → Prop
  | .done result => Q result
  | .call (.incrBy _ _) next => OnlyIncrements Q (next ())
  | .call _ _ => False

/-- A `TriggerTask` before its EXEC, or paying after it. -/
def TriggerPoint (db : Keyspace) (mac : String) (client : RedisClient (List Output)) : Prop :=
  Waiting db mac client ∨ OnlyIncrements (fun outputs => outputs = []) client.prog

theorem Current.evolve {db db' : Keyspace} {mac : String} {watch : Watch String}
    {read : Option String} (current : Current db mac watch read)
    (watching : Watching db [mac, cpKey mac] watch) (wf : WellFormed db)
    (step : Store.Evolves Entry.Timed db db') : Current db' mac watch read := by
  intro good
  rw [watching.stored_kept wf step good]
  exact current (step.unmodified_before watching.recorded good)

/-- Other programs' commands and expiries leave a program where it is. -/
theorem MacPoint.evolve {db db' : Keyspace} {bolt : SessionBolt}
    {client : RedisClient (List Output)} (point : MacPoint db bolt client) (wf : WellFormed db)
    (step : Store.Evolves Entry.Timed db db') : MacPoint db' bolt client := by
  cases point with
  | start => exact .start
  | watched watching => exact .watched (watching.evolve step)
  | playing watching current =>
    exact .playing (watching.evolve step) (current.evolve watching wf step)
  | stopping watching current =>
    exact .stopping (watching.evolve step) (current.evolve watching wf step)
  | beating watching current =>
    exact .beating (watching.evolve step) (current.evolve watching wf step)

theorem Waiting.evolve {db db' : Keyspace} {mac : String} {client : RedisClient (List Output)}
    (point : Waiting db mac client) (wf : WellFormed db)
    (step : Store.Evolves Entry.Timed db db') : Waiting db' mac client := by
  cases point with
  | start => exact .start
  | watched watching => exact .watched (watching.evolve step)
  | fetched watching current =>
    exact .fetched (watching.evolve step) (current.evolve watching wf step)

theorem TriggerPoint.evolve {db db' : Keyspace} {mac : String}
    {client : RedisClient (List Output)} (point : TriggerPoint db mac client) (wf : WellFormed db)
    (step : Store.Evolves Entry.Timed db db') : TriggerPoint db' mac client :=
  point.imp (fun waiting => waiting.evolve wf step) id

/-! ### Moves of the session machine -/

/-- The next command of the client is an EXEC that will go through. -/
def commits (db : Keyspace) (client : RedisClient (List Output)) : Bool :=
  match client.prog with
  | .call (.exec _) _ => db.unmodified client.conn.macWatch
  | _ => false

/-- What a finished execution of the session machine did and sent; the `Bool`
says whether its last command was an EXEC that went through. -/
inductive MacMove (bolt : SessionBolt) (before after : Keyspace) : Bool → List Output → Prop
  | idle {outputs : List Output} (same : after = before) (silent : userCountTuples outputs = []) :
      MacMove bolt before after false outputs
  | refresh (after_eq : after = expireKey before bolt.mac TIME_TTL) :
      MacMove bolt before after false []
  | switch {value : String} (stored : storedValue before bolt.mac = some value)
      (after_eq : after = bolt.setSession.foldl Write.apply before) :
      MacMove bolt before after true (bolt.onPlay (some (piece0 value)))
  | begin {outputs : List Output} (blank : isBlank (storedValue before bolt.mac) = true)
      (after_eq : after = bolt.setSession.foldl Write.apply before)
      (sent : outputs = bolt.onPlay none ∨ outputs = bolt.onRevive) :
      MacMove bolt before after true outputs
  | stop {value : String} (stored : storedValue before bolt.mac = some value)
      (after_eq : after = bolt.delSession.foldl Write.apply before) :
      MacMove bolt before after true (bolt.onStop (piece0 value))

/-- What one command of the session machine leads to: its next point with the
servers as they were, or its end with one move. -/
inductive MacStep (bolt : SessionBolt) (s s' : Servers) (client client' : RedisClient (List Output)) :
    Prop
  | onward (same : s' = s) (point : MacPoint s.mac bolt client')
      (running : client'.prog.result? = none) (reading : commits s.mac client = false)
  | finished {outputs : List Output} (ended : client'.prog = .done outputs)
      (comp_same : s'.comp = s.comp)
      (move : MacMove bolt s.mac s'.mac (commits s.mac client) outputs)

/-- EXEC with its two answers. -/
theorem advance_exec {α : Type} (s : Servers) (conn : Conn) (queue : List Write)
    (next : Bool → RedisProg α) :
    redis.advance s ⟨conn, exec queue >>= next⟩ =
      if s.mac.unmodified conn.macWatch = true then
        ({ s with mac := queue.foldl Write.apply s.mac }, ⟨{ conn with macWatch := [] }, next true⟩)
      else (s, ⟨{ conn with macWatch := [] }, next false⟩) := by
  simp only [exec, Prog.command_bind, Server.advance_call, redis, perform, runExec]
  split <;> rfl

@[simp] theorem commits_exec (db : Keyspace) (conn : Conn) (queue : List Write)
    (next : Bool → RedisProg (List Output)) :
    commits db ⟨conn, exec queue >>= next⟩ = db.unmodified conn.macWatch := rfl

private theorem some_of_not_blank {read : Option String} (h : isBlank read = false) :
    ∃ value, read = some value := by
  cases read with
  | none => simp at h
  | some value => exact ⟨value, rfl⟩

/-- The last command of an execution, an EXEC: it goes through and the move is
made, or it is refused and nothing has happened. -/
private theorem exec_step {s : Servers} {bolt : SessionBolt} {watch : Watch String}
    {queue : List Write} {sent : List Output} {message : String}
    (move : s.mac.unmodified watch = true →
      MacMove bolt s.mac (queue.foldl Write.apply s.mac) true sent) :
    let client : RedisClient (List Output) := ⟨⟨watch, []⟩, do
      let committed ← exec queue
      pure (if committed then sent else [.warn message])⟩
    MacStep bolt s (redis.advance s client).1 client (redis.advance s client).2 := by
  intro client
  simp only [client, advance_exec]
  by_cases good : s.mac.unmodified watch = true
  · rw [if_pos good]
    refine .finished rfl rfl ?_
    rw [commits_exec, good]
    exact move good
  · rw [if_neg good]
    refine .finished rfl rfl ?_
    rw [commits_exec, Bool.eq_false_iff.mpr good]
    exact .idle rfl rfl

private theorem play_step {s : Servers} {bolt : SessionBolt} {watch : Watch String}
    {read : Option String} (current : Current s.mac bolt.mac watch read) :
    MacStep bolt s (redis.advance s ⟨⟨watch, []⟩, bolt.play read⟩).1 ⟨⟨watch, []⟩, bolt.play read⟩
      (redis.advance s ⟨⟨watch, []⟩, bolt.play read⟩).2 := by
  unfold SessionBolt.play
  split
  · rename_i session
    obtain ⟨value, rfl⟩ := some_of_not_blank session
    exact exec_step fun good => .switch (current good) rfl
  · rename_i blank
    refine exec_step fun good => .begin ?_ rfl (.inl rfl)
    rw [current good]
    simpa using blank

private theorem stop_step {s : Servers} {bolt : SessionBolt} {watch : Watch String}
    {read : Option String} (current : Current s.mac bolt.mac watch read) :
    MacStep bolt s (redis.advance s ⟨⟨watch, []⟩, bolt.stop read⟩).1 ⟨⟨watch, []⟩, bolt.stop read⟩
      (redis.advance s ⟨⟨watch, []⟩, bolt.stop read⟩).2 := by
  unfold SessionBolt.stop
  split
  · exact .finished rfl rfl (.idle rfl rfl)
  · rename_i session
    obtain ⟨value, rfl⟩ := some_of_not_blank (by simpa using session)
    exact exec_step fun good => .stop (current good) rfl

private theorem heartbeat_step {s : Servers} {bolt : SessionBolt} {watch : Watch String}
    {read : Option String} (current : Current s.mac bolt.mac watch read) :
    MacStep bolt s (redis.advance s ⟨⟨watch, []⟩, bolt.heartbeat read⟩).1
      ⟨⟨watch, []⟩, bolt.heartbeat read⟩
      (redis.advance s ⟨⟨watch, []⟩, bolt.heartbeat read⟩).2 := by
  unfold SessionBolt.heartbeat
  split
  · exact .finished rfl rfl (.refresh rfl)
  · rename_i blank
    refine exec_step fun good => .begin ?_ rfl (.inr rfl)
    rw [current good]
    simpa using blank

/-- After WATCH: either the event is of a type with no handler, or a GET is next. -/
private theorem handle_cases (bolt : SessionBolt) :
    bolt.handle = .done [] ∨
      ∃ next : Option String → RedisProg (List Output),
        bolt.handle = .call (Command.get bolt.macCopy) next ∧
          (next = bolt.play ∨ next = bolt.stop ∨ next = bolt.heartbeat) := by
  unfold SessionBolt.handle
  split
  · exact .inr ⟨bolt.play, rfl, .inl rfl⟩
  · split
    · exact .inr ⟨bolt.stop, rfl, .inr (.inl rfl)⟩
    · split
      · exact .inr ⟨bolt.heartbeat, rfl, .inr (.inr rfl)⟩
      · exact .inl rfl

/-- One command of the session machine. -/
theorem mac_advance {s : Servers} {bolt : SessionBolt} {client : RedisClient (List Output)}
    (point : MacPoint s.mac bolt client) :
    MacStep bolt s (redis.advance s client).1 client (redis.advance s client).2 := by
  cases point with
  | start =>
    have next := MacPoint.watched (Watching.now s.mac [bolt.mac, bolt.macCopy])
    rcases handle_cases bolt with ended | ⟨after, reads, _⟩
    · exact .finished ended rfl (.idle rfl rfl)
    · refine .onward rfl next ?_ rfl
      change bolt.handle.result? = none
      rw [reads]
      rfl
  | watched watching =>
    rename_i watch
    rcases handle_cases bolt with ended | ⟨next, reads, which⟩
    · rw [ended]
      exact .finished rfl rfl (.idle rfl rfl)
    · rw [reads]
      have current : Current s.mac bolt.mac watch (storedValue s.mac bolt.mac) := fun _ => rfl
      rcases which with rfl | rfl | rfl
      · refine .onward rfl (.playing watching current) ?_ rfl
        change (bolt.play _).result? = none
        unfold SessionBolt.play
        split <;> rfl
      · by_cases blank : isBlank (storedValue s.mac bolt.mac) = true
        · have silent : bolt.stop (storedValue s.mac bolt.mac) = .done [] := by
            simp [SessionBolt.stop, blank]
          exact .finished silent rfl (.idle rfl rfl)
        · refine .onward rfl (.stopping watching current) ?_ rfl
          change (bolt.stop (storedValue s.mac bolt.mac)).result? = none
          rw [SessionBolt.stop, if_neg blank]
          rfl
      · refine .onward rfl (.beating watching current) ?_ rfl
        change (bolt.heartbeat _).result? = none
        unfold SessionBolt.heartbeat
        split <;> rfl
  | playing watching current => exact play_step current
  | stopping watching current => exact stop_step current
  | beating watching current => exact heartbeat_step current

/-! ### Moves of the expiry task -/

/-- What one command of a `TriggerTask` that has not done its EXEC leads to. -/
inductive TriggerStep (mac : String) (s s' : Servers) (client client' : RedisClient (List Output)) :
    Prop
  | onward (same : s' = s) (waiting : Waiting s.mac mac client')
      (running : client'.prog.result? = none) (reading : commits s.mac client = false)
      (watch_kept : s.mac.unmodified client.conn.macWatch = true →
        s.mac.unmodified client'.conn.macWatch = true)
  | committed (commit : commits s.mac client = true) (comp_same : s'.comp = s.comp)
      (after_eq : s'.mac = delKey s.mac (cpKey mac))
      (pays : client'.prog = TriggerTask.pay (storedValue s.mac mac))
  | aborted (refused : s.mac.unmodified client.conn.macWatch = false) (same : s' = s)
      (commit : commits s.mac client = false) {message : String}
      (ended : client'.prog = .done [.warn message])

/-- One command of a `TriggerTask` up to its EXEC. -/
theorem trigger_advance {s : Servers} {mac : String} {client : RedisClient (List Output)}
    (point : Waiting s.mac mac client) :
    TriggerStep mac s (redis.advance s client).1 client (redis.advance s client).2 := by
  cases point with
  | start =>
    refine .onward rfl ?_ rfl rfl fun _ => ?_
    · have watching := Watching.now s.mac [mac, mac ++ "|cp"]
      rw [trigger_key] at watching
      exact .watched (trigger_key mac ▸ watching)
    · exact s.mac.unmodified_watch _
  | watched watching =>
    refine .onward rfl (.fetched watching ?_) rfl rfl id
    intro _
    change _ = (s.mac.value (mac ++ "|cp")).map Entry.value
    rw [trigger_key]
    rfl
  | fetched watching current =>
    rename_i watch read
    unfold TriggerTask.reclaim
    rw [advance_exec]
    by_cases good : s.mac.unmodified watch = true
    · rw [if_pos good]
      refine .committed good rfl ?_ ?_
      · simp [Write.apply, trigger_key]
      · rw [current good]
        rfl
    · rw [if_neg good]
      have refused := Bool.eq_false_iff.mpr good
      exact .aborted refused rfl refused rfl

end GitvTime.Guarantees.Realtime
