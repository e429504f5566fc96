import GitvTime.Guarantees.Realtime.CounterLedger

/-!
# The programs with nobody else at the servers

`answered` is the effect of an execution of the session machine once it has read
the session, `reclaim_runs` the effect of a `TriggerTask` once it has.
-/
namespace GitvTime.Guarantees.Realtime
open GitvTime.Support GitvTime.Source.StringHandle GitvTime.Source.Realtime

/-- The watch of both programs as long as nothing has changed. -/
abbrev deviceWatch (db : Keyspace) (mac : String) : Watch String := db.watch [mac, cpKey mac]

/-! ### The answer to a read session -/

theorem runAlone_exec {α : Type} (s : Servers) (conn : Conn) (queue : List Write)
    (next : Bool → RedisProg α) :
    redis.runAlone s conn (exec queue >>= next) =
      if s.mac.unmodified conn.macWatch = true then
        redis.runAlone { s with mac := queue.foldl Write.apply s.mac } { conn with macWatch := [] }
          (next true)
      else redis.runAlone s { conn with macWatch := [] } (next false) := by
  have step := redis.runAlone_advance s ⟨conn, exec queue >>= next⟩
  rw [advance_exec] at step
  split at step <;> rename_i good
  · rw [if_pos good]
    exact step
  · rw [if_neg good]
    exact step

/-- What follows the GET of an execution. -/
def answer (bolt : SessionBolt) (read : Option String) : RedisProg (List Output) :=
  if bolt.pt = "0" then bolt.play read
  else if bolt.pt = "1" ∨ bolt.pt = "2" then bolt.stop read
  else if bolt.pt = "5" then bolt.heartbeat read
  else pure []

/-- After its WATCH an execution reads and answers, or has nothing to do. -/
theorem handle_eq (bolt : SessionBolt) :
    bolt.handle = (get bolt.macCopy >>= answer bolt) ∨
      bolt.handle = .done [] ∧ ∀ read, answer bolt read = .done [] := by
  unfold SessionBolt.handle
  split
  · rename_i play
    have same : answer bolt = bolt.play := funext fun read => by rw [answer, if_pos play]
    exact .inl (by rw [same])
  · rename_i play
    split
    · rename_i stop
      have same : answer bolt = bolt.stop := funext fun read => by
        rw [answer, if_neg play, if_pos stop]
      exact .inl (by rw [same])
    · rename_i stop
      split
      · rename_i beat
        have same : answer bolt = bolt.heartbeat := funext fun read => by
          rw [answer, if_neg play, if_neg stop, if_pos beat]
        exact .inl (by rw [same])
      · rename_i beat
        refine .inr ⟨rfl, fun read => ?_⟩
        rw [answer, if_neg play, if_neg stop, if_neg beat]
        rfl

/-- The stored channel a start leaves behind, if any. -/
def leaving (read : Option String) : Option String :=
  if isBlank read = false then some (piece0 (read.getD "")) else none

/-- The effect of the third command of an execution whose watch is good or not. -/
def answered (bolt : SessionBolt) (good : Bool) (read : Option String) (db : Keyspace) :
    Keyspace × List Output :=
  let transaction (queue : List Write) (sent : List Output) (message : String) :=
    if good = true then (queue.foldl Write.apply db, sent) else (db, [.warn message])
  if bolt.pt = "0" then
    transaction bolt.setSession (bolt.onPlay (leaving read))
      (if isBlank read = false then bolt.onDisturbedSwitch else bolt.disturbed)
  else if bolt.pt = "1" ∨ bolt.pt = "2" then
    if isBlank read = true then (db, [])
    else transaction bolt.delSession (bolt.onStop (piece0 (read.getD ""))) bolt.disturbed
  else if bolt.pt = "5" then
    if isBlank read = false then (expireKey db bolt.mac TIME_TTL, [])
    else transaction bolt.setSession bolt.onRevive bolt.disturbed
  else (db, [])

private theorem transaction_runs (s : Servers) (watch : Watch String) (queue : List Write)
    (sent : List Output) (message : String) :
    let ran := redis.runAlone s ⟨watch, []⟩ (do
      let committed ← exec queue
      pure (if committed then sent else [.warn message]))
    (ran.1.mac, ran.2.2) =
        (if s.mac.unmodified watch = true then (queue.foldl Write.apply s.mac, sent)
          else (s.mac, [.warn message])) ∧ ran.1.comp = s.comp := by
  simp only [runAlone_exec]
  split <;> exact ⟨rfl, rfl⟩

private theorem answer_pair (bolt : SessionBolt) (s : Servers) (watch : Watch String)
    (read : Option String) :
    let ran := redis.runAlone s ⟨watch, []⟩ (answer bolt read)
    (ran.1.mac, ran.2.2) = answered bolt (s.mac.unmodified watch) read s.mac ∧
      ran.1.comp = s.comp := by
  unfold answer answered
  by_cases play : bolt.pt = "0"
  · simp only [if_pos play, SessionBolt.play, leaving]
    by_cases session : isBlank read = false
    · simp only [if_pos session]
      exact transaction_runs s watch _ _ _
    · simp only [if_neg session]
      exact transaction_runs s watch _ _ _
  · simp only [if_neg play]
    by_cases stop : bolt.pt = "1" ∨ bolt.pt = "2"
    · simp only [if_pos stop, SessionBolt.stop]
      by_cases blank : isBlank read = true
      · simp only [if_pos blank]
        exact ⟨rfl, rfl⟩
      · simp only [if_neg blank]
        exact transaction_runs s watch _ _ _
    · simp only [if_neg stop]
      by_cases beat : bolt.pt = "5"
      · simp only [if_pos beat, SessionBolt.heartbeat]
        by_cases session : isBlank read = false
        · simp only [if_pos session]
          exact ⟨rfl, rfl⟩
        · simp only [if_neg session]
          exact transaction_runs s watch _ _ _
      · simp only [if_neg beat]
        exact ⟨rfl, rfl⟩

theorem answer_runs (bolt : SessionBolt) (s : Servers) (watch : Watch String)
    (read : Option String) :
    let ran := redis.runAlone s ⟨watch, []⟩ (answer bolt read)
    let result := answered bolt (s.mac.unmodified watch) read s.mac
    ran.1.mac = result.1 ∧ ran.2.2 = result.2 ∧ ran.1.comp = s.comp := by
  obtain ⟨runs, comp_same⟩ := answer_pair bolt s watch read
  exact ⟨congrArg Prod.fst runs, congrArg Prod.snd runs, comp_same⟩

/-- An execution is its answer to what it reads, after a WATCH of its own. -/
theorem handle_runs (bolt : SessionBolt) (s : Servers) (watch : Watch String) :
    redis.runAlone s ⟨watch, []⟩ bolt.handle =
      redis.runAlone s ⟨watch, []⟩ (answer bolt (storedValue s.mac bolt.mac)) := by
  rcases handle_eq bolt with reads | ⟨ended, answers⟩
  · rw [reads]
    rfl
  · rw [ended, answers]

/-- Alone, a paying task leaves the sessions and moves what it owes. -/
theorem OnlyIncrements.runAlone {α : Type} {Q : α → Prop} {prog : RedisProg α}
    (increments : OnlyIncrements Q prog) (s : Servers) (conn : Conn) :
    (redis.runAlone s conn prog).1.mac = s.mac ∧
      ∀ key, counter key (redis.runAlone s conn prog).1 = counter key s + pendingDelta key prog := by
  induction prog generalizing s conn with
  | done result => exact ⟨rfl, fun key => by simp [pendingDelta]⟩
  | call command next ih =>
    obtain ⟨same, after⟩ :=
      OnlyIncrements.advance ⟨conn, .call command next⟩ increments s
    have conserved := fun key =>
      increments_conserve key ⟨conn, .call command next⟩ increments s
    rw [Server.runAlone_call]
    obtain ⟨same', moved⟩ := ih _ after (redis.perform command s conn).1 (redis.perform command s conn).2.1
    refine ⟨same'.trans same, fun key => ?_⟩
    have here := conserved key
    rw [moved key]
    simp only [Server.advance_call] at here
    exact here

/-- A `TriggerTask` that has read the session. -/
theorem reclaim_runs (s : Servers) (mac : String) (watch : Watch String) (read : Option String) :
    let ran := redis.runAlone s ⟨watch, []⟩ (TriggerTask.reclaim mac read)
    ran.1.mac = (if s.mac.unmodified watch = true then delKey s.mac (cpKey mac) else s.mac) ∧
      ∀ key, counter key ran.1 =
        counter key s - bookDelta key (if s.mac.unmodified watch = true then read else none) := by
  unfold TriggerTask.reclaim
  rw [runAlone_exec]
  by_cases good : s.mac.unmodified watch = true
  · simp only [if_pos good]
    obtain ⟨same, moved⟩ := (pay_onlyIncrements read).runAlone
      { s with mac := [Write.del (mac ++ "|cp")].foldl Write.apply s.mac } ⟨[], []⟩
    refine ⟨?_, fun key => ?_⟩
    · rw [if_true, same, trigger_key]
      rfl
    · rw [if_true, moved key, pay_owes]
      rfl
  · simp only [if_neg good]
    exact ⟨rfl, fun key => by simp [bookDelta, counter]⟩

/-! ### Whole runs -/

/-- An execution alone. -/
theorem event_alone (bolt : SessionBolt) (s : Servers) :
    let ran := redis.runAlone s Conn.fresh bolt.checkMacAndHandle
    let result := answered bolt true (storedValue s.mac bolt.mac) s.mac
    ran.1.mac = result.1 ∧ ran.2.2 = result.2 ∧ ran.1.comp = s.comp := by
  have alone : redis.runAlone s Conn.fresh bolt.checkMacAndHandle =
      redis.runAlone s ⟨deviceWatch s.mac bolt.mac, []⟩
        (answer bolt (storedValue s.mac bolt.mac)) := by
    rw [← handle_runs]
    rfl
  have runs := answer_runs bolt s (deviceWatch s.mac bolt.mac) (storedValue s.mac bolt.mac)
  rw [s.mac.unmodified_watch] at runs
  rw [alone]
  exact runs

/-- A `TriggerTask` alone. -/
theorem trigger_alone (s : Servers) (mac : String) :
    let ran := redis.runAlone s Conn.fresh (TriggerTask.run mac)
    ran.1.mac = delKey s.mac (cpKey mac) ∧
      ∀ key, counter key ran.1 = counter key s - bookDelta key (storedValue s.mac mac) := by
  have alone : redis.runAlone s Conn.fresh (TriggerTask.run mac) =
      redis.runAlone s ⟨deviceWatch s.mac mac, []⟩
        (TriggerTask.reclaim mac (storedValue s.mac mac)) := by
    rw [deviceWatch, storedValue, ← trigger_key]
    rfl
  have runs := reclaim_runs s mac (deviceWatch s.mac mac) (storedValue s.mac mac)
  simp only [s.mac.unmodified_watch, if_true] at runs
  rw [alone]
  exact runs

theorem answered_evolves (bolt : SessionBolt) (good : Bool) (read : Option String)
    (db : Keyspace) : Store.Evolves Entry.Timed db (answered bolt good read db).1 := by
  have transaction : ∀ (queue : List Write) (sent : List Output) (message : String),
      Store.Evolves Entry.Timed db
        (if good = true then (queue.foldl Write.apply db, sent) else (db, [.warn message])).1 := by
    intro queue sent message
    split
    · exact evolves_queue _ _
    · exact .refl _
  unfold answered
  simp only
  split
  · exact transaction _ _ _
  · split
    · split
      · exact .refl _
      · exact transaction _ _ _
    · split
      · split
        · exact evolves_expireKey _ _ _
        · exact transaction _ _ _
      · exact .refl _

/-! ### The answers of an event by its type -/

section
variable {bolt : SessionBolt} {db : Keyspace} {read : Option String} {good : Bool}

theorem answered_play (play : bolt.pt = "0") :
    answered bolt true read db =
      (bolt.setSession.foldl Write.apply db,
        bolt.onPlay (leaving read)) := by
  simp only [answered, if_pos play, if_true]

theorem answered_play_refused (play : bolt.pt = "0") :
    ∃ message, Output.warn message ∈ (answered bolt false read db).2 := by
  simp only [answered, if_pos play]
  exact ⟨_, List.mem_singleton.mpr rfl⟩

theorem answered_stop_none (play : bolt.pt ≠ "0") (stop : bolt.pt = "1" ∨ bolt.pt = "2") :
    answered bolt good none db = (db, []) := by
  simp only [answered, if_neg play, if_pos stop, isBlank_none, if_true]

theorem answered_stop_some (play : bolt.pt ≠ "0") (stop : bolt.pt = "1" ∨ bolt.pt = "2")
    {value : String} (full : isBlank (some value) = false) :
    answered bolt true (some value) db =
      (bolt.delSession.foldl Write.apply db, bolt.onStop (piece0 value)) := by
  simp only [answered, if_neg play, if_pos stop, full, if_true, Bool.false_eq_true, if_false]
  rfl

theorem answered_stop_refused (play : bolt.pt ≠ "0") (stop : bolt.pt = "1" ∨ bolt.pt = "2")
    {value : String} (full : isBlank (some value) = false) :
    ∃ message, Output.warn message ∈ (answered bolt false (some value) db).2 := by
  simp only [answered, if_neg play, if_pos stop, full, Bool.false_eq_true, if_false]
  exact ⟨_, List.mem_singleton.mpr rfl⟩

theorem answered_beat_some (play : bolt.pt ≠ "0") (stop : ¬(bolt.pt = "1" ∨ bolt.pt = "2"))
    (beat : bolt.pt = "5") {value : String} (full : isBlank (some value) = false) :
    answered bolt good (some value) db = (expireKey db bolt.mac TIME_TTL, []) := by
  simp only [answered, if_neg play, if_neg stop, if_pos beat, full, if_true]

theorem answered_beat_none (play : bolt.pt ≠ "0") (stop : ¬(bolt.pt = "1" ∨ bolt.pt = "2"))
    (beat : bolt.pt = "5") :
    answered bolt true none db = (bolt.setSession.foldl Write.apply db, bolt.onRevive) := by
  simp only [answered, if_neg play, if_neg stop, if_pos beat, isBlank_none, Bool.true_eq_false,
    if_false, if_true]

theorem answered_beat_refused (play : bolt.pt ≠ "0") (stop : ¬(bolt.pt = "1" ∨ bolt.pt = "2"))
    (beat : bolt.pt = "5") :
    ∃ message, Output.warn message ∈ (answered bolt false none db).2 := by
  simp only [answered, if_neg play, if_neg stop, if_pos beat, isBlank_none, Bool.true_eq_false,
    if_false]
  exact ⟨_, List.mem_singleton.mpr rfl⟩

theorem answered_other (play : bolt.pt ≠ "0") (stop : ¬(bolt.pt = "1" ∨ bolt.pt = "2"))
    (beat : bolt.pt ≠ "5") : answered bolt good read db = (db, []) := by
  simp only [answered, if_neg play, if_neg stop, if_neg beat]

end

end GitvTime.Guarantees.Realtime
