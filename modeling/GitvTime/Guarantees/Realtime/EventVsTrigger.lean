import GitvTime.Guarantees.Realtime.SoloRuns
import GitvTime.Support.TwoClients

/-!
# One event against one expiry task

All interleavings of one live `Mac2Redis` execution and one `TriggerTask` for the
same device. Neither changes a server before its third command, so an
interleaving is decided by which third command comes first and by how many
commands the other side had done by then; each of the resulting cases is
compared with the two serial orders.
-/
namespace GitvTime.Guarantees.Realtime
open GitvTime.Support GitvTime.Source.StringHandle GitvTime.Source.Realtime

/-! ### Programs on one of the two servers -/

/-- The program uses the session server only. -/
def MacOnly {α : Type} : RedisProg α → Prop
  | .done _ => True
  | .call (.watch _) next => MacOnly (next ())
  | .call (.get _) next => ∀ reply, MacOnly (next reply)
  | .call (.expire _ _) next => MacOnly (next ())
  | .call (.exec _) next => ∀ reply, MacOnly (next reply)
  | .call _ _ => False

theorem MacOnly.advance {α : Type} (client : RedisClient α) (only : MacOnly client.prog)
    (s : Servers) :
    (redis.advance s client).1.comp = s.comp ∧ MacOnly (redis.advance s client).2.prog := by
  obtain ⟨conn, prog⟩ := client
  cases prog with
  | done result => exact ⟨rfl, trivial⟩
  | call command next =>
    cases command with
    | watch keys => exact ⟨rfl, only⟩
    | get key => exact ⟨rfl, only _⟩
    | expire key seconds => exact ⟨rfl, only⟩
    | exec queue =>
      refine ⟨?_, only _⟩
      simp only [Server.advance_call, redis, perform, runExec]
      split <;> rfl
    | _ => exact only.elim

/-- Such a program does not see the counters. -/
theorem MacOnly.advance_congr {α : Type} (client : RedisClient α) (only : MacOnly client.prog)
    {s s' : Servers} (same : s'.mac = s.mac) :
    (redis.advance s' client).1.mac = (redis.advance s client).1.mac ∧
      (redis.advance s' client).2 = (redis.advance s client).2 := by
  obtain ⟨mac, comp⟩ := s
  obtain ⟨mac', comp'⟩ := s'
  cases same
  obtain ⟨conn, prog⟩ := client
  cases prog with
  | done result => exact ⟨rfl, rfl⟩
  | call command next =>
    cases command with
    | exec queue =>
      simp only [Server.advance_call, redis, perform, runExec]
      split <;> exact ⟨rfl, rfl⟩
    | watch | get | expire => exact ⟨rfl, rfl⟩
    | _ => exact only.elim

theorem MacOnly.runAlone_congr {α : Type} {prog : RedisProg α} (only : MacOnly prog)
    {s s' : Servers} (conn : Conn) (same : s'.mac = s.mac) :
    (redis.runAlone s' conn prog).1.mac = (redis.runAlone s conn prog).1.mac ∧
      (redis.runAlone s' conn prog).2.2 = (redis.runAlone s conn prog).2.2 := by
  induction prog generalizing s s' conn with
  | done result => exact ⟨same, rfl⟩
  | call command next ih =>
    have step := MacOnly.advance_congr ⟨conn, .call command next⟩ only same
    have after := (MacOnly.advance ⟨conn, .call command next⟩ only s).2
    simp only [Server.advance_call] at step after
    rw [Server.runAlone_call, Server.runAlone_call]
    have conns := congrArg Client.conn step.2
    have progs := congrArg Client.prog step.2
    simp only at conns progs
    rw [conns, progs]
    exact ih _ after _ step.1

/-- A program on the session server and one that pays do not meet. -/
theorem interleave_apart (schedule : List Bool) {s : Servers}
    {left right : RedisClient (List Output)} {Q : List Output → Prop} (only : MacOnly left.prog)
    (increments : OnlyIncrements Q right.prog) {outputs outputs' : List Output}
    (ended : (redis.interleave schedule (s, left, right)).2.1.prog = .done outputs)
    (ended' : (redis.interleave schedule (s, left, right)).2.2.prog = .done outputs') :
    (redis.interleave schedule (s, left, right)).1.mac =
        (redis.runAlone s left.conn left.prog).1.mac ∧
      outputs = (redis.runAlone s left.conn left.prog).2.2 ∧
      ∀ key, counter key (redis.interleave schedule (s, left, right)).1 =
        counter key s + pendingDelta key right.prog := by
  induction schedule generalizing s left right with
  | nil =>
    have finished : left.prog = .done outputs := ended
    have finished' : right.prog = .done outputs' := ended'
    rw [finished, finished']
    exact ⟨rfl, rfl, fun key => by simp [Server.interleave, pendingDelta]⟩
  | cons turn rest ih =>
    cases turn with
    | true =>
      obtain ⟨comp_same, only'⟩ := only.advance _ s
      obtain ⟨mac_eq, out_eq, counted⟩ := ih only' increments ended ended'
      rw [redis.runAlone_advance s left]
      refine ⟨mac_eq, out_eq, fun key => ?_⟩
      rw [Server.interleave, counted key]
      simp only [counter, comp_same]
    | false =>
      obtain ⟨mac_same, increments'⟩ := increments.advance _ s
      obtain ⟨mac_eq, out_eq, counted⟩ := ih only increments' ended ended'
      obtain ⟨mac_congr, out_congr⟩ := only.runAlone_congr left.conn mac_same
      refine ⟨mac_eq.trans mac_congr, out_eq.trans out_congr, fun key => ?_⟩
      rw [Server.interleave, counted key]
      exact increments_conserve key _ increments s

/-! ### The two programs up to their third command -/

section
variable (bolt : SessionBolt) (s : Servers)

theorem event_ahead_one :
    redis.ahead s ⟨Conn.fresh, bolt.checkMacAndHandle⟩ 1 =
      ⟨⟨deviceWatch s.mac bolt.mac, []⟩, bolt.handle⟩ := rfl

theorem event_ahead_two :
    redis.ahead s ⟨Conn.fresh, bolt.checkMacAndHandle⟩ 2 =
      ⟨⟨deviceWatch s.mac bolt.mac, []⟩, answer bolt (storedValue s.mac bolt.mac)⟩ := by
  rw [Server.ahead, event_ahead_one]
  rcases handle_eq bolt with reads | ⟨ended, answers⟩
  · rw [reads]
    rfl
  · rw [ended, answers]
    rfl

theorem event_silent : redis.Silent s ⟨Conn.fresh, bolt.checkMacAndHandle⟩ 2 := by
  intro i bound
  match i, bound with
  | 0, _ => rfl
  | 1, _ =>
    rw [event_ahead_one]
    rcases handle_eq bolt with reads | ⟨ended, _⟩
    · rw [reads]
      rfl
    · rw [ended]
      rfl

theorem trigger_ahead_one (mac : String) :
    redis.ahead s ⟨Conn.fresh, TriggerTask.run mac⟩ 1 =
      ⟨⟨deviceWatch s.mac mac, []⟩, get (mac ++ "|cp") >>= TriggerTask.reclaim mac⟩ := by
  rw [deviceWatch, ← trigger_key]
  rfl

theorem trigger_ahead_two (mac : String) :
    redis.ahead s ⟨Conn.fresh, TriggerTask.run mac⟩ 2 =
      ⟨⟨deviceWatch s.mac mac, []⟩, TriggerTask.reclaim mac (storedValue s.mac mac)⟩ := by
  rw [Server.ahead, trigger_ahead_one, storedValue, ← trigger_key]
  rfl

theorem trigger_silent (mac : String) : redis.Silent s ⟨Conn.fresh, TriggerTask.run mac⟩ 2 := by
  intro i bound
  match i, bound with
  | 0, _ => rfl
  | 1, _ => rw [trigger_ahead_one]; rfl

theorem trigger_needs (mac : String) : (TriggerTask.run mac).Needs 3 :=
  fun _ _ _ => trivial

theorem answer_macOnly (read : Option String) : MacOnly (answer bolt read) := by
  have transaction : ∀ (queue : List Write) (next : Bool → List Output),
      MacOnly (do let committed ← exec queue; pure (next committed)) := fun _ _ _ => trivial
  unfold answer
  split
  · unfold SessionBolt.play
    split <;> exact transaction _ _
  · split
    · unfold SessionBolt.stop
      split
      · trivial
      · exact transaction _ _
    · split
      · unfold SessionBolt.heartbeat
        split
        · trivial
        · exact transaction _ _
      · trivial

theorem event_macOnly (n : Nat) (bound : n ≤ 2) :
    MacOnly (redis.ahead s ⟨Conn.fresh, bolt.checkMacAndHandle⟩ n).prog := by
  have handled : MacOnly bolt.handle := by
    rcases handle_eq bolt with reads | ⟨ended, _⟩
    · rw [reads]
      exact answer_macOnly bolt
    · rw [ended]
      trivial
  match n, bound with
  | 0, _ => exact handled
  | 1, _ => rw [event_ahead_one]; exact handled
  | 2, _ => rw [event_ahead_two]; exact answer_macOnly bolt _

end

/-! ### Going on after the other side's third command -/

/-- An execution that had done `n` of its commands in `s` goes on alone in `s'`. -/
theorem event_resumed (bolt : SessionBolt) (s s' : Servers) (n : Nat) (bound : n ≤ 2) :
    let client := redis.ahead s ⟨Conn.fresh, bolt.checkMacAndHandle⟩ n
    let ran := redis.runAlone s' client.conn client.prog
    let result := answered bolt (n == 0 || s'.mac.unmodified (deviceWatch s.mac bolt.mac))
      (if n = 2 then storedValue s.mac bolt.mac else storedValue s'.mac bolt.mac) s'.mac
    ran.1.mac = result.1 ∧ ran.2.2 = result.2 ∧ ran.1.comp = s'.comp := by
  match n, bound with
  | 0, _ => exact event_alone bolt s'
  | 1, _ =>
    rw [event_ahead_one]
    simp only [handle_runs]
    exact answer_runs bolt s' _ _
  | 2, _ =>
    rw [event_ahead_two]
    exact answer_runs bolt s' _ _

/-- A `TriggerTask` that had done `n` of its commands in `s` goes on alone in `s'`. -/
theorem trigger_resumed {s s' : Servers} (wf : WellFormed s.mac)
    (step : Store.Evolves Entry.Timed s.mac s'.mac) (mac : String) (n : Nat) (bound : n ≤ 2) :
    let client := redis.ahead s ⟨Conn.fresh, TriggerTask.run mac⟩ n
    let ran := redis.runAlone s' client.conn client.prog
    let good := n == 0 || s'.mac.unmodified (deviceWatch s.mac mac)
    ran.1.mac = (if good = true then delKey s'.mac (cpKey mac) else s'.mac) ∧
      ∀ key, counter key ran.1 =
        counter key s' - bookDelta key (if good = true then storedValue s'.mac mac else none) := by
  match n, bound with
  | 0, _ => exact trigger_alone s' mac
  | 1, _ =>
    have alone : redis.runAlone s' ⟨deviceWatch s.mac mac, []⟩
        (get (mac ++ "|cp") >>= TriggerTask.reclaim mac) =
        redis.runAlone s' ⟨deviceWatch s.mac mac, []⟩
          (TriggerTask.reclaim mac (storedValue s'.mac mac)) := by
      rw [storedValue, ← trigger_key]
      rfl
    rw [trigger_ahead_one]
    simp only [alone]
    exact reclaim_runs s' mac _ _
  | 2, _ =>
    rw [trigger_ahead_two]
    have runs := reclaim_runs s' mac (deviceWatch s.mac mac) (storedValue s.mac mac)
    by_cases unchanged : s'.mac.unmodified (deviceWatch s.mac mac) = true
    · have current := (Watching.now s.mac [mac, cpKey mac]).stored_kept wf step unchanged
      rw [current]
      exact runs
    · have refused := Bool.eq_false_iff.mpr unchanged
      simp only [refused] at runs ⊢
      exact runs

/-- The third command of an execution ends it. -/
theorem event_third (bolt : SessionBolt) (s : Servers) (watch : Watch String)
    (read : Option String) :
    let third := redis.advance s ⟨⟨watch, []⟩, answer bolt read⟩
    let result := answered bolt (s.mac.unmodified watch) read s.mac
    third.1.mac = result.1 ∧ third.2.prog = .done result.2 ∧ third.1.comp = s.comp := by
  intro third result
  obtain ⟨outputs, ended⟩ : ∃ outputs, third.2.prog = .done outputs := by
    have short : answer bolt read = .done [] ∨ ∃ command next, ∀ reply, ∃ outputs,
        answer bolt read = .call command next ∧ next reply = .done outputs := by
      unfold answer
      split
      · unfold SessionBolt.play
        split <;> exact .inr ⟨_, _, fun reply => ⟨_, rfl, rfl⟩⟩
      · split
        · unfold SessionBolt.stop
          split
          · exact .inl rfl
          · exact .inr ⟨_, _, fun reply => ⟨_, rfl, rfl⟩⟩
        · split
          · unfold SessionBolt.heartbeat
            split <;> exact .inr ⟨_, _, fun reply => ⟨_, rfl, rfl⟩⟩
          · exact .inl rfl
    rcases short with ended | ⟨command, next, answers⟩
    · exact ⟨[], by simp only [third, ended]; rfl⟩
    · obtain ⟨outputs, calls, ends⟩ := answers (redis.perform command s ⟨watch, []⟩).2.2
      exact ⟨outputs, by simp only [third, calls, Server.advance_call]; exact ends⟩
  have runs := answer_runs bolt s watch read
  have step := redis.runAlone_advance s ⟨⟨watch, []⟩, answer bolt read⟩
  have same : redis.runAlone s ⟨watch, []⟩ (answer bolt read) = (third.1, third.2.conn, outputs) := by
    refine step.trans ?_
    rw [show (redis.advance s ⟨⟨watch, []⟩, answer bolt read⟩).2.prog = .done outputs from ended]
    rfl
  rw [same] at runs
  obtain ⟨mac_eq, out_eq, comp_same⟩ := runs
  exact ⟨mac_eq, ended.trans (congrArg _ out_eq), comp_same⟩

theorem trigger_third (s : Servers) (mac : String) (read : Option String) :
    redis.advance s ⟨⟨deviceWatch s.mac mac, []⟩, TriggerTask.reclaim mac read⟩ =
      ({ s with mac := delKey s.mac (cpKey mac) }, ⟨Conn.fresh, TriggerTask.pay read⟩) := by
  unfold TriggerTask.reclaim
  rw [advance_exec, if_pos (s.mac.unmodified_watch _), trigger_key]
  rfl

/-! ### What an interleaving comes to -/

/-- The two keys of the device and the net change of the total counters. -/
structure Outcome where
  marker : Option Entry
  session : Option Entry
  change : String → Int

/-- What a run from `s` to `final` in which the event sent `outputs` comes to: a
counter changes by its change in Redis and by the tuples sent. -/
def outcome (s : Servers) (mac : String) (final : Servers) (outputs : List Output) : Outcome where
  marker := final.mac.value mac
  session := final.mac.value (cpKey mac)
  change channel := counter (totalKey channel) final - counter (totalKey channel) s +
    ((userCountTuples outputs).map (tupleDelta (totalKey channel))).sum

def eventThenTrigger (s : Servers) (event : PlayEvent) : Outcome :=
  let handled := redis.runAlone s Conn.fresh (Live.checkMacAndHandle event.toTuple)
  let reclaimed := redis.runAlone handled.1 Conn.fresh (TriggerTask.run event.mac)
  outcome s event.mac reclaimed.1 handled.2.2

def triggerThenEvent (s : Servers) (event : PlayEvent) : Outcome :=
  let reclaimed := redis.runAlone s Conn.fresh (TriggerTask.run event.mac)
  let handled := redis.runAlone reclaimed.1 Conn.fresh (Live.checkMacAndHandle event.toTuple)
  outcome s event.mac handled.1 handled.2.2

/-- The two programs in the order of the turns, `true` for the event. -/
def race (s : Servers) (event : PlayEvent) (schedule : List Bool) :
    Servers × RedisClient (List Output) × RedisClient (List Output) :=
  redis.interleave schedule (s, ⟨Conn.fresh, Live.checkMacAndHandle event.toTuple⟩,
    ⟨Conn.fresh, TriggerTask.run event.mac⟩)

/-- The outcome of a race over session store `db`: `paid` is the session value
the task has paid for. -/
def summary (mac : String) (db : Keyspace) (paid : Option String) (outputs : List Output) :
    Outcome where
  marker := db.value mac
  session := db.value (cpKey mac)
  change channel := -bookDelta (totalKey channel) paid +
    ((userCountTuples outputs).map (tupleDelta (totalKey channel))).sum

theorem outcome_eq {s final : Servers} {db : Keyspace} {paid : Option String} (mac : String)
    (outputs : List Output) (mac_eq : final.mac = db)
    (counted : ∀ key, counter key final = counter key s - bookDelta key paid) :
    outcome s mac final outputs = summary mac db paid outputs := by
  simp only [outcome, summary, mac_eq, counted]
  congr
  funext channel
  omega

section
variable {s : Servers} {event : PlayEvent}

/-- The serial order in which the event comes first. -/
theorem eventThenTrigger_eq (s : Servers) (event : PlayEvent) :
    let handled := answered (Live.sessionBolt event.toTuple) true (storedValue s.mac event.mac) s.mac
    eventThenTrigger s event =
      summary event.mac (delKey handled.1 (cpKey event.mac)) (storedValue handled.1 event.mac)
        handled.2 := by
  intro handled
  obtain ⟨mac_eq, out_eq, comp_same⟩ := event_alone (Live.sessionBolt event.toTuple) s
  obtain ⟨deleted, counted⟩ := trigger_alone
    (redis.runAlone s Conn.fresh (Live.sessionBolt event.toTuple).checkMacAndHandle).1 event.mac
  rw [mac_eq] at deleted counted
  simp only [eventThenTrigger, Live.checkMacAndHandle, out_eq]
  refine outcome_eq _ _ deleted fun key => ?_
  rw [counted key, counter, comp_same]
  rfl

/-- The serial order in which the task comes first. -/
theorem triggerThenEvent_eq (s : Servers) (event : PlayEvent) :
    let handled := answered (Live.sessionBolt event.toTuple) true none
      (delKey s.mac (cpKey event.mac))
    triggerThenEvent s event =
      summary event.mac handled.1 (storedValue s.mac event.mac) handled.2 := by
  intro handled
  obtain ⟨deleted, counted⟩ := trigger_alone s event.mac
  have alone := event_alone (Live.sessionBolt event.toTuple)
    (redis.runAlone s Conn.fresh (TriggerTask.run event.mac)).1
  rw [deleted, Live.sessionBolt_mac, delKey_stored, if_pos rfl] at alone
  obtain ⟨mac_eq, out_eq, comp_same⟩ := alone
  simp only [triggerThenEvent, Live.checkMacAndHandle, out_eq]
  refine outcome_eq _ _ mac_eq fun key => ?_
  rw [← counted key, counter, comp_same]
  rfl

/-- What the execution does when the task's EXEC came after `n` of its commands. -/
def resumed (s : Servers) (event : PlayEvent) (n : Nat) : Keyspace × List Output :=
  let deleted := delKey s.mac (cpKey event.mac)
  answered (Live.sessionBolt event.toTuple)
    (n == 0 || deleted.unmodified (deviceWatch s.mac event.mac))
    (if n = 2 then storedValue s.mac event.mac else none) deleted

/-- Whether the task commits when the event's third command, which left `db`,
came after `n` of its commands. -/
def stillGood (s : Servers) (event : PlayEvent) (db : Keyspace) (n : Nat) : Bool :=
  n == 0 || db.unmodified (deviceWatch s.mac event.mac)

/-- Every finished race is one of these cases. -/
theorem race_cases (wf : WellFormed s.mac) {schedule : List Bool} {outputs outputs' : List Output}
    (ended : (race s event schedule).2.1.prog = .done outputs)
    (ended' : (race s event schedule).2.2.prog = .done outputs') :
    (turnsBefore false 2 schedule ≤ 2 ∧
      outputs = (resumed s event (turnsBefore false 2 schedule)).2 ∧
      outcome s event.mac (race s event schedule).1 outputs =
        summary event.mac (resumed s event (turnsBefore false 2 schedule)).1
          (storedValue s.mac event.mac) outputs) ∨
    (2 < turnsBefore false 2 schedule ∧ turnsBefore true 2 schedule ≤ 2 ∧
      let handled := answered (Live.sessionBolt event.toTuple) true (storedValue s.mac event.mac) s.mac
      let good := stillGood s event handled.1 (turnsBefore true 2 schedule)
      outputs = handled.2 ∧
      outcome s event.mac (race s event schedule).1 outputs =
        summary event.mac (if good = true then delKey handled.1 (cpKey event.mac) else handled.1)
          (if good = true then storedValue handled.1 event.mac else none) outputs) := by
  have moves : 2 < schedule.count false := by
    have needed := Server.turns_of_ended schedule (trigger_needs event.mac) ended'
    omega
  have event_silent := event_silent (Live.sessionBolt event.toTuple) s
  have trigger_silent := trigger_silent s event.mac
  rcases Server.interleave_race schedule event_silent trigger_silent moves with
    ⟨bound, rest, ran⟩ | ⟨late, bound, rest, ran⟩
  · refine .inl ⟨bound, ?_⟩
    rw [trigger_ahead_two, trigger_third] at ran
    have only := event_macOnly (Live.sessionBolt event.toTuple) s _ bound
    have pays := pay_onlyIncrements (storedValue s.mac event.mac)
    have goes : race s event schedule = _ := ran
    rw [goes] at ended ended' ⊢
    obtain ⟨mac_eq, out_eq, counted⟩ := interleave_apart rest only pays ended ended'
    have after := event_resumed (Live.sessionBolt event.toTuple) s
      { s with mac := delKey s.mac (cpKey event.mac) } _ bound
    simp only [Live.sessionBolt_mac, delKey_stored, if_true] at after
    obtain ⟨mac_eq', out_eq', _⟩ := after
    refine ⟨out_eq.trans out_eq', outcome_eq _ _ (mac_eq.trans mac_eq') fun key => ?_⟩
    rw [counted key, pay_owes]
    rfl
  · refine .inr ⟨late, bound, ?_⟩
    intro handled good
    rw [event_ahead_two] at ran
    have third := event_third (Live.sessionBolt event.toTuple) s
      (deviceWatch s.mac event.mac) (storedValue s.mac event.mac)
    rw [s.mac.unmodified_watch] at third
    obtain ⟨mac_eq, done_eq, comp_same⟩ := third
    have goes : race s event schedule = _ := ran
    rw [goes] at ended ended' ⊢
    simp only [Live.sessionBolt_mac] at mac_eq done_eq comp_same ended ended' ⊢
    generalize redis.advance s ⟨⟨deviceWatch s.mac event.mac, []⟩,
      answer (Live.sessionBolt event.toTuple) (storedValue s.mac event.mac)⟩ = third
      at mac_eq done_eq comp_same ended ended' ⊢
    obtain ⟨s₁, conn, prog⟩ := third
    simp only at mac_eq done_eq comp_same
    subst done_eq
    obtain ⟨alone, finished⟩ := Server.interleave_left_done rest rfl ended'
    rw [finished] at ended
    have out_eq : outputs = handled.2 := (Prog.done.inj ended).symm
    have step : Store.Evolves Entry.Timed s.mac s₁.mac := by
      rw [mac_eq]
      exact answered_evolves _ _ _ _
    obtain ⟨mac_eq', counted⟩ := trigger_resumed wf step event.mac _ bound
    rw [mac_eq] at mac_eq' counted
    rw [alone]
    refine ⟨out_eq, outcome_eq _ _ mac_eq' fun key => ?_⟩
    rw [counted key, counter, comp_same]
    rfl

end

end GitvTime.Guarantees.Realtime
