import GitvTime.Guarantees.Realtime.EventVsTrigger
import GitvTime.Guarantees.Realtime.LiveCounters

/-!
# When an event and an expiry task are serialisable

`EventVsTrigger` reduces a race to a few cases. Without a stored session every
one of them is a serial order. With one, an aborted EXEC of the event drops it,
and a heartbeat that slips between the task's WATCH and EXEC makes the task give
up a session that the event only prolonged.
-/
namespace GitvTime.Guarantees.Realtime
open GitvTime.Support GitvTime.Source.StringHandle GitvTime.Source.Realtime

/-- The outcome is that of a serial order and the event was not given up. -/
def Serialisable (s : Servers) (event : PlayEvent) (schedule : List Bool) (outputs : List Output) :
    Prop :=
  let reached := outcome s event.mac (race s event schedule).1 outputs
  (reached = eventThenTrigger s event ∨ reached = triggerThenEvent s event) ∧
    ∀ message, Output.warn message ∉ outputs

/-- When a session is stored: the task's EXEC does not fall between the commands
of a start, of a stop after its GET, or of a heartbeat before its GET; and the
EXPIRE of a heartbeat falls between the task's WATCH and EXEC only if there is no
marker or the heartbeat would revive just the session that is stored. -/
def Undisturbed (s : Servers) (event : PlayEvent) (schedule : List Bool) : Prop :=
  let eventDone := turnsBefore false 2 schedule
  let taskDone := turnsBefore true 2 schedule
  ∀ value, storedValue s.mac event.mac = some value →
    if event.pt = "0" then eventDone ≠ 1 ∧ eventDone ≠ 2
    else if event.pt = "1" ∨ event.pt = "2" then eventDone ≠ 2
    else if event.pt = "5" then
      eventDone ≠ 1 ∧ (2 < eventDone → taskDone ≠ 0 → ∀ entry, s.mac.value event.mac = some entry →
        entry.value = "0" ∧ value = strJoin₂ event.channelCode event.partner)
    else True

/-! ### Watches after the other side's changes -/

theorem dirty_of_lt {db db' : Keyspace} (key : String) {keys : List String} (listed : key ∈ keys)
    (later : db.version key < db'.version key) : db'.unmodified (db.watch keys) = false := by
  have watched : (key, db.version key) ∈ db.watch keys := List.mem_map.mpr ⟨key, listed, rfl⟩
  exact Store.unmodified_false_of_lt watched later

theorem delKey_dirty {db : Keyspace} {mac value : String} (stored : storedValue db mac = some value) :
    (delKey db (cpKey mac)).unmodified (deviceWatch db mac) = false := by
  obtain ⟨entry, present, _⟩ := Option.map_eq_some_iff.mp stored
  refine dirty_of_lt (cpKey mac) (by simp) ?_
  simp [delKey, present]

theorem delKey_of_unstored {db : Keyspace} {mac : String} (absent : storedValue db mac = none) :
    delKey db (cpKey mac) = db :=
  delKey_of_none (Option.map_eq_none_iff.mp absent)

theorem expireKey_dirty {db : Keyspace} {mac : String} {entry : Entry}
    (marker : db.value mac = some entry) (seconds : Nat) :
    (expireKey db mac seconds).unmodified (deviceWatch db mac) = false := by
  refine dirty_of_lt mac (by simp) ?_
  simp [expireKey, marker]

/-- A commit of a live event is no give-up. -/
theorem answered_silent (event : PlayEvent) (read : Option String) (db : Keyspace) :
    ∀ message, Output.warn message ∉ (answered (Live.sessionBolt event.toTuple) true read db).2 := by
  intro message
  simp only [answered, if_true]
  split
  · cases leaving read <;> simp [Live.sessionBolt]
  · split
    · split <;> simp [Live.sessionBolt]
    · split
      · split <;> simp [Live.sessionBolt]
      · simp

/-! ### The task's EXEC first -/

section
variable {s : Servers} {event : PlayEvent}

/-- Without a stored session the task changes nothing. -/
theorem resumed_of_unstored (absent : storedValue s.mac event.mac = none) (n : Nat) :
    resumed s event n = answered (Live.sessionBolt event.toTuple) true none
      (delKey s.mac (cpKey event.mac)) := by
  unfold resumed
  rw [delKey_of_unstored absent, absent]
  simp

theorem resumed_zero : resumed s event 0 = answered (Live.sessionBolt event.toTuple) true none
    (delKey s.mac (cpKey event.mac)) := rfl

theorem resumed_one {value : String} (stored : storedValue s.mac event.mac = some value) :
    resumed s event 1 = answered (Live.sessionBolt event.toTuple) false none
      (delKey s.mac (cpKey event.mac)) := by
  simp [resumed, delKey_dirty stored]

theorem resumed_two {value : String} (stored : storedValue s.mac event.mac = some value) :
    resumed s event 2 = answered (Live.sessionBolt event.toTuple) false (some value)
      (delKey s.mac (cpKey event.mac)) := by
  simp [resumed, delKey_dirty stored, stored]

/-- Prolonging a marker and deleting its session commute on the two keys. -/
theorem summary_expire_del (db : Keyspace) (mac : String) (paid : Option String)
    (outputs : List Output) :
    summary mac (expireKey (delKey db (cpKey mac)) mac TIME_TTL) paid outputs =
      summary mac (delKey (expireKey db mac TIME_TTL) (cpKey mac)) paid outputs := by
  have different : mac ≠ cpKey mac := mac_ne_cpKey mac
  simp only [summary, expireKey_value_self, delKey_value_self, delKey_value_ne _ different,
    expireKey_value_ne _ _ different.symm]

/-- The outcome and the outputs after the task's EXEC came first. -/
def LateEventSerialisable (s : Servers) (event : PlayEvent) (n : Nat) : Prop :=
  let reached := summary event.mac (resumed s event n).1 (storedValue s.mac event.mac)
    (resumed s event n).2
  (reached = eventThenTrigger s event ∨ reached = triggerThenEvent s event) ∧
    ∀ message, Output.warn message ∉ (resumed s event n).2

/-- The event behaves as if it began after the task. -/
theorem late_of_fresh {n : Nat}
    (fresh : resumed s event n = answered (Live.sessionBolt event.toTuple) true none
      (delKey s.mac (cpKey event.mac))) : LateEventSerialisable s event n := by
  unfold LateEventSerialisable
  rw [fresh]
  exact ⟨.inr (triggerThenEvent_eq s event).symm, answered_silent event _ _⟩

theorem not_late_of_warn {n : Nat}
    (refused : ∃ message, Output.warn message ∈ (resumed s event n).2) :
    ¬ LateEventSerialisable s event n := by
  rintro ⟨_, silent⟩
  obtain ⟨message, member⟩ := refused
  exact silent message member

theorem late_event_iff (wf : WellFormed s.mac) {n : Nat} (bound : n ≤ 2) {value : String}
    (stored : storedValue s.mac event.mac = some value) :
    LateEventSerialisable s event n ↔
      if event.pt = "0" then n ≠ 1 ∧ n ≠ 2
      else if event.pt = "1" ∨ event.pt = "2" then n ≠ 2
      else if event.pt = "5" then n ≠ 1
      else True := by
  have full := wf.not_blank stored
  have first : LateEventSerialisable s event 0 := late_of_fresh resumed_zero
  by_cases play : event.pt = "0"
  · rw [if_pos play]
    match n, bound with
    | 0, _ => simp [first]
    | 1, _ =>
      simp only [ne_eq, not_true_eq_false, false_and, iff_false]
      refine not_late_of_warn ?_
      rw [resumed_one stored]
      exact answered_play_refused play
    | 2, _ =>
      simp only [ne_eq, not_true_eq_false, and_false, iff_false]
      refine not_late_of_warn ?_
      rw [resumed_two stored]
      exact answered_play_refused play
  · rw [if_neg play]
    by_cases stop : event.pt = "1" ∨ event.pt = "2"
    · rw [if_pos stop]
      match n, bound with
      | 0, _ => simp [first]
      | 1, _ =>
        simp only [ne_eq, OfNat.one_ne_ofNat, not_false_eq_true, iff_true]
        refine late_of_fresh ?_
        rw [resumed_one stored, answered_stop_none play stop, answered_stop_none play stop]
      | 2, _ =>
        simp only [ne_eq, not_true_eq_false, iff_false]
        refine not_late_of_warn ?_
        rw [resumed_two stored]
        exact answered_stop_refused play stop full
    · rw [if_neg stop]
      by_cases beat : event.pt = "5"
      · rw [if_pos beat]
        match n, bound with
        | 0, _ => simp [first]
        | 1, _ =>
          simp only [ne_eq, not_true_eq_false, iff_false]
          refine not_late_of_warn ?_
          rw [resumed_one stored]
          exact answered_beat_refused play stop beat
        | 2, _ =>
          simp only [ne_eq, OfNat.ofNat_ne_one, not_false_eq_true, iff_true]
          have prolonged : storedValue (expireKey s.mac event.mac TIME_TTL) event.mac = some value := by
            rw [expireKey_stored event.mac_free, stored]
          unfold LateEventSerialisable
          rw [resumed_two stored, answered_beat_some play stop beat full, eventThenTrigger_eq, stored,
            answered_beat_some play stop beat full]
          refine ⟨.inl ?_, by simp⟩
          simp only [Live.sessionBolt_mac, prolonged]
          exact summary_expire_del _ _ _ _
      · rw [if_neg beat]
        refine iff_of_true (late_of_fresh ?_) trivial
        unfold resumed
        rw [answered_other play stop beat, answered_other play stop beat]

/-! ### The event's third command first -/

/-- What the event comes to when it is not in the task's way. -/
def handledAlone (s : Servers) (event : PlayEvent) : Keyspace × List Output :=
  answered (Live.sessionBolt event.toTuple) true (storedValue s.mac event.mac) s.mac

/-- The outcome after the event's third command came first. -/
def LateTaskSerialisable (s : Servers) (event : PlayEvent) (n : Nat) : Prop :=
  let handled := handledAlone s event
  let good := stillGood s event handled.1 n
  let reached := summary event.mac
    (if good = true then delKey handled.1 (cpKey event.mac) else handled.1)
    (if good = true then storedValue handled.1 event.mac else none) handled.2
  reached = eventThenTrigger s event ∨ reached = triggerThenEvent s event

/-- The task commits: the event came first. -/
theorem late_task_of_good {n : Nat} (good : stillGood s event (handledAlone s event).1 n = true) :
    LateTaskSerialisable s event n := by
  refine .inl ?_
  rw [good, eventThenTrigger_eq]
  rfl

/-- The task gives up. -/
theorem late_task_of_dirty {n : Nat}
    (dirty : stillGood s event (handledAlone s event).1 n = false) :
    LateTaskSerialisable s event n ↔
      summary event.mac (handledAlone s event).1 none (handledAlone s event).2 =
          eventThenTrigger s event ∨
        summary event.mac (handledAlone s event).1 none (handledAlone s event).2 =
          triggerThenEvent s event := by
  simp [LateTaskSerialisable, dirty]

/-- Only the two keys of the device and the counts show in a summary. -/
theorem summary_congr {mac : String} {db db' : Keyspace} {paid paid' : Option String}
    {outputs outputs' : List Output} (marker : db.value mac = db'.value mac)
    (session : db.value (cpKey mac) = db'.value (cpKey mac))
    (change : ∀ channel, -bookDelta (totalKey channel) paid +
        ((userCountTuples outputs).map (tupleDelta (totalKey channel))).sum =
      -bookDelta (totalKey channel) paid' +
        ((userCountTuples outputs').map (tupleDelta (totalKey channel))).sum) :
    summary mac db paid outputs = summary mac db' paid' outputs' := by
  simp only [summary, marker, session, change]

/-- A start or a revival leaves the same keys whatever was there. -/
theorem summary_setSession {bolt : SessionBolt} (db db' : Keyspace) {paid paid' : Option String}
    {outputs outputs' : List Output} (change : ∀ channel, -bookDelta (totalKey channel) paid +
        ((userCountTuples outputs).map (tupleDelta (totalKey channel))).sum =
      -bookDelta (totalKey channel) paid' +
        ((userCountTuples outputs').map (tupleDelta (totalKey channel))).sum) :
    summary bolt.mac (bolt.setSession.foldl Write.apply db) paid outputs =
      summary bolt.mac (bolt.setSession.foldl Write.apply db') paid' outputs' := by
  refine summary_congr ?_ ?_ change
  · rw [setSession_marker, setSession_marker]
  · rw [setSession_copy, setSession_copy]

/-- A switch that made the task give up is a start after the task: both book the
stored channel out once. -/
theorem switch_change (wf : WellFormed s.mac) (channel : String) :
    -bookDelta (totalKey channel) none +
        ((userCountTuples ((Live.sessionBolt event.toTuple).onPlay
          (leaving (storedValue s.mac event.mac)))).map (tupleDelta (totalKey channel))).sum =
      -bookDelta (totalKey channel) (storedValue s.mac event.mac) +
        ((userCountTuples ((Live.sessionBolt event.toTuple).onPlay (leaving none))).map
          (tupleDelta (totalKey channel))).sum := by
  cases stored : storedValue s.mac event.mac with
  | none => rfl
  | some value =>
    have full := wf.not_blank stored
    obtain ⟨channel', partner, hc, hp, rfl⟩ := wf.stored_pair _ _ stored
    have left : leaving (some (strJoin₂ channel' partner)) = some channel' := by
      simp [leaving, full, piece0_pair hc]
    rw [left, bookDelta_total channel hc hp]
    simp [Live.sessionBolt, leaving, userCountTuples, tupleDelta, bookDelta_total channel hc
      event.partner_free, bookDelta_total channel event.channelCode_free event.partner_free]
    omega

/-- A heartbeat whose EXPIRE made the task give up: no session may be lost, so
only a revival of just what is there comes to the same. -/
theorem late_task_beat (wf : WellFormed s.mac) (play : event.pt ≠ "0")
    (stop : ¬(event.pt = "1" ∨ event.pt = "2")) (beat : event.pt = "5") {value : String}
    (stored : storedValue s.mac event.mac = some value) {entry : Entry}
    (marker : s.mac.value event.mac = some entry) {n : Nat} (later : n ≠ 0) :
    LateTaskSerialisable s event n ↔
      entry.value = "0" ∧ value = strJoin₂ event.channelCode event.partner := by
  have full := wf.not_blank stored
  have handled : handledAlone s event = (expireKey s.mac event.mac TIME_TTL, []) := by
    rw [handledAlone, stored]
    exact answered_beat_some play stop beat full
  have dirty : stillGood s event (handledAlone s event).1 n = false := by
    simp [stillGood, handled, expireKey_dirty marker, later]
  have different : event.mac ≠ cpKey event.mac := mac_ne_cpKey event.mac
  obtain ⟨copy, copy_eq, copy_value⟩ := Option.map_eq_some_iff.mp stored
  have copy_untimed : copy.ttl = none := by
    cases ttl : copy.ttl with
    | none => rfl
    | some seconds =>
      exact absurd (wf.timed_free _ _ copy_eq (by simp [Entry.Timed, ttl])) (strJoin₂_not_barFree _ _)
  -- the task in front would have taken the session
  have not_first : summary event.mac (expireKey s.mac event.mac TIME_TTL) none [] ≠
      eventThenTrigger s event := by
    intro same
    have session := congrArg Outcome.session (same.trans (eventThenTrigger_eq s event))
    simp [summary, expireKey_value_ne _ _ different.symm, copy_eq] at session
  rw [late_task_of_dirty dirty, handled, or_iff_right not_first, triggerThenEvent_eq,
    answered_beat_none play stop beat]
  constructor
  · intro same
    have markers := congrArg Outcome.marker same
    have sessions := congrArg Outcome.session same
    have new_marker := setSession_marker (Live.sessionBolt event.toTuple)
      (delKey s.mac (cpKey event.mac))
    have new_copy := setSession_copy (Live.sessionBolt event.toTuple) (delKey s.mac (cpKey event.mac))
    simp only [Live.sessionBolt_mac] at new_marker new_copy
    simp only [summary, expireKey_value_self, marker, Option.map_some, new_marker] at markers
    simp only [summary, expireKey_value_ne _ _ different.symm, copy_eq, new_copy] at sessions
    refine ⟨congrArg Entry.value (Option.some.inj markers), ?_⟩
    rw [← copy_value, Option.some.inj sessions]
    rfl
  · rintro ⟨zero, own⟩
    obtain ⟨text, ttl⟩ := copy
    simp only at copy_value copy_untimed zero
    subst copy_value copy_untimed
    refine summary_congr ?_ ?_ fun channel => ?_
    · rw [expireKey_value_self, marker]
      refine Eq.trans ?_ (setSession_marker (Live.sessionBolt event.toTuple) _).symm
      simp [zero]
    · rw [expireKey_value_ne _ _ different.symm, copy_eq, own]
      exact (setSession_copy (Live.sessionBolt event.toTuple) _).symm
    · rw [stored, own, bookDelta_total channel event.channelCode_free event.partner_free]
      simp [Live.sessionBolt, userCountTuples, tupleDelta,
        bookDelta_total channel event.channelCode_free event.partner_free]

theorem late_task_iff (wf : WellFormed s.mac) (n : Nat) :
    LateTaskSerialisable s event n ↔
      ∀ value, storedValue s.mac event.mac = some value → event.pt = "5" → n ≠ 0 →
        ∀ entry, s.mac.value event.mac = some entry →
          entry.value = "0" ∧ value = strJoin₂ event.channelCode event.partner := by
  by_cases hard : event.pt = "5" ∧ n ≠ 0 ∧ (storedValue s.mac event.mac).isSome = true ∧
      (s.mac.value event.mac).isSome = true
  · obtain ⟨beat, later, has_session, has_marker⟩ := hard
    obtain ⟨value, stored⟩ := Option.isSome_iff_exists.mp has_session
    obtain ⟨entry, marker⟩ := Option.isSome_iff_exists.mp has_marker
    have play : event.pt ≠ "0" := by simp [beat]
    have stop : ¬(event.pt = "1" ∨ event.pt = "2") := by simp [beat]
    rw [late_task_beat wf play stop beat stored marker later]
    constructor
    · intro same value' stored' _ _ entry' marker'
      rw [stored] at stored'
      rw [marker] at marker'
      cases stored'
      cases marker'
      exact same
    · exact fun all => all value stored beat later entry marker
  · refine iff_of_true ?_ fun value stored beat later entry marker =>
      absurd ⟨beat, later, by simp [stored], by simp [marker]⟩ hard
    cases good : stillGood s event (handledAlone s event).1 n with
    | true => exact late_task_of_good good
    | false =>
      have later : n ≠ 0 := by
        rintro rfl
        cases good
      have changed : handledAlone s event = (s.mac, []) → False := by
        intro same
        simp [stillGood, same] at good
      rw [late_task_of_dirty good]
      by_cases play : event.pt = "0"
      · right
        rw [triggerThenEvent_eq, handledAlone, answered_play play, answered_play play]
        exact summary_setSession _ _ (switch_change wf)
      · by_cases stop : event.pt = "1" ∨ event.pt = "2"
        · cases stored : storedValue s.mac event.mac with
          | none =>
            refine (changed ?_).elim
            rw [handledAlone, stored]
            exact answered_stop_none play stop
          | some value =>
            left
            have full := wf.not_blank stored
            have gone : storedValue ((Live.sessionBolt event.toTuple).delSession.foldl Write.apply s.mac)
                event.mac = none := by
              rw [delSession_stored event.mac_free]
              simp
            rw [eventThenTrigger_eq, handledAlone, stored, answered_stop_some play stop full]
            simp only [gone, delKey_of_unstored gone]
        · by_cases beat : event.pt = "5"
          · cases stored : storedValue s.mac event.mac with
            | none =>
              right
              rw [triggerThenEvent_eq, handledAlone, stored, answered_beat_none play stop beat,
                answered_beat_none play stop beat]
              exact summary_setSession _ _ fun _ => rfl
            | some value =>
              have full := wf.not_blank stored
              have no_marker : s.mac.value event.mac = none := by
                cases marker : s.mac.value event.mac with
                | none => rfl
                | some entry =>
                  exact absurd ⟨beat, later, by simp [stored], by simp [marker]⟩ hard
              refine (changed ?_).elim
              rw [handledAlone, stored, answered_beat_some play stop beat full]
              exact Prod.ext (expireKey_of_none no_marker _) rfl
          · refine (changed ?_).elim
            exact answered_other play stop beat

/-- Every finished race is serialisable exactly when it is undisturbed. -/
theorem event_trigger_serialisable_iff (wf : WellFormed s.mac) {schedule : List Bool}
    {outputs outputs' : List Output}
    (ended : (race s event schedule).2.1.prog = .done outputs)
    (ended' : (race s event schedule).2.2.prog = .done outputs') :
    Serialisable s event schedule outputs ↔ Undisturbed s event schedule := by
  rcases race_cases wf ended ended' with ⟨early, out_eq, reached⟩ | ⟨late, bound, out_eq, reached⟩
  · have same : Serialisable s event schedule outputs ↔
        LateEventSerialisable s event (turnsBefore false 2 schedule) := by
      unfold Serialisable LateEventSerialisable
      rw [reached, out_eq]
    rw [same]
    cases stored : storedValue s.mac event.mac with
    | none =>
      refine iff_of_true (late_of_fresh (resumed_of_unstored stored _)) fun value stored' => ?_
      rw [stored] at stored'
      cases stored'
    | some value =>
      rw [late_event_iff wf early stored]
      have not_late : ¬ 2 < turnsBefore false 2 schedule := by omega
      simp [Undisturbed, stored, not_late]
  · have same : Serialisable s event schedule outputs ↔
        LateTaskSerialisable s event (turnsBefore true 2 schedule) := by
      unfold Serialisable LateTaskSerialisable
      rw [reached, out_eq]
      exact and_iff_left (answered_silent event _ _)
    rw [same, late_task_iff wf]
    have not_one : turnsBefore false 2 schedule ≠ 1 := by omega
    have not_two : turnsBefore false 2 schedule ≠ 2 := by omega
    simp only [Undisturbed, not_one, not_two, late, ne_eq, not_false_eq_true, and_self, true_and,
      forall_const]
    refine forall_congr' fun value => imp_congr_right fun _ => ?_
    by_cases beat : event.pt = "5"
    · simp [beat]
    · simp [beat]

end

/-- A device that watches `c1`. -/
def watchingServers : Servers :=
  ⟨(Live.sessionBolt ⟨"p1", "AABB", "", "0", "1", "c1"⟩).setSession.foldl Write.apply Store.empty,
    Store.empty⟩

/-- The event of its switch to `c2`. -/
def switchEvent : PlayEvent :=
  ⟨⟨"p1", "AABB", "", "0", "1", "c2"⟩, by decide, by decide, by decide⟩

theorem watchingServers_wellFormed : WellFormed watchingServers.mac := by
  have pair : (Live.sessionBolt ⟨"p1", "AABB", "", "0", "1", "c1"⟩).channelPartner =
    strJoin₂ "c1" "p1" := rfl
  exact (Inv.init 0).wf.setSession (by decide) (by decide) (by decide) pair

/-- The switch before the task's EXEC but after its GET. -/
theorem switch_serialisable :
    ∃ outputs, Serialisable watchingServers switchEvent
      [false, false, true, true, true, false] outputs :=
  ⟨_, (event_trigger_serialisable_iff watchingServers_wellFormed rfl rfl).mpr
    fun _ _ => by simp [switchEvent, turnsBefore]⟩

/-- The task's EXEC between the WATCH and the EXEC of the switch: the switch is
acked and lost. -/
theorem switch_not_serialisable :
    ¬ ∀ s event schedule outputs outputs', WellFormed s.mac →
      (race s event schedule).2.1.prog = .done outputs →
      (race s event schedule).2.2.prog = .done outputs' →
        Serialisable s event schedule outputs := by
  intro always
  obtain ⟨_, silent⟩ := always watchingServers switchEvent
    [true, true, false, false, false, true, false, false] _ _ watchingServers_wellFormed rfl rfl
  exact silent "transaction is disturbed,and mac is AABB,try again..." (by decide)

/-- A heartbeat of the device on `c2`. -/
def beatEvent : PlayEvent :=
  ⟨⟨"p1", "AABB", "", "5", "1", "c2"⟩, by decide, by decide, by decide⟩

/-- The EXPIRE of a heartbeat between the WATCH and the EXEC of the task: the task gives
up, and `c1` stays where either serial order takes it out. -/
theorem beat_neither_order :
    ∃ schedule outputs outputs',
      (race watchingServers beatEvent schedule).2.1.prog = .done outputs ∧
      (race watchingServers beatEvent schedule).2.2.prog = .done outputs' ∧
      outcome watchingServers beatEvent.mac (race watchingServers beatEvent schedule).1 outputs ≠
        eventThenTrigger watchingServers beatEvent ∧
      outcome watchingServers beatEvent.mac (race watchingServers beatEvent schedule).1 outputs ≠
        triggerThenEvent watchingServers beatEvent := by
  refine ⟨[false, true, true, true, false, false, false, false], _, _, rfl, rfl, fun same => ?_,
    fun same => ?_⟩
  · have session := congrArg Outcome.session same
    revert session
    decide
  · have session := congrArg Outcome.session same
    revert session
    decide

end GitvTime.Guarantees.Realtime
