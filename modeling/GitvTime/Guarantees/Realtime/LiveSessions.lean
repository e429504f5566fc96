import GitvTime.Guarantees.Realtime.LiveInvariant

/-!
# Markers and sessions over whole runs

A session `mac|cp` without its marker is always on its way out: an expiry waits
for delivery or some `TriggerTask` still holds a good watch. The other direction,
no marker without its session, holds exactly in the runs in which no
`TriggerTask` commits its delete while the marker is there: the task watches the
marker but never looks at it.
-/
namespace GitvTime.Guarantees.Realtime
open GitvTime.Support GitvTime.Source.StringHandle GitvTime.Source.Realtime

/-! ### What a step leaves of the other devices -/

/-- Neither key of the device was modified. -/
structure Untouched (db db' : Keyspace) (mac : String) : Prop where
  marker_kept : db'.value mac = db.value mac
  stored_kept : storedValue db' mac = storedValue db mac
  marker_version : db'.version mac = db.version mac
  copy_version : db'.version (cpKey mac) = db.version (cpKey mac)

theorem Untouched.refl (db : Keyspace) (mac : String) : Untouched db db mac :=
  ⟨rfl, rfl, rfl, rfl⟩

section
variable {bolt : SessionBolt} {db : Keyspace} {mac : String}

theorem setSession_untouched (free : BarFree bolt.mac) (mac_free : BarFree mac)
    (different : mac ≠ bolt.mac) :
    Untouched db (bolt.setSession.foldl Write.apply db) mac := by
  have copy : mac ≠ bolt.macCopy := barFree_ne_strJoin₂ mac_free _ _
  have marker' : cpKey mac ≠ bolt.mac := (barFree_ne_strJoin₂ free mac "cp").symm
  have copy' : cpKey mac ≠ bolt.macCopy := fun h => different (cpKey_inj h)
  refine ⟨?_, ?_, setSession_version bolt db different copy, setSession_version bolt db marker' copy'⟩
  · rw [setSession_value, if_neg copy, if_neg different]
  · rw [setSession_stored free, if_neg different]

theorem delSession_untouched (free : BarFree bolt.mac) (mac_free : BarFree mac)
    (different : mac ≠ bolt.mac) :
    Untouched db (bolt.delSession.foldl Write.apply db) mac := by
  have copy : mac ≠ bolt.macCopy := barFree_ne_strJoin₂ mac_free _ _
  have marker' : cpKey mac ≠ bolt.mac := (barFree_ne_strJoin₂ free mac "cp").symm
  have copy' : cpKey mac ≠ bolt.macCopy := fun h => different (cpKey_inj h)
  refine ⟨?_, ?_, delSession_version bolt db different copy, delSession_version bolt db marker' copy'⟩
  · rw [delSession_value, if_neg (not_or.mpr ⟨different, copy⟩)]
  · rw [delSession_stored free, if_neg different]

theorem expireKey_untouched {device : String} (free : BarFree device) (different : mac ≠ device)
    (seconds : Nat) : Untouched db (expireKey db device seconds) mac := by
  have marker' : cpKey mac ≠ device := (barFree_ne_strJoin₂ free mac "cp").symm
  exact ⟨expireKey_value_ne _ _ different, expireKey_stored free _ _ _,
    expireKey_version_ne _ _ different, expireKey_version_ne _ _ marker'⟩

theorem lapse_untouched (db : Keyspace) {device : String} (free : BarFree device) (different : mac ≠ device)
    (counts : Bool) : Untouched db (db.lapse device counts) mac := by
  have marker' : cpKey mac ≠ device := (barFree_ne_strJoin₂ free mac "cp").symm
  exact ⟨Store.lapse_value_ne _ _ different, lapse_stored free _ _ _,
    Store.lapse_version_ne _ _ different, Store.lapse_version_ne _ _ marker'⟩

theorem delKey_untouched {device : String} (mac_free : BarFree mac) (different : mac ≠ device) :
    Untouched db (delKey db (cpKey device)) mac := by
  have copy : mac ≠ cpKey device := barFree_ne_strJoin₂ mac_free _ _
  have copy' : cpKey mac ≠ cpKey device := fun h => different (cpKey_inj h)
  refine ⟨delKey_value_ne _ copy, ?_, delKey_version_ne _ copy, delKey_version_ne _ copy'⟩
  rw [delKey_stored, if_neg different]

end

theorem MacMove.untouched {bolt : SessionBolt} {before after : Keyspace} {commit : Bool}
    {outputs : List Output} (move : MacMove bolt before after commit outputs)
    (free : BarFree bolt.mac) {mac : String} (mac_free : BarFree mac) (different : mac ≠ bolt.mac) :
    Untouched before after mac := by
  cases move with
  | idle same _ => rw [same]; exact .refl _ _
  | refresh after_eq => rw [after_eq]; exact expireKey_untouched free different _
  | switch _ after_eq => rw [after_eq]; exact setSession_untouched free mac_free different
  | begin _ after_eq _ => rw [after_eq]; exact setSession_untouched free mac_free different
  | stop _ after_eq => rw [after_eq]; exact delSession_untouched free mac_free different

/-- After a move the device has a marker with its session, no session, or what
it had before. -/
theorem MacMove.at_device {bolt : SessionBolt} {before after : Keyspace} {commit : Bool}
    {outputs : List Output} (move : MacMove bolt before after commit outputs)
    (free : BarFree bolt.mac) :
    after = before ∨
      (after.value bolt.mac).isSome = (storedValue after bolt.mac).isSome ∨
      (after.value bolt.mac).isSome = true ∧ (before.value bolt.mac).isSome = true ∧
        storedValue after bolt.mac = storedValue before bolt.mac := by
  have begun : ((bolt.setSession.foldl Write.apply before).value bolt.mac).isSome =
      (storedValue (bolt.setSession.foldl Write.apply before) bolt.mac).isSome := by
    rw [setSession_marker, setSession_stored free, if_pos rfl]
    rfl
  cases move with
  | idle same _ => exact .inl same
  | refresh after_eq =>
    rw [after_eq]
    cases marker : before.value bolt.mac with
    | none => exact .inl (expireKey_of_none marker _)
    | some entry => exact .inr (.inr ⟨by simp [marker], rfl, expireKey_stored free _ _ _⟩)
  | switch _ after_eq =>
    rw [after_eq]
    exact .inr (.inl begun)
  | begin _ after_eq _ =>
    rw [after_eq]
    exact .inr (.inl begun)
  | stop _ after_eq =>
    refine .inr (.inl ?_)
    rw [after_eq, delSession_value, delSession_stored free]
    simp

/-! ### No ghost sessions -/

/-- A `TriggerTask` that will commit if nobody comes in between. -/
def Armed (db : Keyspace) (mac : String) (client : RedisClient (List Output)) : Prop :=
  Waiting db mac client ∧ db.unmodified client.conn.macWatch = true

theorem Armed.start (db : Keyspace) (mac : String) :
    Armed db mac (Process.ofNotification mac).client :=
  ⟨.start, db.unmodified_nil⟩

theorem Waiting.watch_keys {db : Keyspace} {mac : String} {client : RedisClient (List Output)}
    (point : Waiting db mac client) :
    ∀ entry ∈ client.conn.macWatch, entry.1 = mac ∨ entry.1 = cpKey mac := by
  have keys : ∀ watch, Watching db [mac, cpKey mac] watch →
      ∀ entry ∈ watch, entry.1 = mac ∨ entry.1 = cpKey mac := by
    intro watch watching entry member
    have listed := List.mem_map_of_mem (f := Prod.fst) member
    rw [watching.keys_eq] at listed
    simpa using listed
  cases point with
  | start => exact fun _ member => nomatch member
  | watched watching => exact keys _ watching
  | fetched watching _ => exact keys _ watching

theorem Armed.frame {db db' : Keyspace} {mac : String} {client : RedisClient (List Output)}
    (armed : Armed db mac client) (wf : WellFormed db) (step : Store.Evolves Entry.Timed db db')
    (untouched : Untouched db db' mac) : Armed db' mac client := by
  refine ⟨armed.1.evolve wf step, ?_⟩
  rw [Store.unmodified_congr fun entry member => ?_]
  · exact armed.2
  · rcases armed.1.watch_keys entry member with key | key
    · rw [key]
      exact untouched.marker_version
    · rw [key]
      exact untouched.copy_version

/-- The session of the device is live or on its way out. -/
def TrackedAt (s : State) (mac : String) : Prop :=
  (s.servers.mac.value mac).isSome = true ∨ mac ∈ s.expired ∨
    ∃ process ∈ s.running, process.owner = .triggerTask mac ∧
      Armed s.servers.mac mac process.client

def Tracked (s : State) : Prop :=
  ∀ mac, (storedValue s.servers.mac mac).isSome = true → BarFree mac ∧ TrackedAt s mac

/-- What a step does not touch stays tracked, when a pending notification is
still dealt with and an armed task is left running. -/
theorem TrackedAt.carry {s s' : State} {mac : String} (tracked : TrackedAt s mac) (inv : Inv s)
    (step : Store.Evolves Entry.Timed s.servers.mac s'.servers.mac)
    (untouched : Untouched s.servers.mac s'.servers.mac mac)
    (notified : mac ∈ s.expired → TrackedAt s' mac)
    (remains : ∀ process ∈ s.running, process.owner = .triggerTask mac →
      Armed s.servers.mac mac process.client →
        ∃ left ∈ s'.running, left.owner = .triggerTask mac ∧ Armed s.servers.mac mac left.client) :
    TrackedAt s' mac := by
  rcases tracked with marker | pending | ⟨process, member, owner, armed⟩
  · refine .inl ?_
    rwa [untouched.marker_kept]
  · exact notified pending
  · obtain ⟨left, member', owner', armed'⟩ := remains process member owner armed
    exact .inr (.inr ⟨left, member', owner', armed'.frame inv.wf step untouched⟩)

/-- Only the sessions are looked at, so a step that leaves the session server and
the notifications alone and ends no armed task keeps everything tracked. -/
theorem Tracked.quiet {s s' : State} (tracked : Tracked s) (inv : Inv s)
    (same : s'.servers.mac = s.servers.mac) (expired : s'.expired = s.expired)
    (remains : ∀ mac, ∀ process ∈ s.running, process.owner = .triggerTask mac →
      Armed s.servers.mac mac process.client →
        ∃ left ∈ s'.running, left.owner = .triggerTask mac ∧ Armed s.servers.mac mac left.client) :
    Tracked s' := by
  intro mac stored
  rw [same] at stored
  obtain ⟨free, at_mac⟩ := tracked mac stored
  refine ⟨free, at_mac.carry inv ?_ ?_ ?_ (remains mac)⟩
  · rw [same]
    exact .refl _
  · rw [same]
    exact .refl _ _
  · intro pending
    exact .inr (.inl (expired ▸ pending))

/-- The other armed tasks are still there after a command of one process; so is
the process itself unless it was armed. -/
theorem remains_of_other {s : State} {front back : List Process} {process : Process}
    (running_eq : s.running = front ++ process :: back) (mac : String)
    (ended : process.owner = .triggerTask mac → ¬ Armed s.servers.mac mac process.client) :
    ∀ other ∈ s.running, other.owner = .triggerTask mac → Armed s.servers.mac mac other.client →
      ∃ left ∈ (ran s front process back).running,
        left.owner = .triggerTask mac ∧ Armed s.servers.mac mac left.client := by
  intro other member owner armed
  rw [running_eq] at member
  rcases List.mem_append.mp member with early | late
  · exact ⟨other, by simp [ran, early], owner, armed⟩
  · rcases List.mem_cons.mp late with rfl | late
    · exact absurd armed (ended owner)
    · exact ⟨other, by simp [ran, late], owner, armed⟩

theorem Tracked.run_mac2Redis {s : State} {front back : List Process} {event : PlayEvent}
    {client : RedisClient (List Output)} (tracked : Tracked s) (inv : Inv s)
    (running_eq : s.running = front ++ ⟨.mac2Redis event, client⟩ :: back) :
    Tracked (ran s front ⟨.mac2Redis event, client⟩ back) := by
  have point : MacPoint s.servers.mac (Live.sessionBolt event.toTuple) client :=
    inv.points ⟨.mac2Redis event, client⟩ (by simp [running_eq])
  have others := fun mac => remains_of_other running_eq mac fun h => nomatch h
  have step := mac_advance point
  obtain ⟨after, _⟩ := process_advance ⟨.mac2Redis event, client⟩ inv.wf inv.finite point
  rcases step with ⟨same, _, _, _⟩ | ⟨_, _, move⟩
  · exact tracked.quiet inv (congrArg Servers.mac same) rfl others
  · have carried : ∀ mac, (storedValue s.servers.mac mac).isSome = true →
        Untouched s.servers.mac (redis.advance s.servers client).1.mac mac →
          TrackedAt (ran s front ⟨.mac2Redis event, client⟩ back) mac := by
      intro mac stored untouched
      exact (tracked mac stored).2.carry inv after.evolves untouched
        (fun pending => .inr (.inl pending)) (others mac)
    intro mac stored
    rw [ran_servers] at stored
    by_cases device : mac = event.mac
    · subst device
      refine ⟨event.mac_free, ?_⟩
      rcases move.at_device event.mac_free with same | begun | ⟨marker, _⟩
      · have stored' : (storedValue s.servers.mac event.mac).isSome = true := by
          rwa [same] at stored
        exact carried event.mac stored' (same ▸ .refl _ _)
      · exact .inl (begun.trans stored)
      · exact .inl marker
    · have stored' : (storedValue s.servers.mac mac).isSome = true := by
        rwa [move.stored_ne event.mac_free device] at stored
      have free := (tracked mac stored').1
      exact ⟨free, carried mac stored' (move.untouched event.mac_free free device)⟩

theorem Tracked.run_triggerTask {s : State} {front back : List Process} {device : String}
    {client : RedisClient (List Output)} (tracked : Tracked s) (inv : Inv s)
    (running_eq : s.running = front ++ ⟨.triggerTask device, client⟩ :: back) :
    Tracked (ran s front ⟨.triggerTask device, client⟩ back) := by
  have point : ProcessAt s.servers.mac ⟨.triggerTask device, client⟩ :=
    inv.points _ (by simp [running_eq])
  obtain ⟨after, _⟩ := process_advance _ inv.wf inv.finite point
  have others := fun mac => remains_of_other running_eq mac
  by_cases waiting : Waiting s.servers.mac device client
  · rcases trigger_advance waiting with
      ⟨same, waiting', running, _, watch_kept⟩ | ⟨_, _, after_eq, _⟩ | ⟨refused, same, _, _⟩
    · refine tracked.quiet inv (congrArg Servers.mac same) rfl fun mac => ?_
      by_cases armed : device = mac ∧ s.servers.mac.unmodified client.conn.macWatch = true
      · obtain ⟨rfl, good⟩ := armed
        refine fun _ _ _ _ => ⟨⟨.triggerTask device, (redis.advance s.servers client).2⟩, ?_, rfl, ?_⟩
        · simp [ran, kept_of_running _ running]
        · exact ⟨waiting', watch_kept good⟩
      · refine others mac fun owner armed' => armed ⟨Owner.triggerTask.inj owner, armed'.2⟩
    · intro mac stored
      rw [ran_servers, after_eq, delKey_stored] at stored
      by_cases different : mac = device
      · rw [if_pos different] at stored
        cases stored
      · rw [if_neg different] at stored
        obtain ⟨free, at_mac⟩ := tracked mac stored
        refine ⟨free, at_mac.carry inv after.evolves ?_ (fun pending => .inr (.inl pending)) ?_⟩
        · rw [ran_servers, after_eq]
          exact delKey_untouched free different
        · exact others mac fun owner _ => different (Owner.triggerTask.inj owner).symm
    · refine tracked.quiet inv (congrArg Servers.mac same) rfl fun mac => others mac ?_
      intro owner armed
      have refused' := armed.2
      rw [refused] at refused'
      cases refused'
  · have pays := point.2.resolve_left waiting
    obtain ⟨same, _⟩ := pays.advance _ s.servers
    refine tracked.quiet inv same rfl fun mac => others mac fun owner armed => ?_
    cases owner
    exact waiting armed.1

theorem Tracked.step {s s' : State} {action : Action} (tracked : Tracked s) (inv : Inv s)
    (taken : s.step action = some s') : Tracked s' := by
  cases step_cases taken with
  | event event =>
    refine tracked.quiet inv rfl rfl fun mac process member owner armed => ?_
    exact ⟨process, by simp [member], owner, armed⟩
  | expire present timed =>
    rename_i device entry modifies
    have free := inv.wf.timed_free _ _ present timed
    intro mac stored
    rw [show storedValue _ mac = storedValue s.servers.mac mac from
      lapse_stored free _ _ mac] at stored
    obtain ⟨mac_free, at_mac⟩ := tracked mac stored
    refine ⟨mac_free, ?_⟩
    by_cases same : mac = device
    · exact .inr (.inl (by simp [same]))
    · have step : Store.Evolves Entry.Timed s.servers.mac (s.servers.mac.lapse device modifies) := by
        refine .lapse _ _ fun value held => ?_
        rw [present] at held
        cases held
        exact timed
      refine at_mac.carry inv step (lapse_untouched _ free same _) ?_ ?_
      · exact fun pending => .inr (.inl (List.mem_append_left _ pending))
      · exact fun process member owner armed => ⟨process, member, owner, armed⟩
  | deliver expired_eq =>
    rename_i index front back device
    intro mac stored
    obtain ⟨free, at_mac⟩ := tracked mac stored
    refine ⟨free, at_mac.carry inv (.refl _) (.refl _ _) ?_ ?_⟩
    · intro pending
      rw [expired_eq] at pending
      rcases List.mem_append.mp pending with early | late
      · exact .inr (.inl (List.mem_append_left _ early))
      · rcases List.mem_cons.mp late with rfl | late
        · exact .inr (.inr ⟨Process.ofNotification mac, by simp, rfl, .start _ mac⟩)
        · exact .inr (.inl (List.mem_append_right _ late))
    · exact fun process member owner armed => ⟨process, by simp [member], owner, armed⟩
  | run found running_eq =>
    rename_i index front back process
    obtain ⟨owner, client⟩ := process
    cases owner with
    | mac2Redis event => exact tracked.run_mac2Redis inv running_eq
    | triggerTask device => exact tracked.run_triggerTask inv running_eq
  | tuple sent idle inFlight_eq tasks_eq booked =>
    exact tracked.quiet inv rfl rfl fun mac process member owner armed =>
      ⟨process, member, owner, armed⟩
  | tick tasks_eq perm =>
    exact tracked.quiet inv rfl rfl fun mac process member owner armed =>
      ⟨process, member, owner, armed⟩
  | push tasks_eq =>
    rename_i task before after cacheMap flush
    have increments := inv.flushes ⟨cacheMap, some flush⟩ (by simp [tasks_eq]) flush rfl
    obtain ⟨same, _⟩ := OnlyIncrements.advance ⟨Conn.fresh, flush⟩ increments s.servers
    exact tracked.quiet inv same rfl fun mac process member owner armed =>
      ⟨process, member, owner, armed⟩

/-- Every stored session has its marker, an expiry that waits for delivery or a
`TriggerTask` that has not ended. -/
def NoGhosts (s : State) : Prop :=
  ∀ mac, (storedValue s.servers.mac mac).isSome = true →
    (s.servers.mac.value mac).isSome = true ∨ mac ∈ s.expired ∨
      ∃ process ∈ s.running, process.owner = .triggerTask mac

theorem no_ghost_sessions (tasks : Nat) (actions : List Action) :
    AllStates State.step NoGhosts (State.init tasks) actions := by
  refine AllStates.mono (P := fun s => Inv s ∧ Tracked s) ?_
    (AllStates.of_invariant ?_ actions ⟨.init tasks, ?_⟩)
  · rintro s ⟨_, tracked⟩ mac stored
    rcases (tracked mac stored).2 with marker | pending | ⟨process, member, owner, _⟩
    · exact .inl marker
    · exact .inr (.inl pending)
    · exact .inr (.inr ⟨process, member, owner⟩)
  · rintro s action s' ⟨inv, tracked⟩ taken
    exact ⟨inv.step taken, tracked.step inv taken⟩
  · intro mac stored
    cases stored

/-! ### Live sessions are counted -/

/-- The session of every device with a marker is stored. -/
def LiveCounted (s : State) : Prop :=
  ∀ mac, BarFree mac → (s.servers.mac.value mac).isSome = true →
    (storedValue s.servers.mac mac).isSome = true

/-- A `TriggerTask` EXEC that is about to go through finds no marker. -/
def ReclaimsExpired (s : State) : Action → Prop
  | .run index => ∀ mac client, s.running[index]? = some ⟨.triggerTask mac, client⟩ →
      commits s.servers.mac client = true → s.servers.mac.value mac = none
  | _ => True

/-- The WATCH covers the marker: when it was absent then, a restart before the
EXEC makes the EXEC fail. Only a restart before the WATCH goes unnoticed. -/
theorem restart_after_watch_aborts {db db' : Keyspace} {mac : String}
    (absent : db.value mac = none) (step : Store.Evolves Entry.Timed db db')
    (restarted : (db'.value mac).isSome = true) :
    db'.unmodified (db.watch [mac, cpKey mac]) = false := by
  rw [Bool.eq_false_iff]
  intro good
  have same := (Store.unmodified_iff _ _).mp good (mac, db.version mac) (by simp [Store.watch])
  rcases step.values mac same with kept | ⟨gone, _⟩
  · simp [kept, absent] at restarted
  · simp [gone] at restarted

theorem LiveCounted.same {s s' : State} (same : s'.servers.mac = s.servers.mac) :
    LiveCounted s' ↔ LiveCounted s := by
  unfold LiveCounted
  rw [same]

theorem LiveCounted.run_mac2Redis {s : State} {front back : List Process} {event : PlayEvent}
    {client : RedisClient (List Output)} (counted : LiveCounted s)
    (point : MacPoint s.servers.mac (Live.sessionBolt event.toTuple) client) :
    LiveCounted (ran s front ⟨.mac2Redis event, client⟩ back) := by
  rcases mac_advance point with ⟨same, _, _, _⟩ | ⟨_, _, move⟩
  · exact (LiveCounted.same (congrArg Servers.mac same)).mpr counted
  · intro mac free marker
    rw [ran_servers] at marker ⊢
    by_cases device : mac = event.mac
    · subst device
      rcases move.at_device event.mac_free with same | begun | ⟨_, live, kept⟩
      · rw [same] at marker ⊢
        exact counted event.mac free marker
      · exact begun.symm.trans marker
      · rw [show storedValue _ event.mac = _ from kept]
        exact counted event.mac free live
    · have untouched := move.untouched event.mac_free free device
      rw [untouched.marker_kept] at marker
      rw [untouched.stored_kept]
      exact counted mac free marker

/-- A `TriggerTask` breaks the property with its EXEC or not at all. -/
theorem liveCounted_triggerTask {s : State} {front back : List Process} {device : String}
    {client : RedisClient (List Output)} (counted : LiveCounted s)
    (point : ProcessAt s.servers.mac ⟨.triggerTask device, client⟩) :
    LiveCounted (ran s front ⟨.triggerTask device, client⟩ back) ↔
      (commits s.servers.mac client = true → s.servers.mac.value device = none) := by
  obtain ⟨device_free, waiting | pays⟩ := point
  · have unchanged : ∀ {s' : State}, s'.servers.mac = s.servers.mac →
        commits s.servers.mac client = false →
          (LiveCounted s' ↔
            (commits s.servers.mac client = true → s.servers.mac.value device = none)) := by
      intro s' same quiet
      rw [LiveCounted.same same, quiet]
      simp [counted]
    rcases trigger_advance waiting with
      ⟨same, _, _, reading, _⟩ | ⟨commit, _, after_eq, _⟩ | ⟨_, same, refused, _⟩
    · exact unchanged (congrArg Servers.mac same) reading
    · simp only [commit, forall_const]
      have marker_kept : ∀ mac, BarFree mac →
          (delKey s.servers.mac (cpKey device)).value mac = s.servers.mac.value mac :=
        fun mac free => delKey_value_ne _ (barFree_ne_strJoin₂ free device "cp")
      constructor
      · intro counted'
        have at_device := counted' device device_free
        rw [ran_servers, after_eq, marker_kept device device_free, delKey_stored, if_pos rfl]
          at at_device
        simpa using at_device
      · intro expired mac free marker
        rw [ran_servers, after_eq, marker_kept mac free] at marker
        rw [ran_servers, after_eq, delKey_stored]
        by_cases same : mac = device
        · subst same
          simp [expired] at marker
        · rw [if_neg same]
          exact counted mac free marker
    · exact unchanged (congrArg Servers.mac same) refused
  · obtain ⟨same, _⟩ := pays.advance _ s.servers
    have quiet : commits s.servers.mac client = false := by
      obtain ⟨conn, prog⟩ := client
      cases prog with
      | done outputs => rfl
      | call command next =>
        cases command with
        | exec queue => exact pays.elim
        | _ => rfl
    rw [LiveCounted.same same, quiet]
    simp [counted]

/-- One step keeps live sessions counted exactly if it is no such EXEC. -/
theorem liveCounted_step {s s' : State} {action : Action} (inv : Inv s) (counted : LiveCounted s)
    (taken : s.step action = some s') : LiveCounted s' ↔ ReclaimsExpired s action := by
  have kept : ∀ {s' : State}, s'.servers.mac = s.servers.mac → (LiveCounted s' ↔ True) :=
    fun same => (LiveCounted.same same).trans (iff_true_intro counted)
  cases step_cases taken with
  | event event => exact kept rfl
  | expire present timed =>
    rename_i device entry modifies
    have free := inv.wf.timed_free _ _ present timed
    refine iff_of_true (fun mac mac_free marker => ?_) trivial
    have alive : mac ≠ device := by
      rintro rfl
      simp at marker
    have untouched := lapse_untouched s.servers.mac free alive modifies
    rw [untouched.marker_kept] at marker
    rw [untouched.stored_kept]
    exact counted mac mac_free marker
  | deliver expired_eq => exact kept rfl
  | run found running_eq =>
    rename_i index front back process
    have point := inv.points process (by simp [running_eq])
    obtain ⟨owner, client⟩ := process
    cases owner with
    | mac2Redis event =>
      refine iff_of_true (counted.run_mac2Redis point) ?_
      intro mac client' owned
      rw [found] at owned
      cases owned
    | triggerTask device =>
      rw [liveCounted_triggerTask counted point]
      simp [ReclaimsExpired, found]
  | tuple sent idle inFlight_eq tasks_eq booked => exact kept rfl
  | tick tasks_eq perm => exact kept rfl
  | push tasks_eq =>
    rename_i task before after cacheMap flush
    have increments := inv.flushes ⟨cacheMap, some flush⟩ (by simp [tasks_eq]) flush rfl
    exact kept (OnlyIncrements.advance ⟨Conn.fresh, flush⟩ increments s.servers).1

/-- Live sessions stay counted throughout a run exactly when every `TriggerTask`
EXEC that goes through finds the marker gone. -/
theorem live_sessions_counted_iff (tasks : Nat) (actions : List Action) :
    AllStates State.step LiveCounted (State.init tasks) actions ↔
      AllSteps State.step ReclaimsExpired (State.init tasks) actions := by
  refine AllStates.iff_allSteps Inv (fun s action s' inv taken => inv.step taken) ?_
    actions (.init tasks) fun mac free marker => nomatch marker
  intro s action s' inv counted taken
  exact liveCounted_step inv counted taken

/-- A session expires and is restarted before the `TriggerTask` of the expiry
begins. -/
def lateTriggerRun : List Action :=
  [.event startEvent, .run 0, .run 0, .run 0, .expire "AABB" false,
    .event startEvent, .run 0, .run 0, .run 0, .deliver 0, .run 0, .run 0, .run 0]

/-- After this run the device is live and its session is gone. -/
theorem live_session_not_counted :
    ¬ ∀ tasks actions, AllStates State.step LiveCounted (State.init tasks) actions := by
  intro counted
  obtain ⟨last, reached, marker, lost⟩ : ∃ last,
      runSteps State.step (State.init 0) lateTriggerRun = some last ∧
        (last.servers.mac.value "AABB").isSome = true ∧
          storedValue last.servers.mac "AABB" = none := ⟨_, rfl, by decide, by decide⟩
  have present := (counted 0 lateTriggerRun).last reached "AABB" (by decide) marker
  rw [lost] at present
  cases present

end GitvTime.Guarantees.Realtime
