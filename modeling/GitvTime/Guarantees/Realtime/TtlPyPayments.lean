import GitvTime.Guarantees.Realtime.CounterLedger
import GitvTime.Source.Realtime.TtlPy

/-!
# Whether a deletion of `mac|cp` is paid for

The handlers of an expiry run among INCRBYs of other clients on the counter
server. `TriggerTask` always pays for a session it has deleted. `ttl.py` pays
exactly when both counters exist and nobody touches them between its WATCH and
EXEC on the counter server.
-/
namespace GitvTime.Guarantees.Realtime
open GitvTime.Support GitvTime.Source.StringHandle GitvTime.Source.Realtime

/-! ### Increments of other clients -/

/-- A batch of INCRBYs of other clients. -/
def incrAll (batch : List (String × Int)) (db : Counters) : Counters :=
  batch.foldl (fun db entry => incrCounter db entry.1 entry.2) db

/-- The batches that arrive before each command of a program. -/
def amid (batches : Nat → List (String × Int)) (n : Nat) (s : Servers) : Servers :=
  { s with comp := incrAll (batches n) s.comp }

theorem incrAll_isSome (batch : List (String × Int)) (db : Counters) (key : String) :
    ((incrAll batch db).value key).isSome = true ↔
      (db.value key).isSome = true ∨ key ∈ batch.map Prod.fst := by
  induction batch generalizing db with
  | nil => simp [incrAll]
  | cons entry rest ih =>
    have step : incrAll (entry :: rest) db = incrAll rest (incrCounter db entry.1 entry.2) := rfl
    rw [step, ih]
    by_cases same : key = entry.1
    · subst same
      simp [incrCounter]
    · simp [incrCounter, Store.write_value_ne _ _ same, same]

/-- Every INCRBY of a key counts as one modification. -/
theorem incrAll_version (batch : List (String × Int)) (db : Counters) (key : String) :
    (incrAll batch db).version key = db.version key + (batch.map Prod.fst).count key := by
  induction batch generalizing db with
  | nil => rfl
  | cons entry rest ih =>
    have step : incrAll (entry :: rest) db = incrAll rest (incrCounter db entry.1 entry.2) := rfl
    rw [step, ih, List.map_cons, List.count_cons]
    by_cases same : key = entry.1
    · subst same
      simp [incrCounter]
      omega
    · have different : ¬ entry.1 = key := fun h => same h.symm
      simp [incrCounter, Store.write_version_ne _ _ same, different]

/-! ### One command at the head of a trace -/

section
variable {α : Type} (others : Nat → Servers → Servers) (n : Nat) (s : Servers) (conn : Conn)

theorem trace_watch (keys : List String) (next : Unit → RedisProg α) :
    redis.traceAmid others n s conn (watch keys >>= next) =
      ⟨.watch keys, ()⟩ :: redis.traceAmid others (n + 1) (others n s)
        { conn with macWatch := conn.macWatch ++ (others n s).mac.watch keys } (next ()) := rfl

theorem trace_get (key : String) (next : Option String → RedisProg α) :
    redis.traceAmid others n s conn (get key >>= next) =
      ⟨.get key, ((others n s).mac.value key).map Entry.value⟩ ::
        redis.traceAmid others (n + 1) (others n s) conn
          (next (((others n s).mac.value key).map Entry.value)) := rfl

theorem trace_exec (queue : List Write) (next : Bool → RedisProg α) :
    redis.traceAmid others n s conn (exec queue >>= next) =
      ⟨.exec queue, (runExec queue (others n s) conn).2.2⟩ ::
        redis.traceAmid others (n + 1) (runExec queue (others n s) conn).1
          (runExec queue (others n s) conn).2.1 (next (runExec queue (others n s) conn).2.2) := rfl

theorem trace_compWatch (keys : List String) (next : Unit → RedisProg α) :
    redis.traceAmid others n s conn (compWatch keys >>= next) =
      ⟨.compWatch keys, ()⟩ :: redis.traceAmid others (n + 1) (others n s)
        { conn with compWatch := conn.compWatch ++ (others n s).comp.watch keys } (next ()) := rfl

theorem trace_compGet (key : String) (next : Option Int → RedisProg α) :
    redis.traceAmid others n s conn (compGet key >>= next) =
      ⟨.compGet key, (others n s).comp.value key⟩ ::
        redis.traceAmid others (n + 1) (others n s) conn (next ((others n s).comp.value key)) := rfl

theorem trace_compExec (queue : List (String × Int)) (next : Bool → RedisProg α) :
    redis.traceAmid others n s conn (compExec queue >>= next) =
      ⟨.compExec queue, (runCompExec queue (others n s) conn).2.2⟩ ::
        redis.traceAmid others (n + 1) (runCompExec queue (others n s) conn).1
          (runCompExec queue (others n s) conn).2.1
          (next (runCompExec queue (others n s) conn).2.2) := rfl

theorem trace_pure (result : α) : redis.traceAmid others n s conn (pure result) = [] := rfl

end

/-! ### Deletions and payments in a trace -/

abbrev Trace := List ((command : Command) × command.Reply)

/-- The decrements of a key in one command. -/
def decrementsIn (key : String) : (command : Command) × command.Reply → Nat
  | ⟨.incrBy other delta, _⟩ => if other = key ∧ delta = -1 then 1 else 0
  | ⟨.compExec queue, done⟩ => if done = true then queue.count (key, -1) else 0
  | _ => 0

/-- The deletions of a session key in one command. -/
def deletionsIn (key : String) : (command : Command) × command.Reply → Nat
  | ⟨.exec queue, done⟩ => if done = true then queue.count (.del key) else 0
  | _ => 0

def decrements (key : String) (trace : Trace) : Nat := (trace.map (decrementsIn key)).sum
def deletions (key : String) (trace : Trace) : Nat := (trace.map (deletionsIn key)).sum

/-- A handler of the expiry of `mac` that deletes the session of `channel` and
`partner` decrements each of its two counters exactly once. -/
def PaysDeletion {α : Type} (handler : RedisProg α) (s : Servers)
    (batches : Nat → List (String × Int)) (mac : String) : Prop :=
  ∀ value channel partner rest, storedValue s.mac mac = some value →
    strSplit value = channel :: partner :: rest →
      let trace := redis.traceAmid (amid batches) 0 s Conn.fresh handler
      0 < deletions (cpKey mac) trace →
        decrements (totalKey channel) trace = 1 ∧ decrements (partnerKey partner channel) trace = 1

/-- Both counters are there when `comp` reads them (its commands are number 3 to
6), and no INCRBY of either comes after its WATCH. -/
def CountersQuiet (s : Servers) (batches : Nat → List (String × Int)) (mac : String) : Prop :=
  ∀ value channel partner rest, storedValue s.mac mac = some value →
    strSplit value = channel :: partner :: rest →
      ∀ key ∈ [totalKey channel, partnerKey partner channel],
        ((s.comp.value key).isSome = true ∨ ∃ n < 4, key ∈ (batches n).map Prod.fst) ∧
          ∀ n, 4 ≤ n → n < 7 → key ∉ (batches n).map Prod.fst

/-! ### `ttl.py` -/

section
variable {batches : Nat → List (String × Int)} {value channel partner : String}
  {rest : List String}

/-- What `comp` finds: both counters present and its watch good. -/
def compGood (batches : Nat → List (String × Int)) (db : Counters) (total partner : String) : Bool :=
  let watched := incrAll (batches 3) db
  let first := incrAll (batches 4) watched
  let second := incrAll (batches 5) first
  let last := incrAll (batches 6) second
  (first.value total).isSome && (second.value partner).isSome &&
    last.unmodified (watched.watch [total, partner])

/-- `comp` with its two counter keys. -/
theorem comp_eq (pieces : strSplit value = channel :: partner :: rest) :
    TtlPy.comp value = (do
      compWatch [totalKey channel, partnerKey partner channel]
      let total ← compGet (totalKey channel)
      if total.isSome = true then do
        let partners ← compGet (partnerKey partner channel)
        if partners.isSome = true then do
          let _ ← compExec [(totalKey channel, -1), (partnerKey partner channel, -1)]
          pure ()
        else pure ()
      else pure ()) := by
  simp only [TtlPy.comp, pieces]
  rw [total_text, partner_text]

/-- `comp` decrements both counters once or does nothing. -/
theorem comp_decrements (batches : Nat → List (String × Int))
    (pieces : strSplit value = channel :: partner :: rest) (s : Servers)
    (macWatch : Watch String) (key : String) :
    decrements key (redis.traceAmid (amid batches) 3 s ⟨macWatch, []⟩ (TtlPy.comp value)) =
      if compGood batches s.comp (totalKey channel) (partnerKey partner channel) = true then
        [(totalKey channel, (-1 : Int)), (partnerKey partner channel, -1)].count (key, -1)
      else 0 := by
  rw [comp_eq pieces, trace_compWatch, trace_compGet]
  unfold compGood
  by_cases first : ((incrAll (batches 4) (incrAll (batches 3) s.comp)).value
      (totalKey channel)).isSome = true
  · have found : ((amid batches 4 (amid batches 3 s)).comp.value (totalKey channel)).isSome = true :=
      first
    rw [if_pos found, trace_compGet]
    by_cases second : ((incrAll (batches 5) (incrAll (batches 4) (incrAll (batches 3) s.comp))).value
        (partnerKey partner channel)).isSome = true
    · have found' : ((amid batches 5 (amid batches 4 (amid batches 3 s))).comp.value
          (partnerKey partner channel)).isSome = true := second
      rw [if_pos found', trace_compExec, trace_pure]
      simp only [first, second, Bool.true_and, decrements, List.map_cons, List.map_nil,
        List.sum_cons, List.sum_nil, decrementsIn, runCompExec_reply, Nat.zero_add, Nat.add_zero]
      rfl
    · have missing : ¬ ((amid batches 5 (amid batches 4 (amid batches 3 s))).comp.value
          (partnerKey partner channel)).isSome = true := second
      rw [if_neg missing, trace_pure]
      simp [decrements, decrementsIn, second]
  · have missing : ¬ ((amid batches 4 (amid batches 3 s)).comp.value (totalKey channel)).isSome = true :=
      first
    rw [if_neg missing, trace_pure]
    simp [decrements, decrementsIn, first]

/-- The watch of `comp` is good exactly when no INCRBY of its keys came after it. -/
theorem comp_unmodified_iff (db : Counters) (keys : List String) :
    (incrAll (batches 6) (incrAll (batches 5) (incrAll (batches 4) db))).unmodified (db.watch keys) =
        true ↔
      ∀ key ∈ keys, ∀ n, 4 ≤ n → n < 7 → key ∉ (batches n).map Prod.fst := by
  have counted : ∀ key, (incrAll (batches 6) (incrAll (batches 5) (incrAll (batches 4) db))).version
      key = db.version key ↔ ∀ n, 4 ≤ n → n < 7 → key ∉ (batches n).map Prod.fst := by
    intro key
    rw [incrAll_version, incrAll_version, incrAll_version]
    constructor
    · intro same n low high
      rw [← List.count_eq_zero]
      have cases : n = 4 ∨ n = 5 ∨ n = 6 := by omega
      rcases cases with rfl | rfl | rfl <;> omega
    · intro absent
      have h₄ := List.count_eq_zero.mpr (absent 4 (by omega) (by omega))
      have h₅ := List.count_eq_zero.mpr (absent 5 (by omega) (by omega))
      have h₆ := List.count_eq_zero.mpr (absent 6 (by omega) (by omega))
      omega
  simp only [Store.unmodified_iff, Store.watch, List.forall_mem_map, counted]

/-- A key is there after the first batches, none of which removes it. -/
theorem present_iff (db : Counters) (key : String) (first second : List (String × Int))
    (absent : key ∉ first.map Prod.fst) (absent' : key ∉ second.map Prod.fst) :
    ((incrAll second (incrAll first (incrAll (batches 3) (incrAll (batches 2)
        (incrAll (batches 1) (incrAll (batches 0) db)))))).value key).isSome = true ↔
      (db.value key).isSome = true ∨ ∃ n < 4, key ∈ (batches n).map Prod.fst := by
  simp only [incrAll_isSome, absent, absent', or_false]
  constructor
  · rintro ((((stored | h) | h) | h) | h)
    · exact .inl stored
    · exact .inr ⟨0, by omega, h⟩
    · exact .inr ⟨1, by omega, h⟩
    · exact .inr ⟨2, by omega, h⟩
    · exact .inr ⟨3, by omega, h⟩
  · rintro (stored | ⟨n, bound, h⟩)
    · exact .inl (.inl (.inl (.inl stored)))
    · match n, bound with
      | 0, _ => exact .inl (.inl (.inl (.inr h)))
      | 1, _ => exact .inl (.inl (.inr h))
      | 2, _ => exact .inl (.inr h)
      | 3, _ => exact .inr h

theorem compGood_iff (db : Counters) (total partnerCount : String) :
    compGood batches (incrAll (batches 2) (incrAll (batches 1) (incrAll (batches 0) db))) total
        partnerCount = true ↔
      ∀ key ∈ [total, partnerCount],
        ((db.value key).isSome = true ∨ ∃ n < 4, key ∈ (batches n).map Prod.fst) ∧
          ∀ n, 4 ≤ n → n < 7 → key ∉ (batches n).map Prod.fst := by
  simp only [compGood, Bool.and_eq_true, comp_unmodified_iff]
  constructor
  · rintro ⟨⟨first, second⟩, quiet⟩
    have quiet_total := quiet total (by simp)
    have quiet_partner := quiet partnerCount (by simp)
    have found := (present_iff db total _ [] (quiet_total 4 (by omega) (by omega)) (by simp)).mp
      first
    have found' := (present_iff db partnerCount _ _ (quiet_partner 4 (by omega) (by omega))
      (quiet_partner 5 (by omega) (by omega))).mp second
    intro key member
    rcases List.mem_cons.mp member with rfl | member
    · exact ⟨found, quiet_total⟩
    · rw [List.mem_singleton.mp member]
      exact ⟨found', quiet_partner⟩
  · intro all
    obtain ⟨found, quiet_total⟩ := all total (by simp)
    obtain ⟨found', quiet_partner⟩ := all partnerCount (by simp)
    refine ⟨⟨?_, ?_⟩, fun key member => (all key member).2⟩
    · exact (present_iff db total _ [] (quiet_total 4 (by omega) (by omega)) (by simp)).mpr
        found
    · exact (present_iff db partnerCount _ _ (quiet_partner 4 (by omega) (by omega))
        (quiet_partner 5 (by omega) (by omega))).mpr found'

end

/-! ### Both handlers up to the deletion -/

section
variable {batches : Nat → List (String × Int)} {s : Servers} {mac value : String}

/-- The servers after the deletion, when its three commands were numbers 0 to 2. -/
def afterDeletion (batches : Nat → List (String × Int)) (s : Servers) (mac : String) : Servers :=
  ⟨delKey s.mac (cpKey mac), incrAll (batches 2) (incrAll (batches 1) (incrAll (batches 0) s.comp))⟩

/-- INCRBYs on the counter server do not disturb the deletion. -/
theorem deletion_trace {α : Type} (next : Bool → RedisProg α) :
    redis.traceAmid (amid batches) 2 (amid batches 1 (amid batches 0 s))
        ⟨s.mac.watch [mac, cpKey mac], []⟩ (exec [.del (cpKey mac)] >>= next) =
      ⟨.exec [.del (cpKey mac)], true⟩ ::
        redis.traceAmid (amid batches) 3 (afterDeletion batches s mac) Conn.fresh (next true) := by
  have good : (amid batches 2 (amid batches 1 (amid batches 0 s))).mac.unmodified
      (s.mac.watch [mac, cpKey mac]) = true := s.mac.unmodified_watch _
  have commits : runExec [.del (cpKey mac)] (amid batches 2 (amid batches 1 (amid batches 0 s)))
      ⟨s.mac.watch [mac, cpKey mac], []⟩ = (afterDeletion batches s mac, Conn.fresh, true) := by
    rw [runExec, if_pos good]
    rfl
  rw [trace_exec, commits]

/-- `ttl.py` deletes a stored session and goes on with `comp`. -/
theorem ttlPy_trace (stored : storedValue s.mac mac = some value) (nonempty : value ≠ "") :
    redis.traceAmid (amid batches) 0 s Conn.fresh (TtlPy.handle mac) =
      [⟨.watch [mac, cpKey mac], ()⟩, ⟨.get (cpKey mac), some value⟩,
          ⟨.exec [.del (cpKey mac)], true⟩] ++
        redis.traceAmid (amid batches) 3 (afterDeletion batches s mac) Conn.fresh
          (TtlPy.comp value) := by
  have read : ((amid batches 1 (amid batches 0 s)).mac.value (cpKey mac)).map Entry.value =
      some value := stored
  unfold TtlPy.handle
  rw [trigger_key, trace_watch, trace_get, read]
  simp only [if_neg nonempty]
  refine congrArg (List.cons _) (congrArg (List.cons _) ?_)
  exact deletion_trace _

/-- Behind the deletion only the payment counts. -/
theorem decrements_after_deletion (key : String) (trace : Trace) :
    decrements key ([⟨.watch [mac, cpKey mac], ()⟩, ⟨.get (cpKey mac), some value⟩,
      ⟨.exec [.del (cpKey mac)], true⟩] ++ trace) = decrements key trace := by
  simp [decrements, decrementsIn]

theorem deletions_pos (trace : Trace) :
    0 < deletions (cpKey mac) ([⟨.watch [mac, cpKey mac], ()⟩, ⟨.get (cpKey mac), some value⟩,
      ⟨.exec [.del (cpKey mac)], true⟩] ++ trace) := by
  simp [deletions, deletionsIn]

/-- `ttl.py` pays for its deletion exactly when the counters are quiet. -/
theorem ttlPy_pays_iff (s : Servers) (batches : Nat → List (String × Int)) (mac : String) :
    PaysDeletion (TtlPy.handle mac) s batches mac ↔ CountersQuiet s batches mac := by
  refine forall_congr' fun value => forall_congr' fun channel => forall_congr' fun partner =>
    forall_congr' fun rest => imp_congr_right fun stored => imp_congr_right fun pieces => ?_
  have nonempty : value ≠ "" := by
    rintro rfl
    rw [show strSplit "" = [""] by decide] at pieces
    cases pieces
  have distinct := total_ne_partner channel channel partner
  have counted := fun key => comp_decrements batches pieces
    (afterDeletion batches s mac) [] key
  simp only [ttlPy_trace stored nonempty, deletions_pos, forall_const, decrements_after_deletion]
  rw [← compGood_iff]
  have total := counted (totalKey channel)
  have partners := counted (partnerKey partner channel)
  simp only [List.count_cons, List.count_nil] at total partners
  have comp_eq : (afterDeletion batches s mac).comp =
    incrAll (batches 2) (incrAll (batches 1) (incrAll (batches 0) s.comp)) := rfl
  rw [comp_eq] at total partners
  rw [show (Conn.fresh : Conn) = ⟨[], []⟩ from rfl, total, partners]
  by_cases good : compGood batches (incrAll (batches 2) (incrAll (batches 1)
      (incrAll (batches 0) s.comp))) (totalKey channel) (partnerKey partner channel) = true
  · simp [good, distinct, distinct.symm]
  · simp [good]

/-- `TriggerTask` always pays for its deletion. -/
theorem triggerTask_pays (s : Servers) (batches : Nat → List (String × Int)) (mac : String) :
    PaysDeletion (TriggerTask.run mac) s batches mac := by
  intro value channel partner rest stored pieces trace _
  have distinct := total_ne_partner channel channel partner
  have trace_eq : trace =
      [⟨.watch [mac, cpKey mac], ()⟩, ⟨.get (cpKey mac), some value⟩,
        ⟨.exec [.del (cpKey mac)], true⟩] ++
      [⟨.incrBy (totalKey channel) (-1), ()⟩, ⟨.incrBy (partnerKey partner channel) (-1), ()⟩] := by
    have read : ((amid batches 1 (amid batches 0 s)).mac.value (cpKey mac)).map Entry.value =
        some value := stored
    simp only [trace]
    unfold TriggerTask.run
    rw [trigger_key, trace_watch, trace_get, read]
    unfold TriggerTask.reclaim
    rw [trigger_key]
    refine congrArg (List.cons _) (congrArg (List.cons _) ?_)
    refine (deletion_trace _).trans ?_
    simp only [if_true, TriggerTask.pay, pieces]
    rw [total_text, partner_text]
    rfl
  simp [trace_eq, decrements, decrementsIn, distinct, distinct.symm]

end

/-- `UserCount` flushes a delta of `total|c1` between `comp`'s reads and its EXEC. -/
def flushDuringComp : Nat → List (String × Int)
  | 6 => [("total|c1", 1)]
  | _ => []

/-- A device with a session of `c1` and `p1` whose counters both exist. -/
def expiredServers : Servers :=
  ⟨Store.empty.write "AABB|cp" (some ⟨"c1|p1", none⟩),
    (Store.empty.write "total|c1" (some 1)).write "partner|p1|c1" (some 1)⟩

/-- The flush makes the EXEC fail and the deletion stays unpaid. -/
theorem ttlPy_does_not_pay :
    ¬ ∀ s batches mac, PaysDeletion (TtlPy.handle mac) s batches mac := by
  intro pays
  have paid := pays expiredServers flushDuringComp "AABB" "c1|p1" "c1" "p1" [] rfl (by decide)
    (by decide)
  exact absurd paid (by decide)

end GitvTime.Guarantees.Realtime
