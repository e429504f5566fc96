import GitvTime.Guarantees.Realtime.TtlPyPayments
import GitvTime.Support.Runs

/-!
# What the calls of `comp` leave of the counters

The guard of `comp` asks whether a string is greater than 0, which in Python 2 every
string is, "0" and "-1" too. So a call takes both of its counters down whenever both
exist, and a counter survives a sequence of calls exactly when it starts with at
least as much as they take.
-/
namespace GitvTime.Guarantees.Realtime
open GitvTime.Support GitvTime.Source.StringHandle GitvTime.Source.Realtime

namespace TtlPyCounters

/-- A call of `comp` with nobody else at the servers, on a pipeline of its own. -/
def compCall (s : Servers) (channel_partner : String) : Servers :=
  (redis.runAlone s Conn.fresh (TtlPy.comp channel_partner)).1

/-- No counter is below zero. -/
def NonNegative (s : Servers) : Prop := ∀ key count, s.comp.value key = some count → 0 ≤ count

/-- The counters that a call takes down by one: both of its own when both exist. -/
def taken (db : Counters) (channel_partner : String) : List String :=
  match strSplit channel_partner with
  | channel :: partner :: _ =>
    if (db.value (totalKey channel)).isSome = true ∧
        (db.value (partnerKey partner channel)).isSome = true then
      [totalKey channel, partnerKey partner channel]
    else []
  | _ => []

theorem incrCounter_value (db : Counters) (key other : String) (delta : Int)
    (present : (db.value key).isSome = true) :
    (incrCounter db key delta).value other =
      (db.value other).map fun count => if key = other then count + delta else count := by
  obtain ⟨count, stored⟩ := Option.isSome_iff_exists.mp present
  by_cases same : key = other
  · subst same
    simp [incrCounter, stored]
  · rw [incrCounter, Store.write_value_ne _ _ (Ne.symm same)]
    simp [same]

section
variable {α : Type} (s : Servers) (conn : Conn)

theorem alone_compWatch (keys : List String) (next : Unit → RedisProg α) :
    redis.runAlone s conn (compWatch keys >>= next) =
      redis.runAlone s { conn with compWatch := conn.compWatch ++ s.comp.watch keys } (next ()) :=
  rfl

theorem alone_compGet (key : String) (next : Option Int → RedisProg α) :
    redis.runAlone s conn (compGet key >>= next) =
      redis.runAlone s conn (next (s.comp.value key)) := rfl

theorem alone_compExec (queue : List (String × Int)) (next : Bool → RedisProg α) :
    redis.runAlone s conn (compExec queue >>= next) =
      redis.runAlone (runCompExec queue s conn).1 (runCompExec queue s conn).2.1
        (next (runCompExec queue s conn).2.2) := rfl

end

/-- `comp` on its own: two reads and, when both found a counter, the transaction. -/
theorem compCall_eq {channel_partner channel partner : String} {rest : List String}
    (pieces : strSplit channel_partner = channel :: partner :: rest) (s : Servers) :
    (compCall s channel_partner).comp =
      if (s.comp.value (totalKey channel)).isSome = true ∧
          (s.comp.value (partnerKey partner channel)).isSome = true then
        incrCounter (incrCounter s.comp (totalKey channel) (-1)) (partnerKey partner channel) (-1)
      else s.comp := by
  unfold compCall
  rw [comp_eq pieces, alone_compWatch, alone_compGet]
  by_cases total : (s.comp.value (totalKey channel)).isSome = true
  · rw [if_pos total, alone_compGet]
    by_cases partners : (s.comp.value (partnerKey partner channel)).isSome = true
    · have good : s.comp.unmodified (Conn.fresh.compWatch ++
          s.comp.watch [totalKey channel, partnerKey partner channel]) = true :=
        s.comp.unmodified_watch _
      rw [if_pos partners, if_pos ⟨total, partners⟩, alone_compExec, runCompExec, if_pos good]
      rfl
    · rw [if_neg partners, if_neg fun both => partners both.2]
      rfl
  · rw [if_neg total, if_neg fun both => total both.1]
    rfl

/-- A call lowers each counter that it takes down and leaves the others. -/
theorem compCall_value (s : Servers) (channel_partner key : String) :
    (compCall s channel_partner).comp.value key =
      (s.comp.value key).map fun count : Int =>
        count - ((taken s.comp channel_partner).count key : Nat) := by
  rcases strSplit_cases channel_partner with ⟨channel, partner, rest, pieces⟩ | ⟨only, pieces⟩
  · rw [compCall_eq pieces, taken, pieces]
    simp only
    split
    · rename_i both
      have distinct := total_ne_partner channel channel partner
      have present : ((incrCounter s.comp (totalKey channel) (-1)).value
          (partnerKey partner channel)).isSome = true := by
        rw [incrCounter_value _ _ _ _ both.1, Option.isSome_map]
        exact both.2
      rw [incrCounter_value _ _ _ _ present, incrCounter_value _ _ _ _ both.1, Option.map_map]
      refine congrArg (fun f => Option.map f _) (funext fun count => ?_)
      by_cases total : totalKey channel = key
      · subst total
        simp [distinct.symm]
        omega
      · by_cases partners : partnerKey partner channel = key
        · subst partners
          simp [distinct]
          omega
        · simp [total, partners]
    · simp
  · simp [compCall, TtlPy.comp, taken, pieces]

/-- No call creates or removes a counter. -/
theorem taken_compCall (s : Servers) (channel_partner : String) :
    taken (compCall s channel_partner).comp = taken s.comp := by
  funext later
  simp only [taken, compCall_value, Option.isSome_map]

/-- The counters stay above zero throughout a sequence of calls exactly when each
starts with at least the number of calls that take it down. -/
theorem counters_stay_nonNegative_iff (s : Servers) (calls : List String) :
    AllStates (fun s call => some (compCall s call)) NonNegative s calls ↔
      ∀ key count, s.comp.value key = some count →
        ((calls.flatMap (taken s.comp)).count key : Int) ≤ count := by
  induction calls generalizing s with
  | nil => exact Iff.rfl
  | cons call rest ih =>
    have onward : AllStates (fun s call => some (compCall s call)) NonNegative s (call :: rest) ↔
        NonNegative s ∧ AllStates (fun s call => some (compCall s call)) NonNegative
          (compCall s call) rest :=
      and_congr_right fun _ => ⟨fun later => later _ rfl,
        fun later next taken_ => Option.some.inj taken_ ▸ later⟩
    rw [onward, ih]
    simp only [compCall_value, taken_compCall, List.flatMap_cons, List.count_append]
    constructor
    · rintro ⟨_, later⟩ key count stored
      have bound := later key (count - ((taken s.comp call).count key : Nat)) (by rw [stored]; rfl)
      omega
    · intro bounds
      refine ⟨fun key count stored => ?_, fun key left stored => ?_⟩
      · have bound := bounds key count stored
        omega
      · obtain ⟨count, before, rfl⟩ := Option.map_eq_some_iff.mp stored
        have bound := bounds key count before
        omega

/-- Nobody watches `c1` any more, and one session of it expires. -/
def idleServers : Servers :=
  ⟨Store.empty, (Store.empty.write "total|c1" (some 0)).write "partner|p1|c1" (some 1)⟩

theorem zero_counter_goes_negative :
    ¬ ∀ (s : Servers) (calls : List String), NonNegative s →
      AllStates (fun s call => some (compCall s call)) NonNegative s calls := by
  intro stays
  have start : NonNegative idleServers := by
    intro key count stored
    simp only [idleServers, Store.write] at stored
    split at stored
    · cases stored
      decide
    · split at stored
      · cases stored
        decide
      · cases stored
  have after := (stays idleServers ["c1|p1"] start).2 _ rfl
  exact absurd (after "total|c1" (-1) (by decide)) (by decide)

end TtlPyCounters

end GitvTime.Guarantees.Realtime
