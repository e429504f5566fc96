import GitvTime.Guarantees.Realtime.LiveCounters
import GitvTime.Source.Realtime.CountTasks
import Mathlib.Algebra.BigOperators.Finprod

/-!
# Counting in any order

Whatever task a tuple goes to and whenever the tasks tick, a counter and the
deltas cached for it together move by what the tuples book, less what a cached
delta loses when it leaves 32 bits. Once every task has flushed what it took, the
counters hold the numbers of the tuples iff these losses cancel.
-/
namespace GitvTime.Guarantees.Realtime
open GitvTime.Support GitvTime.Source.StringHandle GitvTime.Source.Realtime

/-! ### One step -/

/-- What one action does, with the list surgery carried out. -/
inductive CountChange (s : CountTasks.State) : CountTasks.Action → CountTasks.State → Prop where
  | tuple {task : Nat} {input : CountTuple} {before after : List CountTask} {cacheMap : CacheMap}
      (idle : s.tasks[task]? = some ⟨cacheMap, none⟩)
      (tasks_eq : s.tasks = before ++ ⟨cacheMap, none⟩ :: after) :
      CountChange s (.tuple task input)
        { s with tasks := before ++ ⟨(UserCount.mainTain cacheMap (input.ADD.map Viewer.value)
                   (input.DEC.map Viewer.value)).1, none⟩ :: after }
  | tick {task : Nat} {order : List (String × Int32)} {before after : List CountTask}
      {cacheMap : CacheMap} (tasks_eq : s.tasks = before ++ ⟨cacheMap, none⟩ :: after)
      (perm : order.Perm (UserCount.entrySet cacheMap)) :
      CountChange s (.tick task order)
        { s with tasks := before ++
                   CountTask.settle cacheMap (UserCount.secondsToRedis order) :: after }
  | push {task : Nat} {before after : List CountTask} {cacheMap : CacheMap} {flush : RedisProg Unit}
      (tasks_eq : s.tasks = before ++ ⟨cacheMap, some flush⟩ :: after) :
      CountChange s (.push task)
        { s with servers := (redis.advance s.servers ⟨Conn.fresh, flush⟩).1
                 tasks := before ++ CountTask.settle cacheMap
                   (redis.advance s.servers ⟨Conn.fresh, flush⟩).2.prog :: after }

theorem countTasks_step_cases {s s' : CountTasks.State} {action : CountTasks.Action}
    (taken : s.step action = some s') : CountChange s action s' := by
  cases action with
  | tuple task input =>
    simp only [CountTasks.State.step] at taken
    split at taken
    · rename_i cacheMap task_at
      cases taken
      obtain ⟨before, after, split, _, updated⟩ := split_at_index task_at
      rw [updated]
      exact .tuple task_at split
    · cases taken
  | tick task order =>
    simp only [CountTasks.State.step] at taken
    split at taken
    · rename_i cacheMap task_at
      split at taken
      · rename_i perm
        cases taken
        obtain ⟨before, after, split, _, updated⟩ := split_at_index task_at
        rw [updated]
        exact .tick split perm
      · cases taken
    · cases taken
  | push task =>
    simp only [CountTasks.State.step] at taken
    split at taken
    · rename_i cacheMap flush task_at
      cases taken
      obtain ⟨before, after, split, _, updated⟩ := split_at_index task_at
      rw [updated]
      exact .push split
    · cases taken

/-- A flush in progress consists of INCRBYs. -/
def Flushing (s : CountTasks.State) : Prop :=
  ∀ task ∈ s.tasks, ∀ flush, task.flush = some flush → OnlyIncrements (fun _ => True) flush

theorem flushing_start (servers : Servers) (tasks : Nat) :
    Flushing (CountTasks.State.start servers tasks) := by
  intro task member flush flushing
  cases List.eq_of_mem_replicate member
  cases flushing

theorem Flushing.step {s s' : CountTasks.State} {action : CountTasks.Action} (inv : Flushing s)
    (taken : s.step action = some s') : Flushing s' := by
  cases countTasks_step_cases taken with
  | tuple idle tasks_eq => exact forall_mem_replace tasks_eq inv nofun
  | tick tasks_eq perm =>
    refine forall_mem_replace tasks_eq inv fun flush flushing => ?_
    exact settle_onlyIncrements (secondsToRedis_onlyIncrements _) flushing
  | push tasks_eq =>
    rename_i task before after cacheMap flush
    have increments := inv ⟨cacheMap, some flush⟩ (by simp [tasks_eq]) flush rfl
    obtain ⟨_, increments'⟩ := OnlyIncrements.advance ⟨Conn.fresh, flush⟩ increments s.servers
    exact forall_mem_replace tasks_eq inv fun _ flushing =>
      settle_onlyIncrements increments' flushing

/-! ### The ledger of a key -/

/-- What a tuple books under a key. -/
def inputDelta (key : String) (input : CountTuple) : Int :=
  tupleDelta key (input.ADD.map Viewer.value, input.DEC.map Viewer.value)

/-- What an action books under a key. -/
def booked (key : String) : CountTasks.Action → Int
  | .tuple _ input => inputDelta key input
  | _ => 0

/-- What a cached delta loses when a task takes a tuple. -/
def overflowAt (key : String) (s : CountTasks.State) : CountTasks.Action → Int
  | .tuple task input =>
    match s.tasks[task]? with
    | some ⟨cacheMap, none⟩ => overflow (2 ^ 32) (cachedAt key cacheMap + inputDelta key input)
    | _ => 0
  | _ => 0

/-- The counter and everything that is cached for it. -/
def outstanding (key : String) (s : CountTasks.State) : Int :=
  counter key s.servers + (s.tasks.map (cachedDelta key)).sum

theorem strSplit_value (viewer : Viewer) :
    strSplit viewer.value = [viewer.channel, viewer.partner] :=
  strSplit_pair viewer.channel_free viewer.partner_free

/-- Values with a channel and a partner are booked without an exception. -/
theorem mainTain_viewers (cacheMap : CacheMap) (input : CountTuple) :
    ∃ cacheMap', UserCount.mainTain cacheMap (input.ADD.map Viewer.value)
      (input.DEC.map Viewer.value) = (cacheMap', .ack) := by
  have books : ∀ change (cacheMap : CacheMap) (viewer : Option Viewer),
      ∃ cacheMap', UserCount.book change cacheMap (viewer.map Viewer.value) = (cacheMap', .ack) := by
    rintro change cacheMap (_ | viewer)
    · exact ⟨cacheMap, rfl⟩
    · simp [UserCount.book, strSplit_value]
  obtain ⟨added, add⟩ := books UserCount.cacheInMapAdd cacheMap input.ADD
  obtain ⟨taken, dec⟩ := books UserCount.cacheInMapDec added input.DEC
  exact ⟨taken, by simp only [UserCount.mainTain, add, dec]⟩

theorem outstanding_step (key : String) {s s' : CountTasks.State} {action : CountTasks.Action}
    (inv : Flushing s) (taken : s.step action = some s') :
    outstanding key s' = outstanding key s + booked key action - overflowAt key s action := by
  cases countTasks_step_cases taken with
  | tuple idle tasks_eq =>
    rename_i task input before after cacheMap
    obtain ⟨cacheMap', acked⟩ := mainTain_viewers cacheMap input
    have cached := mainTain_cachedAt key acked
    rw [bmod_eq_sub_overflow] at cached
    have lost : overflowAt key s (.tuple task input) =
        overflow (2 ^ 32) (cachedAt key cacheMap + inputDelta key input) := by
      simp [overflowAt, idle]
    rw [acked, lost]
    simp only [outstanding, booked, inputDelta, tasks_eq, List.map_append, List.sum_append,
      List.map_cons, List.sum_cons, cachedDelta]
    omega
  | tick tasks_eq perm =>
    have flushed := flush_delta key perm
    simp only [outstanding, booked, overflowAt, tasks_eq, List.map_append, List.sum_append,
      List.map_cons, List.sum_cons, cachedDelta_settle]
    simp only [cachedDelta]
    omega
  | push tasks_eq =>
    rename_i task before after cacheMap flush
    have increments := inv ⟨cacheMap, some flush⟩ (by simp [tasks_eq]) flush rfl
    have conserved := increments_conserve key ⟨Conn.fresh, flush⟩ increments s.servers
    have debt : pendingDelta key (⟨Conn.fresh, flush⟩ : RedisClient Unit).prog =
      pendingDelta key flush := rfl
    simp only [outstanding, booked, overflowAt, tasks_eq, List.map_append, List.sum_append,
      List.map_cons, List.sum_cons, cachedDelta_settle]
    simp only [cachedDelta]
    omega

/-! ### Keys that no tuple names -/

/-- The program has an INCRBY of the key ahead. -/
def Pushes {α : Type} (key : String) : RedisProg α → Prop
  | .call (.incrBy other _) next => other = key ∨ Pushes key (next ())
  | _ => False

/-- Nothing is cached for the key, and no flush will touch it. -/
def Unnamed (key : String) (task : CountTask) : Prop :=
  match task.flush with
  | none => task.cacheMap.lookup key = none
  | some flush => ¬ Pushes key flush

/-- A viewer is not counted under the key. -/
def Elsewhere (key : String) (viewer : Viewer) : Prop :=
  totalKey viewer.channel ≠ key ∧ partnerKey viewer.partner viewer.channel ≠ key

theorem unnamed_settle {key : String} (cacheMap : CacheMap) {rest : RedisProg Unit}
    (avoids : ¬ Pushes key rest) : Unnamed key (CountTask.settle cacheMap rest) := by
  cases rest with
  | done _ => rfl
  | call _ _ => exact avoids

theorem secondsToRedis_avoids {key : String} {order : List (String × Int32)}
    (absent : ∀ entry ∈ order, entry.1 ≠ key) : ¬ Pushes key (UserCount.secondsToRedis order) := by
  induction order with
  | nil => exact id
  | cons entry rest ih =>
    rintro (here | later)
    · exact absent entry List.mem_cons_self here
    · exact ih (fun other member => absent other (List.mem_cons_of_mem _ member)) later

theorem entrySet_absent {key : String} {cacheMap : CacheMap} (absent : cacheMap.lookup key = none) :
    ∀ entry ∈ UserCount.entrySet cacheMap, entry.1 ≠ key := by
  rintro entry member rfl
  obtain ⟨item, belongs, rfl⟩ := List.mem_map.mp member
  have present : item.1 ∈ cacheMap := AList.mem_keys.mpr (List.mem_keys_of_mem belongs)
  exact AList.lookup_eq_none.mp absent present

theorem advance_avoids {key : String} {flush : RedisProg Unit} (avoids : ¬ Pushes key flush)
    (increments : OnlyIncrements (fun _ => True) flush) (s : Servers) :
    (redis.advance s ⟨Conn.fresh, flush⟩).1.comp.value key = s.comp.value key ∧
      ¬ Pushes key (redis.advance s ⟨Conn.fresh, flush⟩).2.prog := by
  cases flush with
  | done _ => exact ⟨rfl, avoids⟩
  | call command next =>
    cases command with
    | incrBy other delta =>
      obtain ⟨different, later⟩ := not_or.mp avoids
      exact ⟨Store.write_value_ne _ _ fun same => different same.symm, later⟩
    | _ => exact increments.elim

theorem book_untouched {key : String} {change : CacheMap → String → CacheMap}
    (changes : ∀ cacheMap other, other ≠ key →
      (change cacheMap other).lookup key = cacheMap.lookup key)
    (cacheMap : CacheMap) {viewer : Option Viewer}
    (elsewhere : ∀ v, viewer = some v → Elsewhere key v) :
    (UserCount.book change cacheMap (viewer.map Viewer.value)).1.lookup key =
      cacheMap.lookup key := by
  cases viewer with
  | none => rfl
  | some viewer =>
    obtain ⟨total, partner⟩ := elsewhere viewer rfl
    simp only [UserCount.book, Option.map_some, strSplit_value]
    rw [changes _ _ partner, changes _ _ total]

theorem cacheInMapAdd_untouched {key other : String} (cacheMap : CacheMap) (different : other ≠ key) :
    (UserCount.cacheInMapAdd cacheMap other).lookup key = cacheMap.lookup key := by
  unfold UserCount.cacheInMapAdd
  split <;> rw [AList.lookup_insert_ne fun same => different same.symm]

theorem cacheInMapDec_untouched {key other : String} (cacheMap : CacheMap) (different : other ≠ key) :
    (UserCount.cacheInMapDec cacheMap other).lookup key = cacheMap.lookup key := by
  unfold UserCount.cacheInMapDec
  split <;> rw [AList.lookup_insert_ne fun same => different same.symm]

theorem mainTain_untouched {key : String} (cacheMap : CacheMap) {input : CountTuple}
    (add : ∀ v, input.ADD = some v → Elsewhere key v)
    (dec : ∀ v, input.DEC = some v → Elsewhere key v) :
    (UserCount.mainTain cacheMap (input.ADD.map Viewer.value)
      (input.DEC.map Viewer.value)).1.lookup key = cacheMap.lookup key := by
  have added := book_untouched (fun cacheMap _ => cacheInMapAdd_untouched cacheMap) cacheMap add
  unfold UserCount.mainTain
  split
  · rename_i cacheMap' failed
    rw [failed] at added
    exact added
  · rename_i cacheMap' acked
    rw [acked] at added
    rw [← added]
    exact book_untouched (fun cacheMap _ => cacheInMapDec_untouched cacheMap) _ dec

/-- A viewer of one of the tuples. -/
def Named (inputs : List CountTuple) (viewer : Viewer) : Prop :=
  ∃ input ∈ inputs, input.ADD = some viewer ∨ input.DEC = some viewer

/-- No tuple names the key: the server keeps it as it is. -/
theorem untouched_step {key : String} {s s' : CountTasks.State} {action : CountTasks.Action}
    (inv : Flushing s) (untouched : ∀ task ∈ s.tasks, Unnamed key task)
    (elsewhere : ∀ viewer, Named (CountTasks.tuples [action]) viewer → Elsewhere key viewer)
    (taken : s.step action = some s') :
    s'.servers.comp.value key = s.servers.comp.value key ∧
      ∀ task ∈ s'.tasks, Unnamed key task := by
  cases countTasks_step_cases taken with
  | tuple idle tasks_eq =>
    rename_i task input before after cacheMap
    have absent : cacheMap.lookup key = none := untouched ⟨cacheMap, none⟩ (by simp [tasks_eq])
    refine ⟨rfl, forall_mem_replace tasks_eq untouched ?_⟩
    have kept := mainTain_untouched cacheMap
      (fun v add => elsewhere v ⟨input, List.mem_singleton_self _, .inl add⟩)
      (fun v dec => elsewhere v ⟨input, List.mem_singleton_self _, .inr dec⟩)
    exact kept.trans absent
  | tick tasks_eq perm =>
    rename_i task order before after cacheMap
    have absent : cacheMap.lookup key = none := untouched ⟨cacheMap, none⟩ (by simp [tasks_eq])
    refine ⟨rfl, forall_mem_replace tasks_eq untouched (unnamed_settle _ ?_)⟩
    exact secondsToRedis_avoids fun entry member =>
      entrySet_absent absent entry (perm.mem_iff.mp member)
  | push tasks_eq =>
    rename_i task before after cacheMap flush
    have increments := inv ⟨cacheMap, some flush⟩ (by simp [tasks_eq]) flush rfl
    have avoids : ¬ Pushes key flush := untouched ⟨cacheMap, some flush⟩ (by simp [tasks_eq])
    obtain ⟨same, avoids'⟩ := advance_avoids avoids increments s.servers
    exact ⟨same, forall_mem_replace tasks_eq untouched (unnamed_settle _ avoids')⟩

/-! ### Whole runs -/

theorem tuples_cons (action : CountTasks.Action) (rest : List CountTasks.Action) :
    CountTasks.tuples (action :: rest) = CountTasks.tuples [action] ++ CountTasks.tuples rest := by
  cases action <;> rfl

theorem untouched_run {key : String} (actions : List CountTasks.Action) {s last : CountTasks.State}
    (inv : Flushing s) (untouched : ∀ task ∈ s.tasks, Unnamed key task)
    (elsewhere : ∀ viewer, Named (CountTasks.tuples actions) viewer → Elsewhere key viewer)
    (reached : runSteps CountTasks.State.step s actions = some last) :
    last.servers.comp.value key = s.servers.comp.value key := by
  induction actions generalizing s with
  | nil =>
    cases Option.some.inj reached
    rfl
  | cons action rest ih =>
    obtain ⟨next, taken, reached⟩ := Option.bind_eq_some_iff.mp reached
    have named : ∀ viewer, Named (CountTasks.tuples [action]) viewer ∨
        Named (CountTasks.tuples rest) viewer → Elsewhere key viewer := by
      rintro viewer (⟨input, member, holds⟩ | ⟨input, member, holds⟩)
      · exact elsewhere viewer ⟨input, by rw [tuples_cons]; simp [member], holds⟩
      · exact elsewhere viewer ⟨input, by rw [tuples_cons]; simp [member], holds⟩
    obtain ⟨same, untouched'⟩ := untouched_step inv untouched (fun v h => named v (.inl h)) taken
    exact (ih (inv.step taken) untouched' (fun v h => named v (.inr h)) reached).trans same

theorem within_settle {bound : Nat} {cacheMap : CacheMap} (rest : RedisProg Unit)
    (within : CacheWithin bound cacheMap) :
    CacheWithin bound (CountTask.settle cacheMap rest).cacheMap := by
  cases rest with
  | done _ => exact cacheWithin_empty bound
  | call _ _ => exact within

/-- The caches of all tasks. -/
def Within (bound : Nat) (s : CountTasks.State) : Prop :=
  ∀ task ∈ s.tasks, CacheWithin bound task.cacheMap

theorem within_start (servers : Servers) (tasks : Nat) :
    Within 0 (CountTasks.State.start servers tasks) := by
  intro task member
  rw [List.eq_of_mem_replicate member]
  exact cacheWithin_empty 0

theorem within_step {bound : Nat} {s next : CountTasks.State} {action : CountTasks.Action}
    (within : Within bound s) (few : bound + (CountTasks.tuples [action]).length < 2 ^ 31)
    (taken : s.step action = some next) :
    Within (bound + (CountTasks.tuples [action]).length) next := by
  cases countTasks_step_cases taken with
  | @tuple _ input before after cacheMap idle tasks_eq =>
    have old := within ⟨cacheMap, none⟩ (by simp [tasks_eq])
    have wider : Within (bound + 1) s := fun task member key =>
      Nat.le_succ_of_le (within task member key)
    refine forall_mem_replace tasks_eq wider ?_
    obtain ⟨cacheMap', acked⟩ := mainTain_viewers cacheMap input
    rw [acked]
    exact old.mainTain few acked
  | @tick _ _ before after cacheMap tasks_eq perm =>
    have old := within ⟨cacheMap, none⟩ (by simp [tasks_eq])
    exact forall_mem_replace tasks_eq within (within_settle _ old)
  | @push _ before after cacheMap flush tasks_eq =>
    have old := within ⟨cacheMap, some flush⟩ (by simp [tasks_eq])
    exact forall_mem_replace tasks_eq within (within_settle _ old)

/-- Far enough from the bounds of an `Integer` a tuple loses nothing. -/
theorem overflowAt_of_within {bound : Nat} (key : String) {s : CountTasks.State}
    {action : CountTasks.Action} (within : Within bound s)
    (few : bound + (CountTasks.tuples [action]).length < 2 ^ 31) : overflowAt key s action = 0 := by
  cases action with
  | tuple task input =>
    simp only [overflowAt]
    split
    · rename_i cacheMap idle
      exact (within _ (List.mem_of_getElem? idle)).fits few key _
    · rfl
  | _ => rfl

/-- From empty maps on, a task's deltas grow by one with each tuple at most, so
nothing is lost to fewer than `2 ^ 31` tuples. -/
theorem few_tuples_fit (key : String) (actions : List CountTasks.Action) {bound : Nat}
    {s last : CountTasks.State} (within : Within bound s)
    (few : bound + (CountTasks.tuples actions).length < 2 ^ 31)
    (reached : runSteps CountTasks.State.step s actions = some last) :
    sumAlong CountTasks.State.step (overflowAt key) s actions = 0 := by
  induction actions generalizing s bound with
  | nil => rfl
  | cons action rest ih =>
    obtain ⟨next, taken, reached⟩ := Option.bind_eq_some_iff.mp reached
    rw [tuples_cons, List.length_append, ← Nat.add_assoc] at few
    have here : overflowAt key s action = 0 := overflowAt_of_within key within (by omega)
    have later := ih (within_step within (by omega) taken) few reached
    simp only [sumAlong, taken, Option.map_some, Option.getD_some, here, later]
    rfl

/-- What a run books under a key, tuple by tuple. -/
theorem booked_sum (key : String) (actions : List CountTasks.Action) :
    (actions.map (booked key)).sum = ((CountTasks.tuples actions).map (inputDelta key)).sum := by
  induction actions with
  | nil => rfl
  | cons action rest ih =>
    rw [tuples_cons, List.map_cons, List.sum_cons, List.map_append, List.sum_append, ih]
    cases action <;> simp [CountTasks.tuples, booked]

/-- After every tuple of a task the task gets a tick. -/
def TicksAfterTuples (actions : List CountTasks.Action) : Prop :=
  ∀ front task input back, actions = front ++ .tuple task input :: back →
    ∃ order, CountTasks.Action.tick task order ∈ back

theorem ticksAfterTuples_nil : TicksAfterTuples [] := by
  intro front task input back split
  cases front <;> cases split

theorem ticksAfterTuples_cons {action : CountTasks.Action} {rest : List CountTasks.Action} :
    TicksAfterTuples (action :: rest) ↔
      (∀ task input, action = .tuple task input →
        ∃ order, CountTasks.Action.tick task order ∈ rest) ∧ TicksAfterTuples rest := by
  constructor
  · intro after
    refine ⟨?_, ?_⟩
    · rintro task input rfl
      exact after [] task input rest rfl
    · rintro front task input back rfl
      exact after (action :: front) task input back rfl
  · rintro ⟨here, later⟩ front task input back split
    cases front with
    | nil =>
      obtain ⟨rfl, rfl⟩ := List.cons.inj split
      exact here task input rfl
    | cons first front => exact later front task input back (List.cons.inj split).2

/-- Every task that holds deltas and is not flushing them gets a tick. -/
def DirtyTicks (s : CountTasks.State) (actions : List CountTasks.Action) : Prop :=
  ∀ (index : Nat) (cacheMap : CacheMap), s.tasks[index]? = some ⟨cacheMap, none⟩ → cacheMap ≠ ∅ →
    ∃ order, CountTasks.Action.tick index order ∈ actions

theorem settle_clean (cacheMap : CacheMap) (rest : RedisProg Unit)
    (idle : (CountTask.settle cacheMap rest).flush = none) :
    (CountTask.settle cacheMap rest).cacheMap = ∅ := by
  cases rest with
  | done _ => rfl
  | call _ _ => cases idle

theorem dirtyTicks_set {s : CountTasks.State} {index : Nat} {task : CountTask} {servers : Servers}
    {rest : List CountTasks.Action}
    (others : ∀ (other : Nat) (cacheMap : CacheMap), other ≠ index →
      s.tasks[other]? = some ⟨cacheMap, none⟩ → cacheMap ≠ ∅ →
        ∃ order, CountTasks.Action.tick other order ∈ rest)
    (own : task.flush = none → task.cacheMap ≠ ∅ → ∃ order, CountTasks.Action.tick index order ∈ rest) :
    DirtyTicks ⟨servers, s.tasks.set index task⟩ rest := by
  intro other cacheMap found dirty
  by_cases same : other = index
  · subst same
    have held : task = ⟨cacheMap, none⟩ := by
      rw [List.getElem?_set] at found
      split at found
      · split at found
        · exact Option.some.inj found
        · cases found
      · exact absurd rfl ‹_›
    subst held
    exact own rfl dirty
  · rw [List.getElem?_set_ne fun h => same h.symm] at found
    exact others other cacheMap same found dirty

theorem DirtyTicks.step {s s' : CountTasks.State} {action : CountTasks.Action}
    {rest : List CountTasks.Action} (ticks : DirtyTicks s (action :: rest))
    (after : TicksAfterTuples (action :: rest)) (taken : s.step action = some s') :
    DirtyTicks s' rest := by
  have others : ∀ (index other : Nat) (cacheMap : CacheMap), other ≠ index →
      (∀ order, action ≠ .tick other order) → s.tasks[other]? = some ⟨cacheMap, none⟩ →
        cacheMap ≠ ∅ → ∃ order, CountTasks.Action.tick other order ∈ rest := by
    intro index other cacheMap _ unticked found dirty
    obtain ⟨order, member⟩ := ticks other cacheMap found dirty
    rcases List.mem_cons.mp member with here | later
    · exact absurd here.symm (unticked order)
    · exact ⟨order, later⟩
  cases action with
  | tuple task input =>
    simp only [CountTasks.State.step] at taken
    split at taken
    · cases taken
      refine dirtyTicks_set (fun other cacheMap different =>
        others task other cacheMap different nofun) fun _ _ => ?_
      exact (ticksAfterTuples_cons.mp after).1 task input rfl
    · cases taken
  | tick task order =>
    simp only [CountTasks.State.step] at taken
    split at taken
    · split at taken
      · cases taken
        refine dirtyTicks_set (fun other cacheMap different =>
          others task other cacheMap different fun _ same => ?_) fun idle dirty => ?_
        · cases same
          exact different rfl
        · exact absurd (settle_clean _ _ idle) dirty
      · cases taken
    · cases taken
  | push task =>
    simp only [CountTasks.State.step] at taken
    split at taken
    · cases taken
      refine dirtyTicks_set (fun other cacheMap different =>
        others task other cacheMap different nofun) fun idle dirty => ?_
      exact absurd (settle_clean _ _ idle) dirty
    · cases taken

/-- When every task has ticked after its last tuple, nothing is left in the caches. -/
theorem clean_at_end (actions : List CountTasks.Action) {s last : CountTasks.State}
    (ticks : DirtyTicks s actions) (after : TicksAfterTuples actions)
    (reached : runSteps CountTasks.State.step s actions = some last)
    (idle : ∀ task ∈ last.tasks, task.flush = none) :
    ∀ task ∈ last.tasks, task.cacheMap = ∅ := by
  induction actions generalizing s with
  | nil =>
    cases Option.some.inj reached
    intro task member
    obtain ⟨index, found⟩ := List.mem_iff_getElem?.mp member
    obtain ⟨cacheMap, flush⟩ := task
    have ended : flush = none := idle _ member
    subst ended
    by_contra dirty
    obtain ⟨order, impossible⟩ := ticks index cacheMap found dirty
    cases impossible
  | cons action rest ih =>
    obtain ⟨next, taken, reached⟩ := Option.bind_eq_some_iff.mp reached
    exact ih (ticks.step after taken) (ticksAfterTuples_cons.mp after).2 reached

theorem outstanding_of_clean (key : String) {s : CountTasks.State}
    (idle : ∀ task ∈ s.tasks, task.flush = none) (clean : ∀ task ∈ s.tasks, task.cacheMap = ∅) :
    outstanding key s = counter key s.servers := by
  have silent : s.tasks.map (cachedDelta key) = s.tasks.map fun _ => 0 := by
    refine List.map_congr_left fun task member => ?_
    obtain ⟨cacheMap, flush⟩ := task
    have ended : flush = none := idle _ member
    have empty : cacheMap = ∅ := clean _ member
    subst ended empty
    simp [cachedDelta]
  simp [outstanding, silent]

/-- The counters of a finished run: each moved by what the tuples book under it,
less what is lost. -/
theorem counters_of_run (servers : Servers) (tasks : Nat) {actions : List CountTasks.Action}
    {last : CountTasks.State} (after : TicksAfterTuples actions)
    (reached : runSteps CountTasks.State.step (.start servers tasks) actions = some last)
    (idle : ∀ task ∈ last.tasks, task.flush = none) (key : String) :
    counter key last.servers =
      counter key servers + ((CountTasks.tuples actions).map (inputDelta key)).sum -
        sumAlong CountTasks.State.step (overflowAt key) (.start servers tasks) actions := by
  have start_idle : ∀ task ∈ (CountTasks.State.start servers tasks).tasks, task = ⟨∅, none⟩ :=
    fun task member => List.eq_of_mem_replicate member
  have ticks : DirtyTicks (.start servers tasks) actions := by
    intro index cacheMap found dirty
    cases start_idle _ (List.mem_of_getElem? found)
    exact absurd rfl dirty
  have clean := clean_at_end actions ticks after reached idle
  have moved := moved_along Flushing (outstanding key) (booked key) (overflowAt key)
    (fun _ _ _ inv taken => inv.step taken) (fun _ _ _ inv taken => outstanding_step key inv taken)
    actions (flushing_start servers tasks) reached
  rw [outstanding_of_clean key idle clean, booked_sum, outstanding_of_clean key
    (fun task member => by rw [start_idle task member])
    (fun task member => by rw [start_idle task member])] at moved
  exact moved

/-! ### Numbers of tuples -/

/-- `#ADD - #DEC` over the tuples whose viewer counts. -/
def net (counts : Viewer → Bool) (inputs : List CountTuple) : Int :=
  inputs.countP (fun input => input.ADD.any counts) -
    inputs.countP (fun input => input.DEC.any counts)

def ofChannel (channel : String) (viewer : Viewer) : Bool := viewer.channel == channel

def ofPartner (channel partner : String) (viewer : Viewer) : Bool :=
  viewer.channel == channel && viewer.partner == partner

theorem inputDelta_sum {key : String} {counts : Viewer → Bool}
    (unit : ∀ viewer, bookDelta key (some viewer.value) = if counts viewer = true then 1 else 0)
    (inputs : List CountTuple) : (inputs.map (inputDelta key)).sum = net counts inputs := by
  have single : ∀ viewer : Option Viewer, bookDelta key (viewer.map Viewer.value) =
      if viewer.any counts = true then 1 else 0 := by
    rintro (_ | viewer)
    · rfl
    · exact unit viewer
  induction inputs with
  | nil => rfl
  | cons input rest ih =>
    rw [List.map_cons, List.sum_cons, ih]
    simp only [net, inputDelta, tupleDelta, single, List.countP_cons]
    split <;> split <;> push_cast <;> omega

theorem bookDelta_channel (channel : String) (viewer : Viewer) :
    bookDelta (totalKey channel) (some viewer.value) =
      if ofChannel channel viewer = true then 1 else 0 := by
  rw [Viewer.value, bookDelta_total channel viewer.channel_free viewer.partner_free]
  simp [ofChannel]

theorem bookDelta_channel_partner (channel partner : String) (viewer : Viewer) :
    bookDelta (partnerKey partner channel) (some viewer.value) =
      if ofPartner channel partner viewer = true then 1 else 0 := by
  rw [Viewer.value, bookDelta_partner partner channel viewer.channel_free viewer.partner_free]
  simp [ofPartner]

/-! ### A total is the sum over the partners -/

theorem bookDelta_partners {partners : Finset String} (channel : String) {viewer : Viewer}
    (member : viewer.partner ∈ partners) :
    ∑ partner ∈ partners, bookDelta (partnerKey partner channel) (some viewer.value) =
      bookDelta (totalKey channel) (some viewer.value) := by
  simp only [bookDelta_channel_partner, bookDelta_channel, ofPartner, ofChannel, Bool.and_eq_true,
    beq_iff_eq]
  by_cases same : viewer.channel = channel
  · simp [same, member]
  · simp [same]

theorem inputDelta_partners {partners : Finset String} (channel : String) {inputs : List CountTuple}
    (all : ∀ viewer, Named inputs viewer → viewer.partner ∈ partners) :
    ∑ partner ∈ partners, (inputs.map (inputDelta (partnerKey partner channel))).sum =
      (inputs.map (inputDelta (totalKey channel))).sum := by
  induction inputs with
  | nil => simp
  | cons input rest ih =>
    have later := ih fun viewer ⟨other, member, holds⟩ =>
      all viewer ⟨other, List.mem_cons_of_mem _ member, holds⟩
    have single : ∀ viewer : Option Viewer, (∀ v, viewer = some v → v.partner ∈ partners) →
        ∑ partner ∈ partners, bookDelta (partnerKey partner channel) (viewer.map Viewer.value) =
          bookDelta (totalKey channel) (viewer.map Viewer.value) := by
      rintro (_ | viewer) member
      · simp
      · exact bookDelta_partners channel (member viewer rfl)
    have add := single input.ADD fun v holds => all v ⟨input, List.mem_cons_self, .inl holds⟩
    have dec := single input.DEC fun v holds => all v ⟨input, List.mem_cons_self, .inr holds⟩
    simp only [List.map_cons, List.sum_cons, Finset.sum_add_distrib, later]
    simp only [inputDelta, tupleDelta, Finset.sum_sub_distrib, add, dec]

/-- The partners of the tuples. -/
def partners (inputs : List CountTuple) : Finset String :=
  (inputs.flatMap fun input => (input.ADD.toList ++ input.DEC.toList).map Viewer.partner).toFinset

theorem mem_partners {inputs : List CountTuple} {viewer : Viewer} (named : Named inputs viewer) :
    viewer.partner ∈ partners inputs := by
  obtain ⟨input, member, holds⟩ := named
  simp only [partners, List.mem_toFinset, List.mem_flatMap, List.mem_map, List.mem_append,
    Option.mem_toList]
  exact ⟨input, member, viewer, holds, rfl⟩

/-- The change of a counter between two states. -/
def change (key : String) (before after : Servers) : Int := counter key after - counter key before

/-- Every counter has moved by the numbers of its tuples, no other key has changed,
and a total has moved by the sum over the partners. -/
structure CountedRight (before after : Servers) (inputs : List CountTuple) : Prop where
  totals : ∀ channel, change (totalKey channel) before after = net (ofChannel channel) inputs
  partners : ∀ channel partner,
    change (partnerKey partner channel) before after = net (ofPartner channel partner) inputs
  others : ∀ key, (∀ viewer, Named inputs viewer → Elsewhere key viewer) →
    after.comp.value key = before.comp.value key
  finite : ∀ channel,
    (Function.support fun partner => change (partnerKey partner channel) before after).Finite
  sums : ∀ channel, change (totalKey channel) before after =
    ∑ᶠ partner, change (partnerKey partner channel) before after

/-- A key that no tuple names books nothing. -/
theorem inputDelta_elsewhere {key : String} {inputs : List CountTuple}
    (elsewhere : ∀ viewer, Named inputs viewer → Elsewhere key viewer) :
    (inputs.map (inputDelta key)).sum = 0 := by
  have single : ∀ viewer : Option Viewer, (∀ v, viewer = some v → Elsewhere key v) →
      bookDelta key (viewer.map Viewer.value) = 0 := by
    rintro (_ | viewer) avoids
    · rfl
    · obtain ⟨total, partner⟩ := avoids viewer rfl
      rw [Option.map_some, bookDelta_of_split key (strSplit_value viewer), if_neg total,
        if_neg partner]
      rfl
  refine List.sum_eq_zero fun delta member => ?_
  obtain ⟨input, belongs, rfl⟩ := List.mem_map.mp member
  simp only [inputDelta, tupleDelta, single input.ADD fun v h => elsewhere v ⟨input, belongs, .inl h⟩,
    single input.DEC fun v h => elsewhere v ⟨input, belongs, .inr h⟩]
  rfl

/-- Under a partner that no tuple names nothing is booked. -/
theorem elsewhere_of_other {partner : String} (channel : String) {inputs : List CountTuple}
    (other : partner ∉ partners inputs) :
    ∀ viewer, Named inputs viewer → Elsewhere (partnerKey partner channel) viewer := by
  intro viewer named
  refine ⟨total_ne_partner _ _ _, fun same => other ?_⟩
  rw [← ((partnerKey_eq_iff viewer.channel_free viewer.partner_free _ _).mp same).2]
  exact mem_partners named

/-- Counting does not depend on the assignment of the tuples, nor on the order of
tuples, ticks and INCRBYs, exactly when under every key the deltas that leave 32
bits cancel. -/
theorem counting_order_free_iff (servers : Servers) (tasks : Nat) (actions : List CountTasks.Action)
    (last : CountTasks.State) (after : TicksAfterTuples actions)
    (reached : runSteps CountTasks.State.step (.start servers tasks) actions = some last)
    (idle : ∀ task ∈ last.tasks, task.flush = none) :
    CountedRight servers last.servers (CountTasks.tuples actions) ↔
      ∀ key, sumAlong CountTasks.State.step (overflowAt key) (.start servers tasks) actions = 0 := by
  have moved : ∀ key, change key servers last.servers =
      ((CountTasks.tuples actions).map (inputDelta key)).sum -
        sumAlong CountTasks.State.step (overflowAt key) (.start servers tasks) actions := by
    intro key
    have finished := counters_of_run servers tasks after reached idle key
    unfold change
    omega
  have untouched : ∀ key, (∀ viewer, Named (CountTasks.tuples actions) viewer → Elsewhere key viewer) →
      last.servers.comp.value key = servers.comp.value key := fun key elsewhere => by
    refine untouched_run actions (flushing_start servers tasks) (fun task member => ?_) elsewhere
      reached
    cases List.eq_of_mem_replicate member
    rfl
  constructor
  · intro right key
    by_cases elsewhere : ∀ viewer, Named (CountTasks.tuples actions) viewer → Elsewhere key viewer
    · have same := moved key
      rw [inputDelta_elsewhere elsewhere, change, counter, counter, untouched key elsewhere] at same
      omega
    · obtain ⟨viewer, named⟩ := Classical.not_forall.mp elsewhere
      obtain ⟨_, here⟩ := Classical.not_imp.mp named
      have expected := moved key
      rcases Classical.not_and_iff_not_or_not.mp here with total | partner
      · obtain rfl := Classical.not_not.mp total
        rw [right.totals, inputDelta_sum (bookDelta_channel viewer.channel)] at expected
        omega
      · obtain rfl := Classical.not_not.mp partner
        rw [right.partners,
          inputDelta_sum (bookDelta_channel_partner viewer.channel viewer.partner)] at expected
        omega
  · intro kept
    simp only [kept, Int.sub_zero] at moved
    have supported : ∀ channel, (Function.support fun partner =>
        change (partnerKey partner channel) servers last.servers) ⊆
          partners (CountTasks.tuples actions) := by
      intro channel partner nonzero
      by_contra other
      exact nonzero ((moved _).trans (inputDelta_elsewhere (elsewhere_of_other channel other)))
    refine ⟨fun channel => ?_, fun channel partner => ?_, untouched,
      fun channel => (Finset.finite_toSet _).subset (supported channel), fun channel => ?_⟩
    · rw [moved, inputDelta_sum (bookDelta_channel channel)]
    · rw [moved, inputDelta_sum (bookDelta_channel_partner channel partner)]
    · rw [finsum_eq_sum_of_support_subset _ (supported channel), moved,
        ← inputDelta_partners channel fun _ named => mem_partners named]
      exact Finset.sum_congr rfl fun partner _ => (moved _).symm

/-- Two viewers of `c1`, of different partners. -/
def viewerOne : Viewer := ⟨"c1", "p1", by decide, by decide⟩
def viewerTwo : Viewer := ⟨"c1", "p2", by decide, by decide⟩

/-- Two tasks; the second flushes while the first still takes tuples. -/
def twoTaskRun : List CountTasks.Action :=
  [.tuple 0 ⟨some viewerOne, none⟩, .tuple 1 ⟨some viewerTwo, none⟩,
    .tick 1 [(partnerKey "p2" "c1", 1), (totalKey "c1", 1)], .push 1,
    .tuple 0 ⟨none, some viewerTwo⟩, .push 1,
    .tick 0 [(totalKey "c1", 0), (partnerKey "p2" "c1", -1), (partnerKey "p1" "c1", 1)],
    .push 0, .push 0, .push 0]

theorem twoTaskRun_ticks : TicksAfterTuples twoTaskRun := by
  simp [twoTaskRun, ticksAfterTuples_cons, ticksAfterTuples_nil]

theorem two_tasks_count : ∃ last,
    runSteps CountTasks.State.step (.start ⟨Store.empty, Store.empty⟩ 2) twoTaskRun = some last ∧
      change (totalKey "c1") ⟨Store.empty, Store.empty⟩ last.servers = 1 := by
  refine ⟨_, rfl, ?_⟩
  have fits : ∀ key, sumAlong CountTasks.State.step (overflowAt key)
      (.start ⟨Store.empty, Store.empty⟩ 2) twoTaskRun = 0 := fun key =>
    few_tuples_fit key twoTaskRun (within_start _ 2) (by decide) rfl
  rw [((counting_order_free_iff ⟨Store.empty, Store.empty⟩ 2 twoTaskRun _ twoTaskRun_ticks rfl
    (by decide)).mpr fits).totals "c1"]
  decide

/-! ### More tuples than an `Integer` counts -/

/-- A viewer of `c1` comes. -/
def comes : CountTuple := ⟨some viewerOne, none⟩

/-- One task takes the same ADD again and again. -/
theorem comes_cached (servers : Servers) (viewers : Nat) : ∃ cacheMap,
    runSteps CountTasks.State.step (.start servers 1) (List.replicate viewers (.tuple 0 comes)) =
        some ⟨servers, [⟨cacheMap, none⟩]⟩ ∧
      cachedAt (totalKey "c1") cacheMap = (viewers : Int).bmod (2 ^ 32) := by
  induction viewers with
  | zero => exact ⟨∅, rfl, rfl⟩
  | succ viewers ih =>
    obtain ⟨cacheMap, reached, cached⟩ := ih
    obtain ⟨cacheMap', acked⟩ := mainTain_viewers cacheMap comes
    have booked := mainTain_cachedAt (totalKey "c1") acked
    have one : tupleDelta (totalKey "c1")
      (comes.ADD.map Viewer.value, comes.DEC.map Viewer.value) = 1 := by decide
    rw [cached, one, Int.bmod_add_bmod] at booked
    refine ⟨cacheMap', ?_, by rw [booked, Nat.cast_succ]⟩
    rw [List.replicate_succ']
    refine runSteps_snoc reached ?_
    simp [CountTasks.State.step, acked]

/-- A task that flushes gets to the end of the loop by its INCRBYs. -/
theorem flush_to_end (flush : RedisProg Unit) (increments : OnlyIncrements (fun _ => True) flush)
    (servers : Servers) (cacheMap : CacheMap) :
    ∃ (pushes : Nat) (last : Servers),
      runSteps CountTasks.State.step ⟨servers, [CountTask.settle cacheMap flush]⟩
          (List.replicate pushes (.push 0)) = some ⟨last, [⟨∅, none⟩]⟩ ∧
        ∀ key, counter key last = counter key servers + pendingDelta key flush := by
  induction flush generalizing servers with
  | done _ => exact ⟨0, servers, rfl, fun key => by simp [pendingDelta]⟩
  | call command next ih =>
    have conserved := fun key =>
      increments_conserve key ⟨Conn.fresh, .call command next⟩ increments servers
    obtain ⟨_, later⟩ :=
      OnlyIncrements.advance ⟨Conn.fresh, .call command next⟩ increments servers
    obtain ⟨pushes, last, reached, counted⟩ := ih _ later (redis.perform command servers Conn.fresh).1
    refine ⟨pushes + 1, last, ?_, fun key => ?_⟩
    · rw [List.replicate_succ]
      exact Option.bind_eq_some_iff.mpr ⟨_, rfl, reached⟩
    · have here := conserved key
      simp only [Server.advance_call] at here
      rw [counted key, here]

/-- All tuples, then a tick with its INCRBYs. -/
def oneTaskRun (viewers : Nat) (order : List (String × Int32)) (pushes : Nat) :
    List CountTasks.Action :=
  List.replicate viewers (.tuple 0 comes) ++ .tick 0 order :: List.replicate pushes (.push 0)

theorem oneTaskRun_ticks (viewers : Nat) (order : List (String × Int32)) (pushes : Nat) :
    TicksAfterTuples (oneTaskRun viewers order pushes) := by
  induction viewers with
  | zero =>
    intro front task input back split
    have member : CountTasks.Action.tuple task input ∈ oneTaskRun 0 order pushes := by simp [split]
    simp [oneTaskRun, List.mem_replicate] at member
  | succ viewers ih =>
    refine ticksAfterTuples_cons.mpr ⟨?_, ih⟩
    rintro task input ⟨⟩
    exact ⟨order, by simp⟩

theorem oneTaskRun_tuples (viewers : Nat) (order : List (String × Int32)) (pushes : Nat) :
    CountTasks.tuples (oneTaskRun viewers order pushes) = List.replicate viewers comes := by
  simp [CountTasks.tuples, oneTaskRun]

/-- The total of `viewers` ADDs is counted modulo `2 ^ 32`. -/
theorem oneTaskRun_counts (servers : Servers) (viewers : Nat) :
    ∃ order pushes last, runSteps CountTasks.State.step (.start servers 1)
        (oneTaskRun viewers order pushes) = some ⟨last, [⟨∅, none⟩]⟩ ∧
      change (totalKey "c1") servers last = (viewers : Int).bmod (2 ^ 32) := by
  obtain ⟨cacheMap, reached, cached⟩ := comes_cached servers viewers
  obtain ⟨pushes, last, ended, counted⟩ :=
    flush_to_end (UserCount.secondsToRedis (UserCount.entrySet cacheMap))
      (secondsToRedis_onlyIncrements _) servers cacheMap
  refine ⟨UserCount.entrySet cacheMap, pushes, last, runSteps_append reached ?_, ?_⟩
  · refine Option.bind_eq_some_iff.mpr ⟨_, ?_, ended⟩
    simp [CountTasks.State.step]
  · rw [change, counted, flush_delta _ (List.Perm.refl _), cached]
    omega

/-- After `2 ^ 31` ADDs of one channel to one task, `total|c1` has gone down. -/
theorem counting_not_order_free :
    ¬ ∀ (servers : Servers) (tasks : Nat) (actions : List CountTasks.Action)
      (last : CountTasks.State), TicksAfterTuples actions →
      runSteps CountTasks.State.step (.start servers tasks) actions = some last →
      (∀ task ∈ last.tasks, task.flush = none) →
        CountedRight servers last.servers (CountTasks.tuples actions) := by
  intro right
  obtain ⟨order, pushes, last, reached, wrapped⟩ :=
    oneTaskRun_counts ⟨Store.empty, Store.empty⟩ (2 ^ 31)
  have counted := (right _ 1 _ _ (oneTaskRun_ticks (2 ^ 31) order pushes) reached
    (by simp)).totals "c1"
  have wanted : net (ofChannel "c1") (List.replicate (2 ^ 31) comes) = (2 ^ 31 : Nat) := by
    have watches : comes.ADD.any (ofChannel "c1") = true := by decide
    have stays : comes.DEC.any (ofChannel "c1") = false := rfl
    simp only [net, List.countP_replicate, watches, stays, if_true, Bool.false_eq_true, if_false]
    omega
  rw [oneTaskRun_tuples, wanted, wrapped] at counted
  exact absurd counted (by decide)

end GitvTime.Guarantees.Realtime
