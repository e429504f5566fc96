import GitvTime.Guarantees.Realtime.CounterLedger
import GitvTime.Source.Realtime.CountTasks

/-!
# A flush that fails and is repeated

When `incrBy` throws, `execute` fails the tick and keeps the whole cache, the
entries included that have been sent. The next tick sends these again, so every
entry is sent once exactly when each failing tick fails at its first call.
-/
namespace GitvTime.Guarantees.Realtime.FlushRetry
open GitvTime.Support GitvTime.Source.Realtime
open GitvTime.Source.Realtime.UserCount (TaskState Input)

/-! ### The loop of `SecondsToRedis` -/

theorem pushEntries_none (call : Nat) (order : List (String × Int32)) :
    UserCount.pushEntries none call order = (order, .ack) := by
  induction order generalizing call with
  | nil => rfl
  | cons entry rest ih => simp [UserCount.pushEntries, ih]

/-- The loop sends what comes before the throwing call. -/
theorem pushEntries_some {throwsAt call : Nat} (ahead : call ≤ throwsAt)
    (order : List (String × Int32)) :
    UserCount.pushEntries (some throwsAt) call order =
      (order.take (throwsAt - call),
        if throwsAt - call < order.length then .fail else .ack) := by
  induction order generalizing call with
  | nil => simp [UserCount.pushEntries]
  | cons entry rest ih =>
    by_cases here : throwsAt = call
    · subst here
      simp [UserCount.pushEntries]
    · have later : throwsAt - call = throwsAt - (call + 1) + 1 := by omega
      have different : ¬ some throwsAt = some call := fun same => here (Option.some.inj same)
      simp only [UserCount.pushEntries, if_neg different, @ih (call + 1) (by omega)]
      rw [later, List.take_succ_cons, List.length_cons]
      simp only [Nat.add_lt_add_iff_right]

/-- The tick fails: the call with this number throws. -/
def Throws (order : List (String × Int32)) (throwsAt : Option Nat) (call : Nat) : Prop :=
  throwsAt = some call ∧ call < order.length

theorem pushEntries_throws {order : List (String × Int32)} {throwsAt : Option Nat} {call : Nat}
    (throws : Throws order throwsAt call) :
    UserCount.pushEntries throwsAt 0 order = (order.take call, .fail) := by
  obtain ⟨rfl, within⟩ := throws
  rw [pushEntries_some (Nat.zero_le _), if_pos (by simpa using within)]
  simp

/-- A loop that ends has sent every entry. -/
theorem pushEntries_ack {order pushed : List (String × Int32)} {throwsAt : Option Nat}
    (acked : UserCount.pushEntries throwsAt 0 order = (pushed, .ack)) : pushed = order := by
  cases throwsAt with
  | none =>
    rw [pushEntries_none] at acked
    exact (congrArg Prod.fst acked).symm
  | some call =>
    rw [pushEntries_some (Nat.zero_le _)] at acked
    obtain ⟨sent, answer⟩ := Prod.mk.inj acked
    split at answer
    · cases answer
    · rename_i beyond
      rw [← sent]
      exact List.take_of_length_le (by omega)

/-! ### Runs of failing ticks and tuples -/

def step (s : TaskState) (input : Input) : Option TaskState := (s.execute input).map Prod.fst

/-- The counter of a key. -/
def held (key : String) (s : TaskState) : Int := (s.comp.value key).getD 0

/-- The delta that is cached for a key. -/
def cached (key : String) (s : TaskState) : Int := cachedAt key s.cacheMap

/-- What a tuple books under a key; when `mainTain` throws, at most the ADD. -/
def tupleBooks (key : String) (ADD DEC : Option String) : Int :=
  if (UserCount.mainTain ∅ ADD DEC).2 = .ack then tupleDelta key (ADD, DEC)
  else bookDelta key ADD

/-- What an input books under a key. -/
def books (key : String) : Input → Int
  | .tuple ADD DEC => tupleBooks key ADD DEC
  | .tick _ _ => 0

/-- Every tick among the inputs fails. -/
def TicksFail (inputs : List Input) : Prop :=
  ∀ order throwsAt, .tick order throwsAt ∈ inputs → ∃ call, Throws order throwsAt call

/-- The entries that the failing ticks sent before they failed. -/
def sentInVain : List Input → List (String × Int32)
  | [] => []
  | .tuple _ _ :: rest => sentInVain rest
  | .tick order throwsAt :: rest =>
    (UserCount.pushEntries throwsAt 0 order).1 ++ sentInVain rest

theorem book_answer (change : CacheMap → String → CacheMap) (cacheMap cacheMap' : CacheMap)
    (value : Option String) :
    (UserCount.book change cacheMap value).2 = (UserCount.book change cacheMap' value).2 := by
  cases value with
  | none => rfl
  | some value =>
    simp only [UserCount.book]
    split <;> rfl

/-- A value that cannot be split books nothing. -/
theorem book_fail {change : CacheMap → String → CacheMap} {cacheMap cacheMap' : CacheMap}
    {value : Option String} (failed : UserCount.book change cacheMap value = (cacheMap', .fail)) :
    cacheMap' = cacheMap ∧ ∀ key, bookDelta key value = 0 := by
  cases value with
  | none => cases failed
  | some value =>
    rcases GitvTime.Source.StringHandle.strSplit_cases value with
      ⟨channel, partner, rest, pieces⟩ | ⟨only, pieces⟩
    · simp [UserCount.book, pieces] at failed
    · simp only [UserCount.book, pieces] at failed
      exact ⟨(congrArg Prod.fst failed).symm, fun key => bookDelta_of_single key pieces⟩

theorem mainTain_answer (cacheMap cacheMap' : CacheMap) (ADD DEC : Option String) :
    (UserCount.mainTain cacheMap ADD DEC).2 = (UserCount.mainTain cacheMap' ADD DEC).2 := by
  have add := book_answer UserCount.cacheInMapAdd cacheMap cacheMap' ADD
  unfold UserCount.mainTain
  split <;> rename_i first <;> split <;> rename_i second <;> rw [first, second] at add
  · cases add
  · cases add
  · exact book_answer _ _ _ _

theorem mainTain_books (key : String) (cacheMap : CacheMap) (ADD DEC : Option String) :
    cachedAt key (UserCount.mainTain cacheMap ADD DEC).1 =
      (cachedAt key cacheMap + tupleBooks key ADD DEC).bmod (2 ^ 32) := by
  unfold tupleBooks
  rw [mainTain_answer ∅ cacheMap]
  rcases booked : UserCount.mainTain cacheMap ADD DEC with ⟨cacheMap', answer⟩
  cases answer with
  | ack =>
    rw [if_pos rfl]
    exact mainTain_cachedAt key booked
  | fail =>
    rw [if_neg nofun]
    unfold UserCount.mainTain at booked
    split at booked
    · rename_i added failed
      obtain ⟨same, none_booked⟩ := book_fail failed
      cases booked
      rw [same, none_booked key, Int.add_zero, cachedAt_kept]
    · rename_i added acked
      obtain ⟨same, _⟩ := book_fail booked
      have add := book_cachedAt (cachedAt_cacheInMapAdd key) acked
      rw [same, add, Int.one_mul]

/-- What a failing tick and a tuple do. -/
theorem step_waiting {s s' : TaskState} {input : Input} (fails : TicksFail [input])
    (taken : step s input = some s') :
    s'.pushed = s.pushed ++ sentInVain [input] ∧
      (∀ key, cached key s' = (cached key s + books key input).bmod (2 ^ 32)) ∧
      (sentInVain [input] = [] → s'.comp = s.comp) := by
  cases input with
  | tuple ADD DEC =>
    cases taken
    exact ⟨by simp [sentInVain], fun key => mainTain_books key s.cacheMap ADD DEC, fun _ => rfl⟩
  | tick order throwsAt =>
    obtain ⟨call, throws⟩ := fails order throwsAt (List.mem_singleton_self _)
    simp only [step, TaskState.execute, pushEntries_throws throws] at taken
    split at taken
    · cases taken
      refine ⟨?_, fun key => ?_, fun none_sent => ?_⟩
      · simp [sentInVain, pushEntries_throws throws]
      · rw [books, Int.add_zero, cached, cached, cachedAt_kept]
        simp
      · simp only [sentInVain, pushEntries_throws throws, List.append_nil] at none_sent
        simp [none_sent]
    · cases taken

theorem sentInVain_cons (input : Input) (rest : List Input) :
    sentInVain (input :: rest) = sentInVain [input] ++ sentInVain rest := by
  cases input <;> simp [sentInVain]

theorem TicksFail.split {input : Input} {rest : List Input} (fails : TicksFail (input :: rest)) :
    TicksFail [input] ∧ TicksFail rest := by
  constructor
  · intro order throwsAt member
    exact fails order throwsAt (List.mem_singleton.mp member ▸ List.mem_cons_self)
  · intro order throwsAt member
    exact fails order throwsAt (List.mem_cons_of_mem _ member)

/-- Until a tick succeeds the cache only grows by what is booked, and the server
has what the failing ticks sent. -/
theorem run_waiting (inputs : List Input) {s waiting : TaskState} (fails : TicksFail inputs)
    (reached : runSteps step s inputs = some waiting) :
    waiting.pushed = s.pushed ++ sentInVain inputs ∧
      (∀ key, cached key waiting =
        (cached key s + (inputs.map (books key)).sum).bmod (2 ^ 32)) ∧
      (sentInVain inputs = [] → waiting.comp = s.comp) := by
  induction inputs generalizing s with
  | nil =>
    cases Option.some.inj reached
    refine ⟨by simp [sentInVain], fun key => ?_, fun _ => rfl⟩
    rw [List.map_nil, List.sum_nil, Int.add_zero, cached, cachedAt_kept]
  | cons input rest ih =>
    obtain ⟨next, taken, reached⟩ := Option.bind_eq_some_iff.mp reached
    obtain ⟨here, later⟩ := fails.split
    obtain ⟨sent, cached_next, comp_next⟩ := step_waiting here taken
    obtain ⟨sent', cached_last, comp_last⟩ := ih later reached
    rw [sentInVain_cons]
    refine ⟨?_, fun key => ?_, fun none_sent => ?_⟩
    · rw [sent', sent, List.append_assoc]
    · rw [cached_last, cached_next, List.map_cons, List.sum_cons, Int.bmod_add_bmod, add_assoc]
    · obtain ⟨first, others⟩ := List.append_eq_nil_iff.mp none_sent
      rw [comp_last others, comp_next first]

theorem sentInVain_eq_nil {inputs : List Input} (fails : TicksFail inputs) :
    sentInVain inputs = [] ↔
      ∀ order throwsAt call, .tick order throwsAt ∈ inputs → Throws order throwsAt call →
        call = 0 := by
  induction inputs with
  | nil => simp [sentInVain]
  | cons input rest ih =>
    obtain ⟨here, later⟩ := fails.split
    rw [sentInVain_cons, List.append_eq_nil_iff, ih later]
    have single : sentInVain [input] = [] ↔ ∀ order throwsAt call,
        input = .tick order throwsAt → Throws order throwsAt call → call = 0 := by
      cases input with
      | tuple ADD DEC => simp [sentInVain]
      | tick order throwsAt =>
        obtain ⟨call, throws⟩ := here order throwsAt (List.mem_singleton_self _)
        have nonempty : order ≠ [] := List.ne_nil_of_length_pos (by have := throws.2; omega)
        simp only [sentInVain, pushEntries_throws throws, List.append_nil, List.take_eq_nil_iff,
          nonempty, or_false]
        constructor
        · rintro rfl order' throwsAt' call' same throws'
          cases same
          exact Option.some.inj (throws'.1.symm.trans throws.1)
        · intro first
          exact first order throwsAt call rfl throws
    rw [single]
    constructor
    · rintro ⟨first, others⟩ order throwsAt call member throws
      rcases List.mem_cons.mp member with same | member
      · exact first order throwsAt call same.symm throws
      · exact others order throwsAt call member throws
    · intro all
      refine ⟨fun order throwsAt call same => ?_, fun order throwsAt call member => ?_⟩
      · exact all order throwsAt call (same ▸ List.mem_cons_self)
      · exact all order throwsAt call (List.mem_cons_of_mem _ member)

/-! ### The tick that succeeds -/

theorem held_pushes (key : String) (comp : Counters) (order : List (String × Int32)) :
    ((order.foldl (fun db entry => incrCounter db entry.1 entry.2.toInt) comp).value key).getD 0 =
      (comp.value key).getD 0 +
        (order.map fun entry => if entry.1 = key then entry.2.toInt else 0).sum := by
  induction order generalizing comp with
  | nil => simp
  | cons entry rest ih =>
    have first := counter_incr key entry.1 entry.2.toInt ⟨Store.empty, comp⟩
    rw [List.foldl_cons, ih, List.map_cons, List.sum_cons]
    simp only [counter] at first
    rw [first, add_assoc]

/-- A tick that succeeds sends every entry and clears the cache. -/
theorem tick_succeeds {waiting last : TaskState} {order : List (String × Int32)}
    {throwsAt : Option Nat} (succeeds : waiting.execute (.tick order throwsAt) = some (last, .ack)) :
    order.Perm (UserCount.entrySet waiting.cacheMap) ∧ last.pushed = waiting.pushed ++ order ∧
      last.cacheMap = ∅ ∧ ∀ key, held key last = held key waiting + cached key waiting := by
  simp only [TaskState.execute] at succeeds
  split at succeeds
  · rename_i perm
    rcases loop : UserCount.pushEntries throwsAt 0 order with ⟨pushed, answer⟩
    rw [loop] at succeeds
    obtain ⟨after, rfl⟩ := Prod.mk.inj (Option.some.inj succeeds)
    have sent := pushEntries_ack loop
    subst after sent
    refine ⟨perm, rfl, rfl, fun key => ?_⟩
    have flushed := flush_delta key perm
    rw [pendingDelta_secondsToRedis] at flushed
    simp only [held, cached]
    rw [held_pushes, flushed]
  · cases succeeds

/-- Since `s`, every delta has been sent exactly once: for each entry one INCRBY,
and no others. The tuples between the ticks change a delta in its 32 bits. -/
structure FlushedOnce (s : TaskState) (inputs : List Input) (waiting last : TaskState) : Prop where
  empty : last.cacheMap = ∅
  once : last.pushed.Perm (s.pushed ++ UserCount.entrySet waiting.cacheMap)
  counted : ∀ key, held key last =
    held key s + (cached key s + (inputs.map (books key)).sum).bmod (2 ^ 32)

/-- Failing ticks, with tuples between them, and then a tick that succeeds: every
delta is sent exactly once iff every failing tick fails at its first call. -/
theorem flushed_once_iff (s : TaskState) (inputs : List Input) (waiting last : TaskState)
    (order : List (String × Int32)) (throwsAt : Option Nat) (fails : TicksFail inputs)
    (reached : runSteps step s inputs = some waiting)
    (succeeds : waiting.execute (.tick order throwsAt) = some (last, .ack)) :
    FlushedOnce s inputs waiting last ↔
      ∀ order throwsAt call, .tick order throwsAt ∈ inputs → Throws order throwsAt call →
        call = 0 := by
  obtain ⟨sent, cached_waiting, comp_waiting⟩ := run_waiting inputs fails reached
  obtain ⟨perm, sent_last, empty, counted⟩ := tick_succeeds succeeds
  rw [← sentInVain_eq_nil fails]
  constructor
  · intro flushed
    have lengths := flushed.once.length_eq
    rw [sent_last, sent] at lengths
    simp only [List.length_append, perm.length_eq] at lengths
    exact List.length_eq_zero_iff.mp (by omega)
  · intro none_sent
    refine ⟨empty, ?_, fun key => ?_⟩
    · rw [sent_last, sent, none_sent, List.append_nil]
      exact perm.append_left _
    · have same : held key waiting = held key s := by rw [held, comp_waiting none_sent, held]
      rw [counted, same, cached_waiting]

/-- One user of `c1` is cached. -/
def oneUser : TaskState where
  comp := Store.empty
  cacheMap := UserCount.cacheInMapAdd (UserCount.cacheInMapAdd ∅ (totalKey "c1"))
    (partnerKey "p1" "c1")
  pushed := []

/-- The order in which the ticks send its two entries. -/
def totalFirst : List (String × Int32) := [(totalKey "c1", 1), (partnerKey "p1" "c1", 1)]

/-- A first tick fails at its first call, then a tick sends both entries. -/
theorem retried_at_once : ∃ waiting last,
    runSteps step oneUser [.tick totalFirst (some 0)] = some waiting ∧
      waiting.execute (.tick totalFirst none) = some (last, .ack) ∧
      FlushedOnce oneUser [.tick totalFirst (some 0)] waiting last := by
  refine ⟨_, _, rfl, rfl, ?_⟩
  refine (flushed_once_iff oneUser [.tick totalFirst (some 0)] _ _ totalFirst none ?_ rfl rfl).mpr ?_
  · intro order throwsAt member
    cases List.mem_singleton.mp member
    exact ⟨0, rfl, by decide⟩
  · intro order throwsAt call member throws
    cases List.mem_singleton.mp member
    exact (Option.some.inj throws.1).symm

/-- The second call of the first tick throws: `total|c1` is counted twice. -/
theorem flushed_twice :
    ¬ ∀ (s : TaskState) (inputs : List Input) (waiting last : TaskState)
      (order : List (String × Int32)) (throwsAt : Option Nat), TicksFail inputs →
      runSteps step s inputs = some waiting →
      waiting.execute (.tick order throwsAt) = some (last, .ack) →
        FlushedOnce s inputs waiting last := by
  intro once
  obtain ⟨waiting, last, reached, succeeds, counted⟩ : ∃ waiting last,
      runSteps step oneUser [.tick totalFirst (some 1)] = some waiting ∧
        waiting.execute (.tick totalFirst none) = some (last, .ack) ∧
        held (totalKey "c1") last = 2 := ⟨_, _, rfl, rfl, by decide⟩
  have fails : TicksFail [.tick totalFirst (some 1)] := by
    intro order throwsAt member
    cases List.mem_singleton.mp member
    exact ⟨1, rfl, by decide⟩
  have expected := (once _ _ _ _ _ _ fails reached succeeds).counted (totalKey "c1")
  rw [counted] at expected
  exact absurd expected (by decide)

end GitvTime.Guarantees.Realtime.FlushRetry
